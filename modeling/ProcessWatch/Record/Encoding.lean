import ProcessWatch.Record.Process

/-!
# Records as JSON

The typed fields of a record come first, its attributes next, and its histories and files last.
-/

namespace ProcessWatch

def Sample.toJson (sample : Sample) : Json :=
  .object <|
    [("index", Json.nat sample.index)]
    ++ Json.optionalField "time" Json.float sample.time
    ++ sample.values.entries

def History.toJson (history : History Sample) : Json := .array (history.samples.map Sample.toJson)

def DescriptorRecord.toJson (d : DescriptorRecord) : Json :=
  .object <|
    [("id", Json.string d.id)]
    ++ Json.optionalField "type" Json.string d.kind
    ++ Json.optionalField "read_only" Json.bool d.readOnly
    ++ Json.optionalField "flags" Json.ofInteger64 d.flags
    ++ Json.optionalField "pos" Json.ofInteger64 d.pos
    ++ Json.optionalField "size" Json.ofWord64 d.size
    ++ Json.optionalField "time_of_stat" Json.float d.timeOfStat
    ++ d.attributes
    ++ [("history", d.history.toJson)]

def FileRecord.toJson (file : FileRecord) : Json :=
  .object
    [("name", Json.string file.name),
     ("is_open", Json.bool file.isOpen),
     ("descriptors", Json.ofMap DescriptorRecord.toJson file.descriptors)]

def ProcessRecord.toJson (p : ProcessRecord) : Json :=
  .object <|
    [("pid", Json.ofWord32 p.pid)]
    ++ Json.optionalField "parent_pid" Json.ofWord32 p.parent
    ++ [("is_master", Json.bool p.isMaster), ("is_running", Json.bool p.isRunning)]
    ++ Json.optionalField "age" Json.ofWord32 p.age
    ++ Json.optionalField "time" Json.float p.time
    ++ p.attributes
    ++ [("history", p.history.toJson), ("files", Json.ofMap FileRecord.toJson p.files)]

end ProcessWatch
