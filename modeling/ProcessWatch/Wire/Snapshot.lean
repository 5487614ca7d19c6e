import ProcessWatch.Wire.Reported

/-!
# The state of a process at one instant

An entry of a status. The typed fields are read first to last in the order of the object, and all
others are kept as they came. What was left out, what is `null` and what has a value stay apart.
-/

namespace ProcessWatch

/-- An open file as one descriptor sees it. -/
structure DescriptorSnapshot where
  kind : Option String
  readOnly : Option Bool
  flags : Option Int64
  pos : Reported Int64
  size : Reported UInt64
  timeOfStat : Reported Float
  /-- Any other field. -/
  fields : Fields
deriving Inhabited

/-- Open files: name of the file, number of the descriptor, what it sees. -/
abbrev OpenFiles := SortedMap String (SortedMap String DescriptorSnapshot)

/-- One process at the instant the status was served. -/
structure ProcessSnapshot where
  pid : Option Pid
  parent : Reported Pid
  /-- Seconds since the epoch. -/
  time : Reported Float
  openFiles : OpenFiles
  /-- Metrics and any other field. -/
  fields : Fields
deriving Inhabited

namespace DescriptorSnapshot

/-- A descriptor of which nothing was sent. -/
def empty : DescriptorSnapshot := ⟨none, none, none, .absent, .absent, .absent, []⟩

def readField (d : DescriptorSnapshot) (key : String) (value : Json) :
    Except Mismatch DescriptorSnapshot :=
  match key with
  | "type" => return { d with kind := ← value.toOption Json.toText }
  | "read_only" => return { d with readOnly := ← value.toOption Json.toBoolean }
  | "flags" => return { d with flags := ← value.toOption Json.toInteger64 }
  | "pos" => return { d with pos := ← Reported.ofJson Json.toInteger64 value }
  | "size" => return { d with size := ← Reported.ofJson Json.toWord64 value }
  | "time_of_stat" => return { d with timeOfStat := ← Reported.ofJson Json.toDouble value }
  | _ => return { d with fields := Fields.set key value d.fields }

/-- Reads fields in order, up to the first that does not fit. -/
def readFields (d : DescriptorSnapshot) : Fields → Except Mismatch DescriptorSnapshot
  | [] => .ok d
  | (key, value) :: rest => do (← d.readField key value).readFields rest

def ofJson (value : Json) : Except Mismatch DescriptorSnapshot := do
  empty.readFields (← value.toFields .descriptorSnapshot)

/-- Writes a descriptor: the typed fields, then the others. -/
def toJson (d : DescriptorSnapshot) : Json :=
  .object <|
    Json.optionalField "type" Json.string d.kind
    ++ Json.optionalField "read_only" Json.bool d.readOnly
    ++ Json.optionalField "flags" Json.ofInteger64 d.flags
    ++ d.pos.toFields "pos" Json.ofInteger64
    ++ d.size.toFields "size" Json.ofWord64
    ++ d.timeOfStat.toFields "time_of_stat" Json.float
    ++ d.fields

end DescriptorSnapshot

namespace ProcessSnapshot

/-- A process of which nothing was sent. -/
def empty : ProcessSnapshot := ⟨none, .absent, .absent, .empty, []⟩

def readField (s : ProcessSnapshot) (key : String) (value : Json) :
    Except Mismatch ProcessSnapshot :=
  match key with
  | "pid" => return { s with pid := ← value.toOption Json.toWord32 }
  | "parent_pid" => return { s with parent := ← Reported.ofJson Json.toWord32 value }
  | "time" => return { s with time := ← Reported.ofJson Json.toDouble value }
  | "open_files" =>
    return { s with openFiles := ← value.toMap (Json.toMap DescriptorSnapshot.ofJson) }
  | _ => return { s with fields := Fields.set key value s.fields }

/-- Reads fields in order, up to the first that does not fit. -/
def readFields (s : ProcessSnapshot) : Fields → Except Mismatch ProcessSnapshot
  | [] => .ok s
  | (key, value) :: rest => do (← s.readField key value).readFields rest

def ofJson (value : Json) : Except Mismatch ProcessSnapshot := do
  empty.readFields (← value.toFields .processSnapshot)

/-- Writes a process: the typed fields, then the others. The open files are always written. -/
def toJson (s : ProcessSnapshot) : Json :=
  .object <|
    Json.optionalField "pid" Json.ofWord32 s.pid
    ++ s.parent.toFields "parent_pid" Json.ofWord32
    ++ s.time.toFields "time" Json.float
    ++ [("open_files", Json.ofMap (Json.ofMap DescriptorSnapshot.toJson) s.openFiles)]
    ++ s.fields

end ProcessSnapshot

end ProcessWatch
