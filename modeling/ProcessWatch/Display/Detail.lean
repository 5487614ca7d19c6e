import ProcessWatch.Display.Attribute
import ProcessWatch.Record.Process

/-!
# One process in detail

A process with its latest samples and every file that it has or had open.
-/

namespace ProcessWatch.Display

def headKeys : List String := ["is_master", "is_running", "parent_pid", "age", "cmdline"]

def descriptorKeys : List String := ["type", "read_only", "flags", "pos", "size", "time_of_stat"]

def fieldsOf (keys : List String) (field : String → Option Json) : List (String × Json) :=
  keys.filterMap fun key => (field key).map (key, ·)

def headLine (colored : Bool) (p : ProcessRecord) : String :=
  words (Ink.bold.paint colored (toString p.pid) :: fieldTexts colored (fieldsOf headKeys p.field))

def descriptorLine (colored : Bool) (d : DescriptorRecord) : String :=
  words (Ink.bold.paint colored d.id :: fieldTexts colored (fieldsOf descriptorKeys d.field))

def sampleLine (colored : Bool) (sample : Sample) : String :=
  words <|
    Ink.dim.paint colored ("#" ++ toString sample.index)
      :: fieldTexts colored
        (Json.optionalField "time" Json.float sample.time ++ sample.values.entries)

def sampleLines (colored : Bool) (indent : String) (count : Nat) (history : History Sample) :
    List String :=
  (history.recent count).map fun sample => indent ++ sampleLine colored sample

def fileLines (colored : Bool) (count : Nat) (file : FileRecord) : List String :=
  let status :=
    if file.isOpen then Ink.green.paint colored "open" else Ink.red.paint colored "closed"
  ("  " ++ file.name ++ " " ++ status)
    :: file.descriptors.values.flatMap fun d =>
      ("    " ++ descriptorLine colored d) :: sampleLines colored "      " count d.history

/-- A process with at most `count` samples of every history. -/
def process (colored : Bool) (count : Nat) (p : ProcessRecord) : String :=
  let shown := min count p.history.size
  lines <|
    [headLine colored p,
     "history (" ++ toString shown ++ " of " ++ toString p.history.size ++ " samples)"]
    ++ sampleLines colored "  " count p.history
    ++ (if p.files.entries.isEmpty then [] else ["files"])
    ++ p.files.values.flatMap (fileLines colored count)

end ProcessWatch.Display
