import ProcessWatch.CommandLine.Basic
import ProcessWatch.Text.Digits

/-!
# Flags and their values

Every flag takes one value. Most are given at most once; the lists of fields may be given several
times, and a value of them is a list itself.
-/

namespace ProcessWatch

inductive Flag where
  | url
  | configName
  | configPath
  | interval
  | capacity
  | keepDeadFor
  | processKeys
  | fileKeys
  | treeKeys
  | count
  | format
  | pid
  | samples
deriving Repr, DecidableEq

namespace Flag

def name : Flag → String
  | url => "url"
  | configName => "config-name"
  | configPath => "config"
  | interval => "interval-ms"
  | capacity => "history"
  | keepDeadFor => "keep-dead-for"
  | processKeys => "process-history-keys"
  | fileKeys => "file-history-keys"
  | treeKeys => "tree-keys"
  | count => "count"
  | format => "format"
  | pid => "pid"
  | samples => "samples"

def all : List Flag :=
  [url, configName, configPath, interval, capacity, keepDeadFor, processKeys, fileKeys, treeKeys,
    count, format, pid, samples]

/-- Whether a flag may follow a command, or stand before it. -/
def fits (command : Option Command) : Flag → Bool
  | url | configName | configPath => true
  | count => command = some .watch
  | _ => command.any Command.tracks

def ofName? (command : Option Command) (name : String) : Option Flag :=
  all.find? fun flag => flag.name == name && flag.fits command

end Flag

/-! ## Values -/

namespace Value

/-- A number of 64 bits without a sign, apart from a plus. -/
def word64 (text : String) : Except Refusal UInt64 :=
  let digits := match text.toList with
    | '+' :: digits => digits
    | digits => digits
  match (Text.natural? 10 digits).filter (· < UInt64.size) with
  | some n => .ok n.toUInt64
  | none => .error .invalidNumber

/-- A number of 32 bits. It may have a sign, although no negative one is in range. -/
def word32 (text : String) : Except Refusal UInt32 :=
  let number := match text.toList with
    | '-' :: digits => (Text.natural? 10 digits).filter (· = 0)
    | '+' :: digits => Text.natural? 10 digits
    | digits => Text.natural? 10 digits
  match number.filter (· < UInt32.size) with
  | some n => .ok n.toUInt32
  | none => .error .invalidNumber

/-- A path, which is not empty. -/
def path (text : String) : Except Refusal String :=
  if text.isEmpty then .error .invalidValue else .ok text

def format (text : String) : Except Refusal OutputFormat :=
  match text with
  | "tree" => .ok .tree
  | "table" => .ok .table
  | "json" => .ok .json
  | _ => .error .invalidValue

/-- Reads the value of a flag that is given once. -/
def once {α : Type} (read : String → Except Refusal α) (given : Option α) (text : String) :
    Except Refusal (Option α) :=
  match given with
  | some _ => .error .repeatedFlag
  | none => (read text).map some

/-- Adds the items of a list to those that were given before. -/
def items (given : Option (List String)) (text : String) : Option (List String) :=
  some (given.getD [] ++ text.splitOn ",")

end Value

/-- The values that are given before a command, or behind it. -/
structure Given where
  url : Option String
  configName : Option String
  configPath : Option String
  preferences : Preferences
  count : Option UInt64
  format : Option OutputFormat
  pid : Option Pid
  samples : Option UInt64
  /-- The process that a command is about. -/
  argument : Option Pid

namespace Given

def none : Given := ⟨.none, .none, .none, .none, .none, .none, .none, .none, .none⟩

def take (given : Given) (flag : Flag) (text : String) : Except Refusal Given := do
  let p := given.preferences
  match flag with
  | .url => return { given with url := ← Value.once .ok given.url text }
  | .configName => return { given with configName := ← Value.once .ok given.configName text }
  | .configPath =>
    return { given with configPath := ← Value.once Value.path given.configPath text }
  | .interval =>
    return { given with preferences.interval := ← Value.once Value.word64 p.interval text }
  | .capacity =>
    return { given with preferences.capacity := ← Value.once Value.word64 p.capacity text }
  | .keepDeadFor =>
    return { given with preferences.keepDeadFor := ← Value.once Value.word32 p.keepDeadFor text }
  | .processKeys =>
    return { given with preferences.processKeys := Value.items p.processKeys text }
  | .fileKeys => return { given with preferences.fileKeys := Value.items p.fileKeys text }
  | .treeKeys => return { given with preferences.treeKeys := Value.items p.treeKeys text }
  | .count => return { given with count := ← Value.once Value.word64 given.count text }
  | .format => return { given with format := ← Value.once Value.format given.format text }
  | .pid => return { given with pid := ← Value.once Value.word32 given.pid text }
  | .samples => return { given with samples := ← Value.once Value.word64 given.samples text }

def view (given : Given) : View where
  format := given.format.getD .tree
  pid := given.pid
  samples := given.samples.elim 10 UInt64.toNat

def job (given : Given) : Command → Job
  | .watch => .watch given.count given.preferences given.view
  | .status => .status given.preferences given.view
  | .basic => .basic given.argument

end Given

end ProcessWatch
