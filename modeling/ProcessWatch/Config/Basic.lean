import ProcessWatch.Preferences
import ProcessWatch.Yaml.Document

/-!
# The configuration

What a configuration file asks for: the address of the monitor and the settings. A file is a YAML
mapping with a section for each matter. Every field may be missing or null and unknown fields are
ignored, but a known field may stand only once and has to have the right shape.
-/

namespace ProcessWatch

namespace Yaml

/-- The natural number of a text: decimal without leading zeros, or in base 16, 8 or 2 behind a
sign of the base. -/
def natural? (text : String) : Option Nat :=
  let digits := match text.toList with
    | '+' :: digits => digits
    | digits => digits
  match digits with
  | '0' :: 'x' :: digits => Text.natural? 16 digits
  | '0' :: 'o' :: digits => Text.natural? 8 digits
  | '0' :: 'b' :: digits => Text.natural? 2 digits
  | ['0'] => some 0
  | '0' :: _ => none
  | digits => Text.natural? 10 digits

/-- The natural number below `limit` that a plain scalar stands for. -/
def natural (limit : Nat) : Yaml → Option Nat
  | scalar false text => (natural? text).filter (· < limit)
  | _ => none

def word32? (value : Yaml) : Option UInt32 := (value.natural UInt32.size).map Nat.toUInt32

def word64? (value : Yaml) : Option UInt64 := (value.natural UInt64.size).map Nat.toUInt64

def texts? (value : Yaml) : Option (List String) := do (← value.items?).mapM text?

/-- Reads the field of a name, if it is there; a field that stands twice cannot be read. -/
def field? {α : Type} (read : Yaml → Option α) (name : String) (fields : List (String × Yaml)) :
    Option (Option α) :=
  match fields.filter fun field => field.1 == name with
  | [] => some none
  | [(_, value)] => (read value).map some
  | _ => none

/-- Reads a field that may also be null. -/
def optional? {α : Type} (read : Yaml → Option α) (name : String)
    (fields : List (String × Yaml)) : Option (Option α) :=
  (field? (fun value => if value.isNull then some none else (read value).map some) name fields).map
    Option.join

/-- Reads the fields of a section; a section that is not there has none. -/
def section? (name : String) (fields : List (String × Yaml)) : Option (List (String × Yaml)) :=
  (field? fields? name fields).map (·.getD [])

end Yaml

structure Config where
  url : Option String
  preferences : Preferences
deriving Repr, DecidableEq

namespace Config

def none : Config := ⟨.none, .none⟩

def ofYaml? (value : Yaml) : Option Config := do
  let fields ← value.fields?
  let url ← Yaml.optional? Yaml.text? "url" fields
  let polling ← Yaml.section? "polling" fields
  let interval ← Yaml.optional? Yaml.word64? "interval-ms" polling
  let history ← Yaml.section? "history" fields
  let capacity ← Yaml.optional? Yaml.word64? "capacity" history
  let processKeys ← Yaml.optional? Yaml.texts? "process-keys" history
  let fileKeys ← Yaml.optional? Yaml.texts? "file-keys" history
  let retention ← Yaml.section? "retention" fields
  let keepDeadFor ← Yaml.optional? Yaml.word32? "keep-dead-for" retention
  let tree ← Yaml.section? "tree" fields
  let treeKeys ← Yaml.optional? Yaml.texts? "keys" tree
  return ⟨url, { interval, capacity, keepDeadFor, processKeys, fileKeys, treeKeys }⟩

def ofBytes? (content : ByteArray) : Option Config := do
  ofYaml? (← Yaml.read? (← String.fromUTF8? content))

/-- Where the monitor is expected if nobody says anything else. -/
def defaultUrl : String := "http://localhost:8889/"

/-- The address of the monitor: as asked for, else as configured. -/
def chosenUrl (config : Config) (asked : Option String) : String :=
  (asked <|> config.url).getD defaultUrl

/-- The settings: as asked for, else as configured. -/
def settings (config : Config) (asked : Preferences) : Except SettingsError Settings :=
  (asked.orElse config.preferences).settings

end Config

end ProcessWatch
