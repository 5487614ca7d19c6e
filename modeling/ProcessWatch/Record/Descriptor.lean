import ProcessWatch.Attributes
import ProcessWatch.History
import ProcessWatch.Wire.Snapshot

/-!
# What is known of a descriptor

A descriptor keeps its kind, its mode and its flags as they were first seen, and its position, size
and time of stat as they were last seen. Its history gets one sample a snapshot.
-/

namespace ProcessWatch

/-- What the records of one poll cycle are built with. -/
structure CycleContext where
  index : Nat
  masterPid : Option Pid
  capacity : Capacity
  processKeys : List String
  fileKeys : List String

/-- The sample of the fields named by `keys`, as far as they have a value. Number and time of the
cycle are part of every sample and no fields of it. -/
def Sample.ofFields (index : Nat) (time : Option Float) (keys : List String)
    (field : String → Option Json) : Sample :=
  let keys := keys.filter fun key => key ≠ "index" ∧ key ≠ "time"
  ⟨index, time, .ofList (keys.filterMap fun key => (field key).map (key, ·))⟩

/-- A descriptor of an open file, as it was seen over several cycles. -/
structure DescriptorRecord where
  id : String
  kind : Option String
  readOnly : Option Bool
  flags : Option Int64
  pos : Option Int64
  size : Option UInt64
  timeOfStat : Option Float
  attributes : Fields
  history : History Sample

namespace DescriptorRecord

/-- The field named `key`, typed or not. -/
def field (d : DescriptorRecord) (key : String) : Option Json :=
  match key with
  | "id" => some (.string d.id)
  | "type" => d.kind.map .string
  | "read_only" => d.readOnly.map .bool
  | "flags" => d.flags.map .ofInteger64
  | "pos" => d.pos.map .ofInteger64
  | "size" => d.size.map .ofWord64
  | "time_of_stat" => d.timeOfStat.map .float
  | key => Fields.get? key d.attributes

def ofSnapshot (ctx : CycleContext) (time : Option Float) (id : String)
    (snapshot : DescriptorSnapshot) : DescriptorRecord :=
  let d : DescriptorRecord :=
    { id
      kind := snapshot.kind
      readOnly := snapshot.readOnly
      flags := snapshot.flags
      pos := snapshot.pos.value?
      size := snapshot.size.value?
      timeOfStat := snapshot.timeOfStat.value?
      attributes := snapshot.fields
      history := .empty ctx.capacity }
  let sample := Sample.ofFields ctx.index time ctx.fileKeys d.field
  { d with history := (d.history.append sample).1 }

/-- Merges what was seen now into what was seen before. -/
def merge (d incoming : DescriptorRecord) : Merged DescriptorRecord :=
  let attributes := Attributes.merge d.attributes incoming.attributes
  match attributes.error with
  | some error => ⟨{ d with attributes := attributes.value }, some error⟩
  | none => .done
    -- what a descriptor was opened as stays, and where it stands is taken over
    { id := d.id
      kind := keepFirst d.kind incoming.kind
      readOnly := keepFirst d.readOnly incoming.readOnly
      flags := keepFirst d.flags incoming.flags
      pos := incoming.pos
      size := incoming.size
      timeOfStat := incoming.timeOfStat
      attributes := attributes.value
      history := d.history.merge incoming.history }

/-- Fills the fields that a snapshot leaves out with what is known. -/
def fill (d : DescriptorRecord) (snapshot : DescriptorSnapshot) : DescriptorSnapshot :=
  { snapshot with
    pos := snapshot.pos.orKnown d.pos
    size := snapshot.size.orKnown d.size
    timeOfStat := snapshot.timeOfStat.orKnown d.timeOfStat }

end DescriptorRecord

end ProcessWatch
