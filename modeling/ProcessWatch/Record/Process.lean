import ProcessWatch.Record.File

/-!
# What is known of a process

The record of a process joins the snapshots of all cycles since it was first seen. Some of its
fields belong to the tracking and not to the monitor: what an answer says about those is dropped.
-/

namespace ProcessWatch

/-- A process as it was seen over several cycles. -/
structure ProcessRecord where
  pid : Pid
  parent : Option Pid
  isMaster : Bool
  isRunning : Bool
  /-- Number of cycles since the process was last seen running. -/
  age : Option UInt32
  time : Option Float
  attributes : Fields
  history : History Sample
  files : SortedMap String FileRecord

/-- The fields that the tracking decides and no answer can set. -/
def trackedFields : List String := ["is_running", "is_master", "age", "history", "files"]

/-- Why a snapshot cannot be tracked. -/
inductive TrackError where
  | missingPid
  /-- The snapshot clashes with what is known of the process. -/
  | clash (pid : Pid) (cause : MergeError)
deriving Repr, DecidableEq

namespace TrackError

def message : TrackError → String
  | .missingPid => "Cannot track a process status without a pid"
  | .clash pid cause =>
    "Failed to merge the status of process " ++ toString pid ++ ": " ++ cause.message

end TrackError

namespace ProcessRecord

/-- The field named `key`, typed or not. -/
def field (p : ProcessRecord) (key : String) : Option Json :=
  match key with
  | "pid" => some (.ofWord32 p.pid)
  | "parent_pid" => p.parent.map .ofWord32
  | "is_master" => some (.bool p.isMaster)
  | "is_running" => some (.bool p.isRunning)
  | "age" => p.age.map .ofWord32
  | "time" => p.time.map .float
  | key => Fields.get? key p.attributes

/-- The record of a process that is seen for the first time. -/
def create (ctx : CycleContext) (pid : Pid) (snapshot : ProcessSnapshot) : ProcessRecord :=
  let time := snapshot.time.value?
  let p : ProcessRecord :=
    { pid
      parent := snapshot.parent.value?
      isMaster := ctx.masterPid == some pid
      isRunning := true
      age := none
      time
      -- an answer cannot set what the tracking decides
      attributes := Fields.without trackedFields snapshot.fields
      history := .empty ctx.capacity
      files := snapshot.openFiles.mapWithKey (FileRecord.ofSnapshot ctx time) }
  -- taken from the record itself, so typed fields and attributes are sampled alike
  let sample := Sample.ofFields ctx.index time ctx.processKeys p.field
  { p with history := (p.history.append sample).1 }

/-- The record of a snapshot, which needs a pid. -/
def ofSnapshot (ctx : CycleContext) (snapshot : ProcessSnapshot) :
    Except TrackError ProcessRecord :=
  match snapshot.pid with
  | some pid => .ok (create ctx pid snapshot)
  | none => .error .missingPid

def openFiles (p : ProcessRecord) : List FileRecord := p.files.values.filter (·.isOpen)

/-- Fills the fields that a snapshot leaves out with what is known. -/
def fill (p : ProcessRecord) (snapshot : ProcessSnapshot) : ProcessSnapshot :=
  { snapshot with
    parent := snapshot.parent.orKnown p.parent
    time := snapshot.time.orKnown p.time
    openFiles := snapshot.openFiles.mapWithKey fun name descriptors =>
      match p.files.get? name with
      | some file => file.fill descriptors
      | none => descriptors }

/-- Merges what was seen now into what was seen before. -/
def merge (p incoming : ProcessRecord) : Merged ProcessRecord :=
  -- attributes, then files, then the rest: a clash leaves what was merged before it
  let attributes := Attributes.merge p.attributes incoming.attributes
  match attributes.error with
  | some error => ⟨{ p with attributes := attributes.value }, some error⟩
  | none =>
    let files := Merged.maps FileRecord.merge p.files incoming.files
    match files.error with
    | some error => ⟨{ p with attributes := attributes.value, files := files.value }, some error⟩
    | none => .done
      { pid := p.pid
        parent := incoming.parent
        isMaster := incoming.isMaster
        isRunning := incoming.isRunning
        age := incoming.age
        time := incoming.time
        attributes := attributes.value
        history := p.history.merge incoming.history
        files := files.value }

end ProcessRecord

end ProcessWatch
