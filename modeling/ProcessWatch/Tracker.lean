import ProcessWatch.Notice
import ProcessWatch.Settings
import ProcessWatch.Table.Liveness
import ProcessWatch.Table.Tree
import ProcessWatch.Wire.Status

/-!
# Tracking the processes of a monitor

The tracker joins the statuses of all cycles. A status is applied in three steps: its snapshots are
merged into the table one after the other, the table is brought in line with what the status leaves
out, and the tree of the master process is drawn. A snapshot that cannot be merged, and an entry
that could not even be read, leave the record of their process as it was.
-/

namespace ProcessWatch

/-- What is known of all processes. -/
structure Tracker where
  processes : ProcessTable
  master : Option Identity
  /-- Number of statuses that were applied. -/
  cycles : Nat

/-- What a status changed. -/
structure CycleReport where
  /-- Number of the cycle. -/
  index : Nat
  /-- Number of tracked processes after the cycle. -/
  processes : Nat
  /-- Processes with an entry that could not be merged. -/
  skipped : List Pid
  changes : Changes
  tree : Option ProcessNode

namespace ProcessTable

/-- Merges a snapshot into the table. -/
def track (ctx : CycleContext) (table : ProcessTable) (snapshot : ProcessSnapshot) :
    Except TrackError ProcessTable :=
  match snapshot.pid with
  | none => .error .missingPid
  | some pid =>
    match table.get? pid with
    | some known =>
      if known.isRunning then
        -- a merge that was stopped half way does not get into the table
        let merged := known.merge (.create ctx pid (known.fill snapshot))
        match merged.error with
        | some cause => .error (.clash pid cause)
        | none => .ok (table.insert pid merged.value)
      -- the pid was given to another process
      else .ok (table.insert pid (.create ctx pid snapshot))
    | none => .ok (table.insert pid (.create ctx pid snapshot))

/-- The notice that a snapshot is of a process whose record has stopped. -/
def reappearance (table : ProcessTable) (snapshot : ProcessSnapshot) : List Notice :=
  match snapshot.pid with
  | none => []
  | some pid =>
    match table.get? pid with
    | some known => if known.isRunning then [] else [.reappeared pid]
    | none => []

/-- The names of the files that a tracked process has open. -/
def openFileNames (table : ProcessTable) (pid : Pid) : List String :=
  match table.get? pid with
  | some p => p.openFiles.map (·.name)
  | none => []

end ProcessTable

/-- A table on the way through the snapshots of a status. -/
structure Tracking where
  table : ProcessTable
  skipped : List Pid
  notices : List Notice

namespace Tracking

/-- Merges one snapshot, or skips it. -/
def step (ctx : CycleContext) (t : Tracking) (snapshot : ProcessSnapshot) : Tracking :=
  let notices := t.notices ++ t.table.reappearance snapshot
  match t.table.track ctx snapshot with
  | .ok table => { t with table, notices }
  | .error error =>
    { t with
      skipped := t.skipped ++ snapshot.pid.toList
      notices := notices ++ [.untracked error] }

end Tracking

namespace Entries

/-- The rejected entries that can be blamed on a process. -/
def blamed (entries : Entries) : List Pid := entries.rejected.filterMap (·.pid)

/-- What is told about a rejected entry. -/
def rejection (rejected : Rejected) : Notice :=
  match rejected.pid with
  | none => .ignoredEntry rejected.error
  | some pid => .rejectedEntry pid rejected.error

/-- The open files that a status reports. -/
def reportedFiles (entries : Entries) (table : ProcessTable) : ReportedFiles :=
  let readable := entries.snapshots.filterMap fun s => s.pid.map (·, s.openFiles.keys)
  -- a rejected entry counts as one that lists what is open anyway, so that nothing is closed by it
  let assumed := entries.blamed.map fun pid => (pid, table.openFileNames pid)
  .ofList (readable ++ assumed)

end Entries

namespace Changes

/-- What is told about changes. -/
def notices (changes : Changes) : List Notice :=
  changes.stopped.map .stopped
  ++ changes.closedFiles.map (fun file => .closedFile file.1 file.2)
  ++ (if changes.culled.isEmpty then [] else [.culled changes.culled])

end Changes

namespace Tracker

def empty : Tracker := ⟨.empty, none, 0⟩

def setMaster (t : Tracker) (master : Identity) : Tracker := { t with master := some master }

def masterPid (t : Tracker) : Option Pid := t.master.map (·.pid)

def process? (t : Tracker) (pid : Pid) : Option ProcessRecord := t.processes.get? pid

/-- Whether the identity of a process has to be asked for: it is not running with a known parent. -/
def needsIdentity (t : Tracker) (pid : Pid) : Bool :=
  match t.processes.get? pid with
  | some p => !(p.isRunning && p.parent.isSome)
  | none => true

/-- What the records of the next cycle are built with. -/
def context (t : Tracker) (settings : Settings) : CycleContext :=
  ⟨t.cycles, t.masterPid, settings.capacity, settings.processKeys, settings.fileKeys⟩

def track (t : Tracker) (ctx : CycleContext) (snapshot : ProcessSnapshot) :
    Except TrackError Tracker :=
  (t.processes.track ctx snapshot).map fun processes => { t with processes }

def apply (t : Tracker) (settings : Settings) (entries : Entries) :
    Tracker × CycleReport × List Notice :=
  let ctx := t.context settings
  -- before the merge: what is open then is what a rejected entry stands for
  let reported := entries.reportedFiles t.processes
  let tracking := entries.snapshots.foldl (Tracking.step ctx)
    ⟨t.processes, entries.blamed, entries.rejected.map Entries.rejection⟩
  let (processes, changes) := tracking.table.reconcile settings.keepDeadFor reported
  ({ t with processes, cycles := t.cycles + 1 },
    { index := t.cycles
      processes := processes.size
      skipped := tracking.skipped
      changes
      tree := processes.project settings.treeKeys },
    tracking.notices ++ changes.notices)

end Tracker

end ProcessWatch
