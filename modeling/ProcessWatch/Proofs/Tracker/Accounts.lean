import ProcessWatch.Proofs.Tracker.Fates

/-!
# What a report accounts for

The report of a cycle is put together in several places, from a table that changes between them.
Nothing gets lost between them: every entry of the status has one fate, and the processes that are
tracked, those that run and the open files are the ones of before, with what the status brings and
without what the report names.

* **`CycleReport.Accounts`** — what a report has to account for.
* **`Tracker.accounts_apply`** — and every report does, after every run.
-/

namespace ProcessWatch

/-- A report accounts for all that a status did to a tracker. -/
structure CycleReport.Accounts (report : CycleReport) (settings : Settings) (entries : Entries)
    (before after : Tracker) : Prop where
  /-- Every snapshot has one fate. -/
  fates : (before.fates settings entries).map (·.1) = entries.snapshots
  /-- The merged ones go through, one after the other, into the table of before. The table
  afterwards and the changes are what the status leaves of that by what it leaves out. -/
  merged : ∃ joined,
    (Fate.merged.select (before.fates settings entries)).foldlM
        (ProcessTable.track (before.context settings)) before.processes = .ok joined ∧
      joined.reconcile settings.keepDeadFor (entries.reportedFiles before.processes)
        = (after.processes, report.changes)
  /-- Rejected entries with a pid are listed as skipped, then the skipped snapshots, each once. -/
  skipped : report.skipped = entries.rejected.filterMap (·.pid)
    ++ (Fate.skipped.select (before.fates settings entries)).filterMap (·.pid)
  /-- What has no pid is ignored, and nothing else. -/
  ignored : ∀ s fate, (s, fate) ∈ before.fates settings entries → (fate = .ignored ↔ s.pid = none)
  tracked : ∀ pid, after.processes.Tracks pid ↔
    (before.processes.Tracks pid ∨ ∃ s ∈ entries.snapshots, s.pid = some pid) ∧
      pid ∉ report.changes.culled
  running : ∀ pid, after.processes.Runs pid ↔
    (before.processes.Runs pid ∨ ∃ s ∈ entries.snapshots, s.pid = some pid) ∧
      pid ∉ report.changes.stopped ∧ pid ∉ report.changes.culled
  openFiles : ∀ pid name, after.processes.HasOpen pid name ↔
    (before.processes.HasOpen pid name ∨
        ∃ s, (s, Fate.merged) ∈ before.fates settings entries ∧ s.pid = some pid ∧
          name ∈ s.openFiles.keys) ∧
      (pid, name) ∉ report.changes.closedFiles ∧ pid ∉ report.changes.culled
  stopped_ascending : report.changes.stopped.Pairwise (· < ·)
  closedFiles_ascending :
    report.changes.closedFiles.Pairwise fun a b => a.1 < b.1 ∨ a.1 = b.1 ∧ a.2 < b.2
  culled_ascending : report.changes.culled.Pairwise (· < ·)
  processes : report.processes = after.processes.size

namespace Tracker

/-- Every cycle after every run is accounted for by its report. -/
theorem accounts_apply (events : List Event) (settings : Settings) (entries : Entries) :
    ((after events).apply settings entries).2.1.Accounts settings entries (after events)
      ((after events).apply settings entries).1 := by
  have hbefore : (after events).processes.Placed := placed_after events
  have hjoined : ((after events).joined settings entries).Placed :=
    placed_joined hbefore settings entries
  refine
    { fates := Tracking.map_fst_fates _ _ _
      merged := ⟨(after events).joined settings entries,
        Tracking.foldlM_merged ((after events).tracking entries) _, rfl⟩
      skipped := by rw [skipped_apply, Tracking.skipped_foldl]; rfl
      ignored := fun _ _ => Tracking.eq_ignored_iff
      tracked := ?_
      running := ?_
      openFiles := ?_
      stopped_ascending := ProcessTable.ascending_stopping hjoined.keyed _
      closedFiles_ascending := ProcessTable.ascending_closing hjoined _
      culled_ascending := ProcessTable.ascending_culled _ _ _
      processes := rfl }
  -- the snapshots only add to the table, and what follows them only takes away
  · intro pid
    rw [← tracks_joined]
    exact ProcessTable.tracks_reconcile
  · intro pid
    rw [← runs_joined]
    exact ProcessTable.runs_reconcile hjoined.keyed
  · intro pid name
    rw [← hasOpen_joined hbefore]
    exact ProcessTable.hasOpen_reconcile hjoined

/-- A run with three processes, two of which have a file open. -/
def busyRun : List Event :=
  [.applied .default (.ofStatus (.byPid
    [("1", .object [("x", .bool true), ("open_files", .object [("/log", .object [])])]),
     ("3", .object [("open_files", .object [("/data", .object [])])]),
     ("4", .object [])]))]

/-- A status with an entry that clashes, one of a new process, one that cannot be read and one
without a pid. It leaves one process out. -/
def mixedStatus : Entries :=
  .ofStatus (.byPid
    [("1", .object [("x", .array [])]),
     ("2", .object [("open_files", .object [("/tmp", .object [])])]),
     ("3", .bool true),
     ("none", .object [])])

/-- Settings that keep no process that has stopped. -/
def forgetful : Settings := { Settings.default with keepDeadFor := 0 }

example : ((after busyRun).apply forgetful mixedStatus).2.1.skipped = [3, 1] ∧
    ((after busyRun).apply forgetful mixedStatus).2.1.changes = ⟨[4], [(1, "/log")], [4]⟩ := by
  decide

end Tracker

end ProcessWatch
