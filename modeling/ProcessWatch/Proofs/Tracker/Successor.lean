import ProcessWatch.Proofs.Tracker.Placed

/-!
# Processes that follow a stopped one

When a pid is given to another process, nothing of the record of the stopped process gets into the
new one, nor into anything else that a cycle shows. A status that has a readable entry of the new
process does the same whether the old record is still kept or not.

* **`ProcessRecord.alive`** — all that a snapshot looks at in what is known: the record of a process
  that runs.
* **`ProcessRecord.follow_of_stopped`** — the snapshots of a status make the same of a stopped
  process as of none.
* **`Tracking.skipped_congr`** — and skip the same processes.
* **`Tracker.apply_forget`** — so a cycle leads to the same tracker and the same report.
-/

namespace ProcessWatch

namespace ProcessRecord

variable {ctx : CycleContext} {pid : Pid} {known : Option ProcessRecord}

/-- The record of a process, if the process runs. -/
def alive (known : Option ProcessRecord) : Option ProcessRecord := known.filter (·.isRunning)

/-- A stopped process leaves nothing behind for its successor. -/
theorem alive_of_stopped (stopped : ∀ p, known = some p → p.isRunning = false) :
    alive known = none := by
  refine Option.filter_eq_none_iff.2 fun p hp => ?_
  rw [stopped p hp]
  exact Bool.false_ne_true

/-- A snapshot does not tell a stopped record from none. -/
theorem renew_alive (s : ProcessSnapshot) :
    renew ctx pid (alive known) s = renew ctx pid known s := by
  by_cases stopped : ∀ p, known = some p → p.isRunning = false
  · rw [alive_of_stopped stopped, renew_of_not_running stopped]
    rfl
  · have ⟨p, hp, hrun⟩ : ∃ p, known = some p ∧ p.isRunning = true := by simpa using stopped
    have halive : alive known = known := by
      rw [hp, alive, Option.filter_some, if_pos hrun]
    rw [halive]

/-- So two records that are alive alike are renewed alike. -/
theorem renew_congr {known' : Option ProcessRecord} (h : alive known = alive known')
    (s : ProcessSnapshot) : renew ctx pid known s = renew ctx pid known' s := by
  rw [← renew_alive, h, renew_alive]

/-- The first snapshot of a stopped process begins a new record, as if there were none. -/
theorem follow_of_stopped {snapshots : List ProcessSnapshot}
    (stopped : ∀ p, known = some p → p.isRunning = false)
    (listed : ∃ s ∈ snapshots, s.pid = some pid) :
    follow ctx pid known snapshots = follow ctx pid none snapshots := by
  induction snapshots with
  | nil =>
    obtain ⟨_, hmem, _⟩ := listed
    cases hmem
  | cons s rest ih =>
    by_cases hs : s.pid = some pid
    · -- both begin with the same new record here, and go on from it
      rw [follow_ok hs (renew_of_not_running stopped), follow_ok hs rfl]
    · rw [follow_other hs, follow_other hs]
      obtain ⟨s', hmem, hpid⟩ := listed
      rcases List.mem_cons.1 hmem with rfl | hrest
      · exact absurd hpid hs
      · exact ih ⟨s', hrest, hpid⟩

end ProcessRecord

namespace Tracking

open ProcessRecord (alive renew renew_congr)

variable {ctx : CycleContext} {t t' : Tracking}

/-- Tables with the same running processes look alike to a snapshot: it is skipped on both or on
neither, and the running processes stay the same. -/
theorem step_congr (ctx : CycleContext)
    (halive : ∀ pid, alive (t.table.get? pid) = alive (t'.table.get? pid))
    (hskipped : t.skipped = t'.skipped) (s : ProcessSnapshot) :
    (∀ pid, alive ((t.step ctx s).table.get? pid) = alive ((t'.step ctx s).table.get? pid)) ∧
      (t.step ctx s).skipped = (t'.step ctx s).skipped := by
  cases hpid : s.pid with
  | none =>
    obtain ⟨htable, hs⟩ := step_of_no_pid ctx t hpid
    obtain ⟨htable', hs'⟩ := step_of_no_pid ctx t' hpid
    rw [htable, hs, htable', hs']
    exact ⟨halive, hskipped⟩
  | some pid =>
    -- whether the snapshot clashes is decided by what is alive, which is the same on both sides
    have hsame : renew ctx pid (t.table.get? pid) s = renew ctx pid (t'.table.get? pid) s :=
      renew_congr (halive pid) s
    cases hrenew : renew ctx pid (t.table.get? pid) s with
    | error cause =>
      obtain ⟨htable, hs⟩ := step_of_error hpid hrenew
      obtain ⟨htable', hs'⟩ := step_of_error hpid (hsame ▸ hrenew)
      rw [htable, hs, htable', hs', hskipped]
      exact ⟨halive, rfl⟩
    | ok p =>
      obtain ⟨htable, hs⟩ := step_of_ok hpid hrenew
      obtain ⟨htable', hs'⟩ := step_of_ok hpid (hsame ▸ hrenew)
      rw [htable, hs, htable', hs']
      refine ⟨?_, hskipped⟩
      intro other
      by_cases hother : other = pid
      · subst hother
        rw [SortedMap.get?_insert_self, SortedMap.get?_insert_self]
      · rw [SortedMap.get?_insert_of_ne _ _ hother, SortedMap.get?_insert_of_ne _ _ hother]
        exact halive other

theorem skipped_congr (halive : ∀ pid, alive (t.table.get? pid) = alive (t'.table.get? pid))
    (hskipped : t.skipped = t'.skipped) (snapshots : List ProcessSnapshot) :
    (snapshots.foldl (step ctx) t).skipped = (snapshots.foldl (step ctx) t').skipped := by
  induction snapshots generalizing t t' with
  | nil => exact hskipped
  | cons s rest ih =>
    obtain ⟨hstepAlive, hstepSkipped⟩ := step_congr ctx halive hskipped s
    exact ih hstepAlive hstepSkipped

end Tracking

namespace Tracker

variable {t : Tracker} {settings : Settings} {entries : Entries} {pid : Pid} {p : ProcessRecord}

/-- The tracker without the record of a process. -/
def forget (t : Tracker) (pid : Pid) : Tracker :=
  { t with processes := t.processes.filter fun k _ => k != pid }

/-- A process has one record, so all of them have stopped if that has. -/
theorem stopped_of_known (known : t.process? pid = some p) (stopped : p.isRunning = false) :
    ∀ q, t.process? pid = some q → q.isRunning = false := by
  intro q hq
  rw [known] at hq
  cases hq
  exact stopped

theorem process?_forget_self (t : Tracker) (pid : Pid) : (t.forget pid).process? pid = none := by
  show (t.processes.filter fun k _ => k != pid).get? pid = none
  rw [SortedMap.get?_filter, Option.filter_eq_none_iff]
  intro p _
  rw [bne_self_eq_false]
  exact Bool.false_ne_true

theorem process?_forget_of_ne {other : Pid} (h : other ≠ pid) :
    (t.forget pid).process? other = t.process? other := by
  show (t.processes.filter fun k _ => k != pid).get? other = t.processes.get? other
  rw [SortedMap.get?_filter, bne_iff_ne.2 h]
  cases t.processes.get? other <;> rfl

/-- The record of a stopped process has no open file to stand in for a rejected entry. -/
theorem reportedFiles_forget (known : t.process? pid = some p) (hopen : p.openFiles = []) :
    entries.reportedFiles (t.forget pid).processes = entries.reportedFiles t.processes := by
  have hnames (other : Pid) :
      (t.forget pid).processes.openFileNames other = t.processes.openFileNames other := by
    unfold ProcessTable.openFileNames
    by_cases hother : other = pid
    · subst hother
      have hnone : (t.forget other).processes.get? other = none := process?_forget_self t other
      have hknown : t.processes.get? other = some p := known
      rw [hnone, hknown]
      dsimp only
      -- no open files are listed for a stopped process, as for one that is not there
      rw [hopen]
      rfl
    · have hsame : (t.forget pid).processes.get? other = t.processes.get? other :=
        process?_forget_of_ne hother
      rw [hsame]
  have hassumed : entries.assumed (t.forget pid).processes = entries.assumed t.processes :=
    List.map_congr_left fun other _ => by rw [hnames other]
  show SortedMap.ofList (entries.readable ++ entries.assumed _) = SortedMap.ofList _
  rw [hassumed]
  rfl

/-- A status that lists a stopped process leads to the same table with its old record or without. -/
theorem joined_forget (stopped : ∀ p, t.process? pid = some p → p.isRunning = false)
    (listed : ∃ s ∈ entries.snapshots, s.pid = some pid) :
    (t.forget pid).joined settings entries = t.joined settings entries := by
  apply SortedMap.ext_get?
  intro other
  have hctx : (t.forget pid).context settings = t.context settings := rfl
  rw [get?_joined, get?_joined, hctx]
  by_cases hother : other = pid
  · subst hother
    rw [process?_forget_self, ProcessRecord.follow_of_stopped stopped listed]
  · rw [process?_forget_of_ne hother]

/-- A status skips the same processes with the old record or without. -/
theorem skipped_forget (stopped : ∀ p, t.process? pid = some p → p.isRunning = false) :
    ((t.forget pid).apply settings entries).2.1.skipped
      = (t.apply settings entries).2.1.skipped := by
  have halive (other : Pid) :
      ProcessRecord.alive (((t.forget pid).tracking entries).table.get? other)
        = ProcessRecord.alive ((t.tracking entries).table.get? other) := by
    show ProcessRecord.alive ((t.forget pid).process? other)
      = ProcessRecord.alive (t.process? other)
    by_cases hother : other = pid
    · subst hother
      rw [process?_forget_self, ProcessRecord.alive_of_stopped stopped]
      rfl
    · rw [process?_forget_of_ne hother]
  rw [skipped_apply, skipped_apply]
  exact Tracking.skipped_congr halive rfl entries.snapshots

/-- A cycle with a readable entry of a process whose record has stopped: with that record and
without it, the tracker afterwards and the report are the same, and the identity of the process is
asked for in both cases or in neither. -/
theorem apply_forget {events : List Event}
    (known : (after events).process? pid = some p) (stopped : p.isRunning = false)
    (settings : Settings) (listed : ∃ s ∈ entries.snapshots, s.pid = some pid) :
    (((after events).forget pid).apply settings entries).1
        = ((after events).apply settings entries).1 ∧
      (((after events).forget pid).apply settings entries).2.1
        = ((after events).apply settings entries).2.1 ∧
      ((after events).forget pid).needsIdentity pid = (after events).needsIdentity pid := by
  have hstopped := stopped_of_known known stopped
  have hopen : p.openFiles = [] := by
    refine List.eq_nil_iff_forall_not_mem.2 fun file hfile => ?_
    obtain ⟨⟨name, hget⟩, hopen⟩ := ProcessRecord.mem_openFiles_iff.1 hfile
    rw [(placed_after events pid p known).closed stopped name file hget] at hopen
    cases hopen
  have hreconciled : ((after events).forget pid).reconciled settings entries
      = (after events).reconciled settings entries := by
    unfold reconciled
    rw [joined_forget hstopped listed, reportedFiles_forget known hopen]
  -- the whole cycle is told by the reconciled table and the skipped processes
  refine ⟨?_, ?_, ?_⟩
  · rw [tracker_apply, tracker_apply, hreconciled]
    rfl
  · calc (((after events).forget pid).apply settings entries).2.1
      _ = _ := report_apply _ _ _
      _ = _ := by rw [hreconciled, skipped_forget hstopped]; rfl
  · have hnone : ((after events).forget pid).processes.get? pid = none := process?_forget_self _ _
    have hknown : (after events).processes.get? pid = some p := known
    unfold needsIdentity
    rw [hnone, hknown]
    dsimp only
    rw [stopped]
    rfl

/-- A run with a process that has an attribute and an open file, and then is left out. -/
def endedRun : List Event :=
  [.applied .default (.ofStatus (.byPid
    [("1", .object [("x", .bool true), ("open_files", .object [("/log", .object [])])])])),
   .applied .default (.ofStatus (.list []))]

/-- A status with two entries of the pid of that process, the first of which cannot be read. The
second one would clash with the old record. -/
def reusedPid : Entries :=
  .ofStatus (.list
    [.object [("pid", .nat 1), ("open_files", .null)],
     .object [("pid", .nat 1), ("x", .array [])]])

/-- Pid 1 is taken again after its process has ended: nothing of the old record is seen. -/
theorem apply_forget_reusedPid :
    (∃ p, (after endedRun).process? 1 = some p ∧ p.isRunning = false) ∧
      (∃ s ∈ reusedPid.snapshots, s.pid = some 1) ∧
      (((after endedRun).forget 1).apply .default reusedPid).1
        = ((after endedRun).apply .default reusedPid).1 ∧
      (((after endedRun).forget 1).apply .default reusedPid).2.1
        = ((after endedRun).apply .default reusedPid).2.1 ∧
      ((after endedRun).forget 1).needsIdentity 1 = (after endedRun).needsIdentity 1 := by
  have hstopped : ((after endedRun).process? 1).map (·.isRunning) = some false := by decide
  obtain ⟨p, known, stopped⟩ := Option.map_eq_some_iff.1 hstopped
  have listed : ∃ s ∈ reusedPid.snapshots, s.pid = some 1 := by decide
  exact ⟨⟨p, known, stopped⟩, listed, apply_forget known stopped .default listed⟩

end Tracker

end ProcessWatch
