import ProcessWatch.Proofs.Tracker.Consistent

/-!
# Skipped processes

A process that is listed as skipped has an entry that could not be read, or one that clashes with
its record. Its record is kept out of the merge then, and still goes through what follows the merge:
an open file that the entry does not list is closed, although nothing else of that entry counts. A
rejected entry cannot do that, because it counts as listing all open files.

* **`Tracker.process?_of_skipped`** — the record of a skipped process after a status, and when it is
  the one before.
* **`Tracker.not_untouched_of_skipped`** — an entry that clashes closes a file.
-/

namespace ProcessWatch

namespace Entries

variable {entries : Entries} {pid : Pid}

/-- The one entry of a process is rejected, or it is the one snapshot of that process. -/
theorem blamed_or_readable (one : entries.pids.count pid = 1) :
    (pid ∈ entries.blamed ∧ entries.blamed.count pid = 1 ∧
      ∀ s ∈ entries.snapshots, s.pid ≠ some pid) ∨
    (pid ∉ entries.blamed ∧ (entries.snapshots.filterMap (·.pid)).count pid = 1) := by
  rw [pids, List.count_append] at one
  by_cases hblamed : pid ∈ entries.blamed
  · have hpos : 0 < entries.blamed.count pid := List.count_pos_iff.2 hblamed
    refine .inl ⟨hblamed, by omega, ?_⟩
    intro s hs hpid
    have hmem : pid ∈ entries.snapshots.filterMap (·.pid) := List.mem_filterMap.2 ⟨s, hs, hpid⟩
    have hcount : 0 < (entries.snapshots.filterMap (·.pid)).count pid := List.count_pos_iff.2 hmem
    omega
  · have hzero : entries.blamed.count pid = 0 := List.count_eq_zero.2 hblamed
    exact .inr ⟨hblamed, by omega⟩

/-- Two snapshots of a process with one snapshot are the same. -/
theorem snapshot_unique {snapshots : List ProcessSnapshot}
    (one : (snapshots.filterMap (·.pid)).count pid = 1) {s s' : ProcessSnapshot}
    (hs : s ∈ snapshots) (hpid : s.pid = some pid) (hs' : s' ∈ snapshots)
    (hpid' : s'.pid = some pid) : s = s' := by
  -- along the list; the first snapshot of the process leaves none for the rest
  induction snapshots with
  | nil => cases hs
  | cons head rest ih =>
    by_cases hhead : head.pid = some pid
    · rw [ProcessRecord.count_pids_cons_self rest hhead] at one
      have hrest : ∀ x ∈ rest, x.pid ≠ some pid := by
        intro x hx hxpid
        have hmem : pid ∈ rest.filterMap (·.pid) := List.mem_filterMap.2 ⟨x, hx, hxpid⟩
        have hpos : 0 < (rest.filterMap (·.pid)).count pid := List.count_pos_iff.2 hmem
        omega
      rcases List.mem_cons.1 hs with rfl | hmem
      · rcases List.mem_cons.1 hs' with rfl | hmem'
        · rfl
        · exact absurd hpid' (hrest s' hmem')
      · exact absurd hpid (hrest s hmem)
    · have hne {x : ProcessSnapshot} (hx : x ∈ head :: rest) (hxpid : x.pid = some pid) :
          x ∈ rest := by
        rcases List.mem_cons.1 hx with rfl | hmem
        · exact absurd hxpid hhead
        · exact hmem
      rw [ProcessRecord.count_pids_cons_other rest hhead] at one
      exact ih one (hne hs hpid) (hne hs' hpid')

end Entries

namespace Tracker

variable {t : Tracker} {settings : Settings} {entries : Entries} {pid : Pid} {p : ProcessRecord}

/-- The merging of a status leaves the record of a process alone whose one entry is skipped. -/
theorem follow_of_skipped (one : entries.pids.count pid = 1)
    (skipped : pid ∈ (t.apply settings entries).2.1.skipped) :
    (ProcessRecord.follow (t.context settings) pid (t.process? pid) entries.snapshots).1
      = t.process? pid := by
  have hskipped := count_skipped_apply t settings entries pid
  have hpos : 0 < (t.apply settings entries).2.1.skipped.count pid := List.count_pos_iff.2 skipped
  obtain ⟨hle, hall⟩ := ProcessRecord.follow_clashes (t.context settings) pid (t.process? pid)
    entries.snapshots
  rcases Entries.blamed_or_readable one with ⟨_, _, habsent⟩ | ⟨hblamed, hone⟩
  · -- the entry was rejected, so there is no snapshot to merge
    rw [ProcessRecord.follow_of_absent habsent]
  · -- there is one snapshot, and one clash accounts for it
    rw [List.count_eq_zero.2 hblamed] at hskipped
    exact hall (by omega)

/-- What a status reports of the files of a skipped process: those of its one entry, or those that
are open anyway. -/
theorem reported_of_skipped (known : t.process? pid = some p) (one : entries.pids.count pid = 1) :
    ∃ names, (entries.reportedFiles t.processes).get? pid = some names ∧
      ((∀ file ∈ p.openFiles, file.name ∈ names) ↔
        ∀ s ∈ entries.snapshots, s.pid = some pid →
          ∀ file ∈ p.openFiles, file.name ∈ s.openFiles.keys) := by
  rcases Entries.blamed_or_readable one with ⟨hblamed, _, habsent⟩ | ⟨hblamed, hone⟩
  · -- the entry could not be read, and all open files are taken to be still there
    refine ⟨p.openFiles.map (·.name), ?_, ?_⟩
    · have hget : t.processes.get? pid = some p := known
      rw [Entries.get?_reportedFiles_of_blamed hblamed, ProcessTable.openFileNames, hget]
    · exact ⟨fun _ s hs hpid => absurd hpid (habsent s hs),
        fun _ file hfile => List.mem_map.2 ⟨file, hfile, rfl⟩⟩
  · -- the entry clashed, and reports what it lists nevertheless
    have hmem : pid ∈ entries.snapshots.filterMap (·.pid) := by
      rw [← List.count_pos_iff]
      omega
    obtain ⟨s, hs, hpid⟩ := List.mem_filterMap.1 hmem
    refine ⟨s.openFiles.keys, ?_, ?_, ?_⟩
    · refine Entries.get?_reportedFiles_of_readable hblamed ⟨s, hs, hpid⟩ ?_
      intro s' hs' hpid'
      rw [Entries.snapshot_unique hone hs' hpid' hs hpid]
    · intro hlisted s' hs' hpid'
      rw [Entries.snapshot_unique hone hs' hpid' hs hpid]
      exact hlisted
    · intro hlisted
      exact hlisted s hs hpid

/-- The record of a process that runs, whose one entry is skipped and that stays tracked. At most
open files are closed, and nothing else changes. The record is the one before exactly if an entry
that could be read lists all of them. -/
theorem process?_of_skipped {events : List Event} (received : ∀ e ∈ events, e.Received)
    (known : (after events).process? pid = some p) (running : p.isRunning = true)
    (one : entries.pids.count pid = 1)
    (skipped : pid ∈ ((after events).apply settings entries).2.1.skipped)
    (tracked : ((after events).apply settings entries).1.process? pid ≠ none) :
    ((after events).apply settings entries).1.process? pid
        = some (p.closeUnreported (entries.reportedFiles (after events).processes)) ∧
      (((after events).apply settings entries).1.process? pid = some p ↔
        ∀ s ∈ entries.snapshots, s.pid = some pid →
          ∀ file ∈ p.openFiles, file.name ∈ s.openFiles.keys) := by
  have hpid : p.pid = pid := (wellFormed_after received pid p known).pid_eq
  obtain ⟨names, hreported, hlisted⟩ := reported_of_skipped known one
  have hnames : (entries.reportedFiles (after events).processes).get? p.pid = some names := by
    rw [hpid]
    exact hreported
  -- nothing is merged, so all that is left is what follows the merge
  have hafter : ((after events).apply settings entries).1.process? pid
      = some (p.closeUnreported (entries.reportedFiles (after events).processes)) := by
    rw [process?_apply] at tracked ⊢
    rw [follow_of_skipped one skipped, known] at tracked ⊢
    split at tracked
    next => exact absurd rfl tracked
    next hkept =>
      rw [if_neg hkept, Option.map_some, ProcessRecord.settle_of_reported running hnames]
  refine ⟨hafter, ?_⟩
  rw [hafter, Option.some_inj, ProcessRecord.closeUnreported_eq_self_iff hnames, hlisted]

/-- A run with a process that has a file open, and a field `x` that is no array. -/
def openRun : List Event :=
  [.applied .default (.ofStatus (.byPid
    [("1", .object [("x", .bool true), ("open_files", .object [("/log", .object [])])])]))]

/-- A status with one entry, which clashes with that process and does not list the file. -/
def clashing : Entries := .ofStatus (.byPid [("1", .object [("x", .array [])])])

theorem received_openRun : ∀ e ∈ openRun, e.Received := by
  intro e he
  rw [List.mem_singleton.1 he]
  exact Entries.received_ofStatus _

/-- A clash in the entry of process 1: its record stays but for its files, which are closed if an
entry of it leaves them out. -/
theorem process?_of_skipped_clashing :
    ∃ p, (after openRun).process? 1 = some p ∧ p.isRunning = true ∧ clashing.pids.count 1 = 1 ∧
      1 ∈ ((after openRun).apply .default clashing).2.1.skipped ∧
      ((after openRun).apply .default clashing).1.process? 1
        = some (p.closeUnreported (clashing.reportedFiles (after openRun).processes)) ∧
      (((after openRun).apply .default clashing).1.process? 1 = some p ↔
        ∀ s ∈ clashing.snapshots, s.pid = some 1 →
          ∀ file ∈ p.openFiles, file.name ∈ s.openFiles.keys) := by
  have hrunning : ((after openRun).process? 1).map (·.isRunning) = some true := by decide
  obtain ⟨p, known, running⟩ := Option.map_eq_some_iff.1 hrunning
  have one : clashing.pids.count 1 = 1 := by decide
  have skipped : 1 ∈ ((after openRun).apply .default clashing).2.1.skipped := by decide
  have tracked : ((after openRun).apply .default clashing).1.process? 1 ≠ none := by
    rw [Option.ne_none_iff_isSome]
    decide
  exact ⟨p, known, running, one, skipped,
    process?_of_skipped received_openRun known running one skipped tracked⟩

/-- A skipped process is not always left as it was: the entry that clashes closes a file. -/
theorem not_untouched_of_skipped :
    ¬ ∀ (events : List Event) (settings : Settings) (entries : Entries) (pid : Pid)
      (p : ProcessRecord), (∀ e ∈ events, e.Received) → (after events).process? pid = some p →
      p.isRunning = true → entries.pids.count pid = 1 →
      pid ∈ ((after events).apply settings entries).2.1.skipped →
      ((after events).apply settings entries).1.process? pid ≠ none →
      ((after events).apply settings entries).1.process? pid = some p := by
  intro untouched
  have hbefore : ((after openRun).process? 1).map (fun p => (p.isRunning, p.openFiles.length))
      = some (true, 1) := by decide
  have hafter : (((after openRun).apply .default clashing).1.process? 1).map (·.openFiles.length)
      = some 0 := by decide
  obtain ⟨p, known, hp⟩ := Option.map_eq_some_iff.1 hbefore
  obtain ⟨running, hopen⟩ := Prod.mk.inj hp
  have hsame := untouched openRun .default clashing 1 p received_openRun known running (by decide)
    (by decide) (by rw [Option.ne_none_iff_isSome]; decide)
  rw [hsame, Option.map_some, hopen] at hafter
  cases hafter

end Tracker

end ProcessWatch
