import ProcessWatch.Proofs.Tracker.Fates

/-!
# Which files a status leaves open

A status may have several entries of one process. Each of them opens the files that it lists, but
only the last one counts when it comes to what the status leaves out: a file that an earlier entry
lists and the last one does not is opened and closed in one cycle. With one entry a process, or if
the last one lists all that the others list, a file is open exactly if it is listed.

* **`Entries.get?_reportedFiles_of_last`** — what the entries of one process report.
* **`Tracker.hasOpen_iff_listed_last`** — the open files after a status, and when these are the ones
  that the status lists.
* **`Tracker.not_open_of_listed`** — an entry that lists a file is not enough.
-/

namespace ProcessWatch

namespace Entries

variable {entries : Entries} {table : ProcessTable} {pid : Pid}

/-- Of several readable entries of a process the last one is found. -/
theorem last?_readable :
    SortedMap.last? pid entries.readable
      = (entries.snapshotsOf pid).getLast?.map fun s => s.openFiles.keys := by
  unfold readable snapshotsOf
  -- along the snapshots; those without a pid list nothing and those of others do not count
  induction entries.snapshots with
  | nil => rfl
  | cons s rest ih =>
    cases hpid : s.pid with
    | none =>
      rw [List.filterMap_cons_none (by rw [hpid]; rfl), ih,
        List.filter_cons_of_neg (by simp [hpid])]
    | some other =>
      rw [List.filterMap_cons_some (by rw [hpid]; rfl), SortedMap.last?, ih]
      by_cases hother : other = pid
      · rw [List.filter_cons_of_pos (by simp [hpid, hother]), List.getLast?_cons, if_pos hother]
        cases (rest.filter fun s => s.pid = some pid).getLast? <;> rfl
      · rw [List.filter_cons_of_neg (by simp [hpid, hother]), if_neg hother, Option.or_none]

/-- A status reports the files of the last entry of a process, if no entry of it was rejected. -/
theorem get?_reportedFiles_of_last {last : ProcessSnapshot} (notBlamed : pid ∉ entries.blamed)
    (hlast : (entries.snapshotsOf pid).getLast? = some last) :
    (entries.reportedFiles table).get? pid = some last.openFiles.keys := by
  rw [get?_reportedFiles, last?_assumed_of_not_blamed notBlamed, Option.none_or, last?_readable,
    hlast]
  rfl

end Entries

namespace Tracker

variable {t : Tracker} {settings : Settings} {entries : Entries} {pid : Pid} {p : ProcessRecord}

/-- A rejected entry makes its process skipped, so what is not skipped has none. -/
theorem not_blamed_of_not_skipped (h : pid ∉ (t.apply settings entries).2.1.skipped) :
    pid ∉ entries.blamed := by
  intro hblamed
  have hcount := count_skipped_apply t settings entries pid
  have hpos : 0 < entries.blamed.count pid := List.count_pos_iff.2 hblamed
  exact h (List.count_pos_iff.1 (by omega))

/-- A snapshot of a process that is not listed as skipped was merged. -/
theorem merged_of_not_skipped (h : pid ∉ (t.apply settings entries).2.1.skipped)
    {s : ProcessSnapshot} (hs : s ∈ entries.snapshots) (hpid : s.pid = some pid) :
    (s, Fate.merged) ∈ t.fates settings entries := by
  have hfate : s ∈ (t.fates settings entries).map (·.1) := by
    unfold fates
    rwa [Tracking.map_fst_fates]
  obtain ⟨⟨_, fate⟩, hmem, rfl⟩ := List.mem_map.1 hfate
  -- a clash would make it skipped, and only a snapshot without a pid is ignored
  cases fate with
  | merged => exact hmem
  | skipped =>
    have hselected := Fate.mem_select_iff.2 hmem
    refine absurd ?_ h
    rw [skipped_apply, Tracking.skipped_foldl]
    exact List.mem_append_right _ (List.mem_filterMap.2 ⟨_, hselected, hpid⟩)
  | ignored =>
    rw [(Tracking.eq_ignored_iff hmem).1 rfl] at hpid
    cases hpid

/-- The open files of a process whose entries were all merged: those that its last entry lists. They
are the files that the status lists exactly if no earlier entry lists another one. -/
theorem hasOpen_iff_listed_last {events : List Event} {last : ProcessSnapshot}
    (hlast : (entries.snapshotsOf pid).getLast? = some last)
    (merged : pid ∉ ((after events).apply settings entries).2.1.skipped)
    (tracked : ((after events).apply settings entries).1.process? pid = some p) :
    (∀ name, p.HasOpen name ↔ name ∈ last.openFiles.keys) ∧
      ((∀ name, p.HasOpen name ↔
          ∃ s ∈ entries.snapshots, s.pid = some pid ∧ name ∈ s.openFiles.keys) ↔
        ∀ s ∈ entries.snapshots, s.pid = some pid →
          ∀ name ∈ s.openFiles.keys, name ∈ last.openFiles.keys) := by
  have hbefore : (after events).processes.Placed := placed_after events
  obtain ⟨hmem, hpid⟩ := Entries.mem_snapshotsOf_iff.1 (List.mem_of_getLast? hlast)
  obtain ⟨joined, hjoined, rfl⟩ := joined_of_process?_apply (after events) settings entries tracked
  have hplaced : joined.Placed pid := placed_joined hbefore settings entries pid joined hjoined
  have hreported : ((entries.reportedFiles (after events).processes).get? pid)
      = some last.openFiles.keys :=
    Entries.get?_reportedFiles_of_last (not_blamed_of_not_skipped merged) hlast
  have hopen (name : String) :
      (joined.settle (entries.reportedFiles (after events).processes)).HasOpen name ↔
        name ∈ last.openFiles.keys := by
    rw [ProcessRecord.hasOpen_settle hplaced, hreported]
    constructor
    · rintro ⟨_, names, heq, hlisted⟩
      cases heq
      exact hlisted
    · intro hlisted
      -- the last entry was merged, so what it lists is open before anything is closed
      have hadded : ((after events).joined settings entries).HasOpen pid name :=
        (hasOpen_joined hbefore).2
          (.inr ⟨last, merged_of_not_skipped merged hmem hpid, hpid, hlisted⟩)
      obtain ⟨p, hp, hhas⟩ := hadded
      rw [hjoined] at hp
      cases hp
      exact ⟨hhas, _, rfl, hlisted⟩
  refine ⟨hopen, ?_, ?_⟩
  · intro hlisted s hs hspid name hname
    exact (hopen name).1 ((hlisted name).2 ⟨s, hs, hspid, hname⟩)
  · intro hall name
    rw [hopen name]
    exact ⟨fun hname => ⟨last, hmem, hpid, hname⟩, fun ⟨s, hs, hspid, hname⟩ =>
      hall s hs hspid name hname⟩

/-- A status with two entries of one process, the first of which lists a file. -/
def twofold : Entries :=
  .ofStatus (.list
    [.object [("pid", .nat 1), ("open_files", .object [("/log", .object [])])],
     .object [("pid", .nat 1)]])

/-- A status with two entries of process 1: the open files are those of the second. -/
theorem hasOpen_iff_listed_last_twofold :
    ∃ last p, (twofold.snapshotsOf 1).getLast? = some last ∧
      1 ∉ ((after []).apply .default twofold).2.1.skipped ∧
      ((after []).apply .default twofold).1.process? 1 = some p ∧
      (∀ name, p.HasOpen name ↔ name ∈ last.openFiles.keys) ∧
      ((∀ name, p.HasOpen name ↔
          ∃ s ∈ twofold.snapshots, s.pid = some 1 ∧ name ∈ s.openFiles.keys) ↔
        ∀ s ∈ twofold.snapshots, s.pid = some 1 →
          ∀ name ∈ s.openFiles.keys, name ∈ last.openFiles.keys) := by
  have hlast : (twofold.snapshotsOf 1).getLast?.isSome = true := by decide
  have htracked : (((after []).apply .default twofold).1.process? 1).isSome = true := by decide
  obtain ⟨last, hlast⟩ := Option.isSome_iff_exists.1 hlast
  obtain ⟨p, tracked⟩ := Option.isSome_iff_exists.1 htracked
  have merged : 1 ∉ ((after []).apply .default twofold).2.1.skipped := by decide
  exact ⟨last, p, hlast, merged, tracked,
    hasOpen_iff_listed_last hlast merged tracked⟩

/-- A file that a merged entry lists is not always open: the last entry of its process may leave it
out. -/
theorem not_open_of_listed :
    ¬ ∀ (events : List Event) (settings : Settings) (entries : Entries) (pid : Pid)
      (p : ProcessRecord),
      (∃ s ∈ entries.snapshots, s.pid = some pid) →
      pid ∉ ((after events).apply settings entries).2.1.skipped →
      ((after events).apply settings entries).1.process? pid = some p →
      ∀ name, p.HasOpen name ↔
        ∃ s ∈ entries.snapshots, s.pid = some pid ∧ name ∈ s.openFiles.keys := by
  intro open_iff_listed
  have hnone : (((after []).apply .default twofold).1.process? 1).map (·.openFiles.length)
      = some 0 := by decide
  obtain ⟨p, tracked, hp⟩ := Option.map_eq_some_iff.1 hnone
  have hlists : ∃ s ∈ twofold.snapshots, s.pid = some 1 ∧ "/log" ∈ s.openFiles.keys := by decide
  have hlisted : ∃ s ∈ twofold.snapshots, s.pid = some 1 := by decide
  have hiff := open_iff_listed [] .default twofold 1 p hlisted (by decide) tracked "/log"
  obtain ⟨file, hfile, hopen⟩ := hiff.2 hlists
  have hmem : file ∈ p.openFiles := ProcessRecord.mem_openFiles_iff.2 ⟨⟨_, hfile⟩, hopen⟩
  rw [List.length_eq_zero_iff.1 hp] at hmem
  cases hmem

end Tracker

end ProcessWatch
