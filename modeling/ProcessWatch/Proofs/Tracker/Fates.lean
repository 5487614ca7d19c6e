import ProcessWatch.Proofs.Table.Changes
import ProcessWatch.Proofs.Tracker.Parent
import ProcessWatch.Proofs.Tracker.Placed

/-!
# What becomes of the entries of a status

The snapshots of a status are tried one after the other, each on the table that the ones before it
left. A snapshot is merged, or it is skipped because it clashes with the record of its process, or
it is ignored because it has no pid. Only the merged ones count for the table.

## The architecture

* **`Fate`**, **`Tracker.fates`** — the fate of every snapshot, in the order of the status.
* **`Tracking.foldlM_merged`**, **`Tracking.skipped_foldl`** — the merged snapshots alone lead to
  the table, and the skipped ones to the list of skipped processes.
* **`Tracker.tracks_joined`**, **`runs_joined`**, **`hasOpen_joined`** — what the snapshots add to
  the processes that are tracked, to those that run, and to the open files. They take nothing away.
-/

namespace ProcessWatch

/-- What becomes of a snapshot. -/
inductive Fate where
  | merged
  | skipped
  | ignored
deriving DecidableEq

/-- The snapshots with one fate, in their order. -/
def Fate.select (fate : Fate) (fates : List (ProcessSnapshot × Fate)) : List ProcessSnapshot :=
  (fates.filter fun x => x.2 = fate).map (·.1)

theorem Fate.select_cons_self (fate : Fate) (s : ProcessSnapshot)
    (fates : List (ProcessSnapshot × Fate)) :
    fate.select ((s, fate) :: fates) = s :: fate.select fates := by
  simp [select]

theorem Fate.select_cons_of_ne {fate other : Fate} (h : other ≠ fate) (s : ProcessSnapshot)
    (fates : List (ProcessSnapshot × Fate)) :
    fate.select ((s, other) :: fates) = fate.select fates := by
  simp [select, h]

/-- The snapshots of a fate are those that are paired with it. -/
theorem Fate.mem_select_iff {fate : Fate} {s : ProcessSnapshot}
    {fates : List (ProcessSnapshot × Fate)} : s ∈ fate.select fates ↔ (s, fate) ∈ fates := by
  unfold select
  constructor
  · intro h
    obtain ⟨⟨s', fate'⟩, hx, rfl⟩ := List.mem_map.1 h
    obtain ⟨hmem, hfate⟩ := List.mem_filter.1 hx
    obtain rfl : fate' = fate := of_decide_eq_true hfate
    exact hmem
  · intro h
    exact List.mem_map.2 ⟨(s, fate), List.mem_filter.2 ⟨h, decide_eq_true rfl⟩, rfl⟩

namespace ProcessTable

/-- What becomes of a snapshot that is tried on a table. -/
def fate (ctx : CycleContext) (table : ProcessTable) (s : ProcessSnapshot) : Fate :=
  match table.track ctx s with
  | .ok _ => .merged
  | .error (.clash _ _) => .skipped
  | .error .missingPid => .ignored

end ProcessTable

namespace Tracking

open ProcessRecord (renew)

variable {ctx : CycleContext}

/-- What becomes of snapshots that are tried one after the other. -/
def fates (ctx : CycleContext) (t : Tracking) : List ProcessSnapshot → List (ProcessSnapshot × Fate)
  | [] => []
  | s :: rest => (s, t.table.fate ctx s) :: (t.step ctx s).fates ctx rest

/-- The three things that a snapshot can do to a table and to the list of skipped processes. -/
theorem step_cases (ctx : CycleContext) (t : Tracking) (s : ProcessSnapshot) :
    (t.table.fate ctx s = .merged ∧ (t.step ctx s).skipped = t.skipped ∧
      t.table.track ctx s = .ok (t.step ctx s).table ∧
      ∃ pid p, s.pid = some pid ∧ renew ctx pid (t.table.get? pid) s = .ok p ∧
        (t.step ctx s).table = t.table.insert pid p) ∨
    (t.table.fate ctx s = .skipped ∧ (t.step ctx s).table = t.table ∧
      ∃ pid, s.pid = some pid ∧ (t.step ctx s).skipped = t.skipped ++ [pid]) ∨
    (t.table.fate ctx s = .ignored ∧ (t.step ctx s).table = t.table ∧
      (t.step ctx s).skipped = t.skipped ∧ s.pid = none) := by
  unfold ProcessTable.fate
  -- a snapshot without a pid is ignored; of the others, those are merged that do not clash
  cases hpid : s.pid with
  | none =>
    obtain ⟨htable, hskipped⟩ := step_of_no_pid ctx t hpid
    have htrack : t.table.track ctx s = .error .missingPid := by
      unfold ProcessTable.track
      rw [hpid]
    rw [htrack]
    exact .inr (.inr ⟨rfl, htable, hskipped, rfl⟩)
  | some pid =>
    rw [ProcessTable.track_of_renew hpid]
    cases hrenew : renew ctx pid (t.table.get? pid) s with
    | ok p =>
      obtain ⟨htable, hskipped⟩ := step_of_ok hpid hrenew
      exact .inl ⟨rfl, hskipped, by rw [htable], pid, p, rfl, hrenew, htable⟩
    | error cause =>
      obtain ⟨htable, hskipped⟩ := step_of_error hpid hrenew
      exact .inr (.inl ⟨rfl, htable, pid, rfl, hskipped⟩)

/-- What one snapshot does to the record of a process: something exactly if it is merged into it. -/
theorem get?_step_cases (ctx : CycleContext) (t : Tracking) (s : ProcessSnapshot) (pid : Pid) :
    (¬ (t.table.fate ctx s = .merged ∧ s.pid = some pid) ∧
      (t.step ctx s).table.get? pid = t.table.get? pid) ∨
    (t.table.fate ctx s = .merged ∧ s.pid = some pid ∧
      ∃ p, renew ctx pid (t.table.get? pid) s = .ok p ∧
        (t.step ctx s).table.get? pid = some p) := by
  -- only a merged snapshot changes the table, and only at its own pid
  rcases step_cases ctx t s with ⟨hfate, _, _, pid', p', hpid', hrenew, htable⟩ |
    ⟨hfate, htable, _⟩ | ⟨hfate, htable, _⟩
  · rw [htable]
    by_cases hpid : pid = pid'
    · subst hpid
      exact .inr ⟨hfate, hpid', p', hrenew, SortedMap.get?_insert_self _ _ _⟩
    · refine .inl ⟨?_, SortedMap.get?_insert_of_ne _ _ hpid⟩
      rintro ⟨_, hs⟩
      exact hpid (Option.some.inj (hs.symm.trans hpid'))
  · have hnot : t.table.fate ctx s ≠ .merged := by
      rw [hfate]
      decide
    exact .inl ⟨fun h => hnot h.1, by rw [htable]⟩
  · have hnot : t.table.fate ctx s ≠ .merged := by
      rw [hfate]
      decide
    exact .inl ⟨fun h => hnot h.1, by rw [htable]⟩

/-- Every snapshot has one fate, in the order of the snapshots. -/
theorem map_fst_fates (ctx : CycleContext) (t : Tracking) (snapshots : List ProcessSnapshot) :
    (t.fates ctx snapshots).map (·.1) = snapshots := by
  induction snapshots generalizing t with
  | nil => rfl
  | cons s rest ih => rw [fates, List.map_cons, ih]

/-- What lacks a pid is ignored, and nothing else. -/
theorem eq_ignored_iff {t : Tracking} {snapshots : List ProcessSnapshot} {s : ProcessSnapshot}
    {fate : Fate} (h : (s, fate) ∈ t.fates ctx snapshots) : fate = .ignored ↔ s.pid = none := by
  induction snapshots generalizing t with
  | nil => cases h
  | cons first rest ih =>
    rcases List.mem_cons.1 h with heq | hrest
    · cases heq
      rcases step_cases ctx t s with ⟨hfate, _, _, pid, _, hpid, _⟩ | ⟨hfate, _, pid, hpid, _⟩ |
        ⟨hfate, _, _, hpid⟩ <;> simp [hfate, hpid]
    · exact ih hrest

/-- The merged snapshots alone all go through, and they lead to the same table. -/
theorem foldlM_merged (t : Tracking) (snapshots : List ProcessSnapshot) :
    (Fate.merged.select (t.fates ctx snapshots)).foldlM (ProcessTable.track ctx) t.table
      = .ok (snapshots.foldl (step ctx) t).table := by
  induction snapshots generalizing t with
  | nil => rfl
  | cons s rest ih =>
    rw [fates, List.foldl_cons, ← ih]
    rcases step_cases ctx t s with ⟨hfate, _, htrack, _⟩ | ⟨hfate, htable, _⟩ | ⟨hfate, htable, _⟩
    · rw [hfate, Fate.select_cons_self, List.foldlM_cons, htrack]
      rfl
    · rw [hfate, Fate.select_cons_of_ne (by decide), htable]
    · rw [hfate, Fate.select_cons_of_ne (by decide), htable]

/-- Every skipped snapshot adds its process to the list, once and in its place. -/
theorem skipped_foldl (t : Tracking) (snapshots : List ProcessSnapshot) :
    (snapshots.foldl (step ctx) t).skipped
      = t.skipped ++ (Fate.skipped.select (t.fates ctx snapshots)).filterMap (·.pid) := by
  induction snapshots generalizing t with
  | nil => exact (List.append_nil _).symm
  | cons s rest ih =>
    rw [fates, List.foldl_cons, ih]
    rcases step_cases ctx t s with ⟨hfate, hskipped, _⟩ | ⟨hfate, _, pid, hpid, hskipped⟩ |
      ⟨hfate, _, hskipped, _⟩
    · rw [hfate, Fate.select_cons_of_ne (by decide), hskipped]
    · rw [hfate, Fate.select_cons_self, List.filterMap_cons_some hpid, hskipped, List.append_assoc]
      rfl
    · rw [hfate, Fate.select_cons_of_ne (by decide), hskipped]

end Tracking

/-! ## Processes that run -/

namespace ProcessRecord

variable {ctx : CycleContext} {pid : Pid} {known : Option ProcessRecord} {s : ProcessSnapshot}
  {snapshots : List ProcessSnapshot}

/-- A process that runs is not stopped by a snapshot. -/
theorem running_follow_of_running (h : ∃ p, known = some p ∧ p.isRunning = true) :
    ∃ p, (follow ctx pid known snapshots).1 = some p ∧ p.isRunning = true := by
  refine follow_induction
    (P := fun record => ∃ p, record = some p ∧ p.isRunning = true) ?_ h
  intro _ _ p _ _ _ hrenew
  exact ⟨p, rfl, isRunning_renew hrenew⟩

/-- A process with a snapshot runs, be the snapshot merged or not: only what runs can clash. -/
theorem running_follow_of_listed (h : ∃ s ∈ snapshots, s.pid = some pid) :
    ∃ p, (follow ctx pid known snapshots).1 = some p ∧ p.isRunning = true := by
  -- the first snapshot of the process makes it run, or clashes with one that runs already
  induction snapshots generalizing known with
  | nil =>
    obtain ⟨_, hmem, _⟩ := h
    cases hmem
  | cons s rest ih =>
    by_cases hs : s.pid = some pid
    · cases hrenew : renew ctx pid known s with
      | ok p =>
        rw [follow_ok hs hrenew]
        exact running_follow_of_running ⟨p, rfl, isRunning_renew hrenew⟩
      | error cause =>
        obtain ⟨p, hp, hrun, _⟩ := renew_error hrenew
        rw [follow_error hs hrenew]
        exact running_follow_of_running ⟨p, hp, hrun⟩
    · rw [follow_other hs]
      obtain ⟨s', hmem, hpid⟩ := h
      rcases List.mem_cons.1 hmem with rfl | hrest
      · exact absurd hpid hs
      · exact ih ⟨s', hrest, hpid⟩

/-! ## Open files

A merged snapshot opens what it lists and closes nothing. So what is open before anything is closed
is what was open, and what the merged snapshots list. -/

/-- A merged snapshot opens what it lists, and leaves open what was. -/
theorem hasOpen_renew {p' : ProcessRecord} {name : String}
    (hknown : ∀ p, known = some p → p.Placed pid) (h : renew ctx pid known s = .ok p') :
    p'.HasOpen name ↔ (∃ p, known = some p ∧ p.HasOpen name) ∨ name ∈ s.openFiles.keys := by
  rcases renew_cases h with ⟨p, rfl, _, hok, rfl⟩ | ⟨hstopped, rfl⟩
  · rw [hasOpen_merge_create hok, keys_openFiles_fill]
    simp
  · rw [hasOpen_create]
    refine ⟨.inr, ?_⟩
    rintro (⟨p, hp, file, hfile, hopen⟩ | hlisted)
    · -- what is not running has nothing open that could be lost
      rw [(hknown p hp).closed (hstopped p hp) name file hfile] at hopen
      cases hopen
    · exact hlisted

end ProcessRecord

namespace Tracking

variable {ctx : CycleContext} {t : Tracking} {pid : Pid} {name : String}

/-- One snapshot leaves every record in its place. -/
theorem placed_step (h : t.table.Placed) (s : ProcessSnapshot) :
    (t.step ctx s).table.Placed := by
  intro pid p hp
  rcases get?_step_cases ctx t s pid with ⟨_, hsame⟩ | ⟨_, _, p', hrenew, hget⟩
  · rw [hsame] at hp
    exact h pid p hp
  · rw [hget] at hp
    cases hp
    exact ProcessRecord.invariant_placed.renew (h pid) trivial hrenew

/-- One snapshot opens the files that it lists, if it is merged, and closes none. -/
theorem hasOpen_step (h : t.table.Placed) (s : ProcessSnapshot) :
    (t.step ctx s).table.HasOpen pid name ↔
      t.table.HasOpen pid name ∨
        (t.table.fate ctx s = .merged ∧ s.pid = some pid ∧ name ∈ s.openFiles.keys) := by
  unfold ProcessTable.HasOpen
  rcases get?_step_cases ctx t s pid with ⟨hnot, hsame⟩ | ⟨hfate, hpid, p', hrenew, hget⟩
  · rw [hsame]
    refine ⟨.inl, ?_⟩
    rintro (hbefore | ⟨hfate, hpid, _⟩)
    · exact hbefore
    · exact absurd ⟨hfate, hpid⟩ hnot
  · rw [hget]
    simp only [Option.some.injEq, exists_eq_left', hfate, hpid, true_and]
    exact ProcessRecord.hasOpen_renew (h pid) hrenew

/-- So do all snapshots of a status, one after the other. -/
theorem hasOpen_foldl (h : t.table.Placed) (snapshots : List ProcessSnapshot) :
    (snapshots.foldl (step ctx) t).table.HasOpen pid name ↔
      t.table.HasOpen pid name ∨
        ∃ s, (s, Fate.merged) ∈ t.fates ctx snapshots ∧ s.pid = some pid ∧
          name ∈ s.openFiles.keys := by
  induction snapshots generalizing t with
  | nil => simp [fates]
  | cons s rest ih =>
    rw [List.foldl_cons, ih (placed_step h s), hasOpen_step h, or_assoc, fates]
    refine or_congr_right ⟨?_, ?_⟩
    · rintro (⟨hfate, hlists⟩ | ⟨s', hmem, hlists⟩)
      · exact ⟨s, by rw [hfate]; exact List.mem_cons_self, hlists⟩
      · exact ⟨s', List.mem_cons_of_mem _ hmem, hlists⟩
    · rintro ⟨s', hmem, hlists⟩
      rcases List.mem_cons.1 hmem with heq | hrest
      · obtain ⟨rfl, hfate⟩ := Prod.mk.inj heq
        exact .inl ⟨hfate.symm, hlists⟩
      · exact .inr ⟨s', hrest, hlists⟩

end Tracking

/-! ## The table with the snapshots in it -/

namespace Tracker

variable {t : Tracker} {settings : Settings} {entries : Entries} {pid : Pid} {name : String}

/-- What becomes of the snapshots of a status. -/
def fates (t : Tracker) (settings : Settings) (entries : Entries) : List (ProcessSnapshot × Fate) :=
  (t.tracking entries).fates (t.context settings) entries.snapshots

/-- Within a cycle a process is tracked if it was before, or if the status lists it. -/
theorem tracks_joined :
    (t.joined settings entries).Tracks pid ↔
      t.processes.Tracks pid ∨ ∃ s ∈ entries.snapshots, s.pid = some pid := by
  unfold ProcessTable.Tracks
  rw [get?_joined]
  by_cases hlisted : ∃ s ∈ entries.snapshots, s.pid = some pid
  · exact iff_of_true (ProcessRecord.follow_of_listed hlisted) (.inr hlisted)
  · rw [ProcessRecord.follow_of_absent fun s hs hpid => hlisted ⟨s, hs, hpid⟩]
    exact ⟨.inl, fun h => h.resolve_right hlisted⟩

/-- The same for the processes that run. -/
theorem runs_joined :
    (t.joined settings entries).Runs pid ↔
      t.processes.Runs pid ∨ ∃ s ∈ entries.snapshots, s.pid = some pid := by
  unfold ProcessTable.Runs
  rw [get?_joined]
  by_cases hlisted : ∃ s ∈ entries.snapshots, s.pid = some pid
  · exact iff_of_true (ProcessRecord.running_follow_of_listed hlisted) (.inr hlisted)
  · rw [ProcessRecord.follow_of_absent fun s hs hpid => hlisted ⟨s, hs, hpid⟩]
    exact ⟨.inl, fun h => h.resolve_right hlisted⟩

/-- And for the open files, where only merged snapshots count. -/
theorem hasOpen_joined (h : t.processes.Placed) :
    (t.joined settings entries).HasOpen pid name ↔
      t.processes.HasOpen pid name ∨
        ∃ s, (s, Fate.merged) ∈ t.fates settings entries ∧ s.pid = some pid ∧
          name ∈ s.openFiles.keys :=
  Tracking.hasOpen_foldl (t := t.tracking entries) h entries.snapshots

end Tracker

end ProcessWatch
