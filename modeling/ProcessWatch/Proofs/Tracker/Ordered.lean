import Mathlib.Data.List.Chain
import Mathlib.Data.List.Induction
import ProcessWatch.Proofs.Record.Samples
import ProcessWatch.Proofs.Tracker.Fates
import ProcessWatch.Proofs.Tracker.Run

/-!
# Samples stand in the order of the cycles

The samples of every history are in the order of the cycles that they are of, and no sample equals
the one before it. But a history compares whole samples: a status may have several entries of one
process, and two of these that differ in what is sampled leave two samples of one cycle. There are
at most as many samples of a cycle as it merged entries, so a history has one sample a cycle if no
cycle merged more than one.

This is about all runs of statuses, each under its own settings.

## The architecture

* **`History.Ordered`** — what holds of the samples of a history; `Ordered.append` is one sample
  more.
* **`Tracker.mergedOf`**, **`mergedIn`** — the entries of a process that a status merges, and those
  that each cycle of a run merged.
* **`ProcessRecord.Ordered`** — all histories of a record. One snapshot keeps it (`ordered_renew`),
  so all snapshots of a status do (`Tracking.ordered_foldl`), and whole runs
  (`Tracker.ordered_afterStatuses`).
* **`Tracker.samples_ordered`** — the histories of a tracked process, after every run;
  `not_one_sample_a_cycle`: two samples of one cycle do occur.
-/

namespace ProcessWatch

open ProcessRecord (renew create)

/-! ## Histories -/

namespace History

variable {h incoming : History Sample} {ctx : CycleContext} {time : Option Float} {next : Nat}
  {merged more : Nat → Nat}

/-- The cycles that the samples of a history are of, in the order of the samples. -/
def cycles (h : History Sample) : List Nat := h.samples.map (·.index)

/-- Samples in the order of their cycles. They are of cycles before the next one, none equals the
one before it, and there are no more of them of a cycle than that cycle merged entries. -/
structure Ordered (h : History Sample) (next : Nat) (merged : Nat → Nat) : Prop where
  ascending : h.cycles.Pairwise (· ≤ ·)
  past : ∀ cycle ∈ h.cycles, cycle < next
  distinct : h.samples.IsChain fun sample later => (sample == later) = false
  counted : ∀ cycle, h.cycles.count cycle ≤ merged cycle

/-- What is ordered stays so when later cycles count, or more merged entries. -/
theorem Ordered.mono (ho : h.Ordered next merged) {later : Nat} (hnext : next ≤ later)
    (hmore : ∀ cycle, merged cycle ≤ more cycle) : h.Ordered later more where
  ascending := ho.ascending
  past cycle hcycle := Nat.lt_of_lt_of_le (ho.past cycle hcycle) hnext
  distinct := ho.distinct
  counted cycle := Nat.le_trans (ho.counted cycle) (hmore cycle)

/-- With one entry a cycle there is one sample a cycle. -/
theorem Ordered.strict (ho : h.Ordered next merged) (once : ∀ cycle, merged cycle ≤ 1) :
    h.cycles.Pairwise (· < ·) := by
  have hnodup : h.cycles.Nodup :=
    List.nodup_iff_count.2 fun cycle => Nat.le_trans (ho.counted cycle) (once cycle)
  exact (ho.ascending.and hnodup).imp fun hle => Nat.lt_of_le_of_ne hle.1 hle.2

theorem ordered_empty (capacity : Capacity) (next : Nat) (merged : Nat → Nat) :
    (empty capacity).Ordered next merged :=
  ⟨.nil, nofun, .nil, fun _ => Nat.zero_le _⟩

/-- Samples that make room for a new one are missed nowhere. -/
theorem Ordered.push (ho : h.Ordered (next + 1) merged) {sample : Sample}
    (new : sample.index = next) (differs : h.repeats sample = false)
    (hmore : ∀ cycle, merged cycle + (if cycle = next then 1 else 0) ≤ more cycle) :
    (h.push sample).Ordered (next + 1) more := by
  have hcycles : (h.push sample).cycles = newest h.capacity.count (h.cycles ++ [next]) := by
    show (newest _ _).map _ = _
    rw [map_newest, List.map_append, ← new]
    rfl
  refine ⟨?_, fun cycle hcycle => ?_, ?_, fun cycle => ?_⟩
  · -- the new sample is of the last cycle that there was
    rw [hcycles]
    refine List.Pairwise.drop
      (List.pairwise_append.2 ⟨ho.ascending, List.pairwise_singleton _ _, ?_⟩)
    intro cycle hcycle latest hlatest
    rw [List.mem_singleton.1 hlatest]
    exact Nat.le_of_lt_succ (ho.past cycle hcycle)
  · rw [hcycles] at hcycle
    rcases List.mem_append.1 (mem_of_mem_newest hcycle) with hold | hnew
    · exact ho.past cycle hold
    · rw [List.mem_singleton.1 hnew]
      exact Nat.lt_succ_self next
  · -- only the newest sample gets a new neighbour, and that is the one it was compared with
    refine List.IsChain.drop (List.isChain_append.2 ⟨ho.distinct, .singleton sample, ?_⟩) _
    intro latest hlatest later hlater
    cases hlater
    unfold repeats latest? at differs
    rwa [Option.mem_def.1 hlatest] at differs
  · rw [hcycles]
    -- what makes room takes samples of a cycle away and adds none
    refine Nat.le_trans ((List.drop_sublist _ _).count_le cycle) (Nat.le_trans ?_ (hmore cycle))
    rw [List.count_append, List.count_singleton]
    have hcount := ho.counted cycle
    by_cases hcycle : cycle = next
    · simpa [hcycle] using hcycle ▸ hcount
    · simpa [hcycle, Ne.symm hcycle] using hcount

/-- One sample more of the last cycle: it is left out, or it is the newest one. -/
theorem Ordered.append (ho : h.Ordered (next + 1) merged) {sample : Sample}
    (new : sample.index = next)
    (hmore : ∀ cycle, merged cycle + (if cycle = next then 1 else 0) ≤ more cycle) :
    (h.append sample).1.Ordered (next + 1) more := by
  unfold History.append
  split
  next =>
    exact ho.mono (Nat.le_refl _) fun cycle => Nat.le_trans (Nat.le_add_right _ _) (hmore cycle)
  next hrepeats => exact ho.push new (Bool.eq_false_iff.2 hrepeats) hmore

/-- Merging in a record of the last cycle adds the sample of that record. -/
theorem Ordered.merge (ho : h.Ordered (ctx.index + 1) merged) (hi : incoming.OfCycle ctx time)
    (hmore : ∀ cycle, merged cycle + (if cycle = ctx.index then 1 else 0) ≤ more cycle) :
    (h.merge incoming).Ordered (ctx.index + 1) more := by
  obtain ⟨sample, rfl, hindex, _⟩ := hi
  rw [merge_of_samples (samples_empty_append ctx.capacity sample)]
  exact ho.append hindex hmore

/-- The one sample of a new history is of the last cycle. -/
theorem OfCycle.ordered (hi : h.OfCycle ctx time)
    (hmore : ∀ cycle, (if cycle = ctx.index then 1 else 0) ≤ more cycle) :
    h.Ordered (ctx.index + 1) more := by
  obtain ⟨sample, rfl, hindex, _⟩ := hi
  refine (ordered_empty ctx.capacity _ fun _ => 0).append hindex fun cycle => ?_
  rw [Nat.zero_add]
  exact hmore cycle

end History

/-! ## Merged entries

Every sample of a cycle is of one of its merged entries, so these are counted along: for a process
all of them, for a descriptor those that list it. -/

/-- The entries of a process that were merged, cycle by cycle. -/
abbrev MergedEntries := Nat → List ProcessSnapshot

namespace MergedEntries

variable {merged : MergedEntries} {cycle : Nat}

/-- Some more entries of one cycle. -/
def add (merged : MergedEntries) (cycle : Nat) (snapshots : List ProcessSnapshot) : MergedEntries :=
  fun i => merged i ++ if i = cycle then snapshots else []

theorem add_nil (merged : MergedEntries) (cycle : Nat) : merged.add cycle [] = merged := by
  funext i
  simp [add]

theorem add_add (merged : MergedEntries) (cycle : Nat) (first second : List ProcessSnapshot) :
    (merged.add cycle first).add cycle second = merged.add cycle (first ++ second) := by
  funext i
  by_cases hi : i = cycle <;> simp [add, hi]

theorem sublist_add (merged : MergedEntries) (cycle : Nat) (snapshots : List ProcessSnapshot)
    (i : Nat) : (merged i).Sublist (merged.add cycle snapshots i) :=
  List.sublist_append_left _ _

/-- One more entry counts in its cycle. -/
theorem length_add (merged : MergedEntries) (cycle : Nat) (s : ProcessSnapshot) (i : Nat) :
    (merged.add cycle [s] i).length = (merged i).length + if i = cycle then 1 else 0 := by
  unfold add
  rw [List.length_append]
  split <;> rfl

/-- Where only the entries that pass a test count, one more counts if it passes. -/
theorem countP_add (test : ProcessSnapshot → Bool) (s : ProcessSnapshot) (i : Nat) :
    (merged.add cycle [s] i).countP test
      = (merged i).countP test + if i = cycle then if test s then 1 else 0 else 0 := by
  unfold add
  rw [List.countP_append]
  by_cases hi : i = cycle <;> simp [hi, List.countP_cons]

end MergedEntries

/-! ## Records -/

/-- The histories of the descriptors of a file are ordered. Only entries that list a descriptor
count. -/
def FileRecord.Ordered (next : Nat) (merged : MergedEntries) (name : String) (file : FileRecord) :
    Prop :=
  ∀ id d, file.descriptors.get? id = some d →
    d.history.Ordered next fun cycle => (merged cycle).countP (·.lists name id)

/-- The histories of a record and of its files are ordered. -/
structure ProcessRecord.Ordered (next : Nat) (merged : MergedEntries) (p : ProcessRecord) :
    Prop where
  history : p.history.Ordered next fun cycle => (merged cycle).length
  files : ∀ name file, p.files.get? name = some file → file.Ordered next merged name

variable {ctx : CycleContext} {pid : Pid} {s : ProcessSnapshot} {next : Nat}
  {merged : MergedEntries} {name : String}

namespace FileRecord

variable {x y : FileRecord}

/-- A file stays ordered under the same changes. -/
theorem Ordered.mono (h : x.Ordered next merged name) {later : Nat} {more : MergedEntries}
    (hnext : next ≤ later) (hmore : ∀ cycle, (merged cycle).Sublist (more cycle)) :
    x.Ordered later more name :=
  fun id d hd => (h id d hd).mono hnext fun cycle => (hmore cycle).countP_le

/-- A file that was made of a merged entry has one sample of that entry in every history. -/
theorem ordered_made {time : Option Float} (merged : MergedEntries)
    (made : ∀ id d, x.descriptors.get? id = some d → d.history.OfCycle ctx time)
    (listed : ∀ id, (x.descriptors.get? id).isSome = s.lists name id) :
    x.Ordered (ctx.index + 1) (merged.add ctx.index [s]) name := by
  intro id d hd
  have hlists : s.lists name id = true := by rw [← listed, hd]; rfl
  refine (made id d hd).ordered fun cycle => ?_
  rw [MergedEntries.countP_add, hlists]
  exact Nat.le_add_left _ _

/-- Merging in a file that was made of an entry adds a sample for each descriptor of that entry. -/
theorem Ordered.merge (h : x.Ordered (ctx.index + 1) merged name) {time : Option Float}
    (opened : y.isOpen = true)
    (made : ∀ id d, y.descriptors.get? id = some d → d.history.OfCycle ctx time)
    (listed : ∀ id, (y.descriptors.get? id).isSome = s.lists name id)
    (hok : (x.merge y).error = none) :
    (x.merge y).value.Ordered (ctx.index + 1) (merged.add ctx.index [s]) name := by
  have hy := ordered_made merged made listed
  by_cases hreopened : x.isOpen = false ∧ y.isOpen = true
  · rw [merge_reopened hreopened.1 opened]
    exact hy
  · rw [merge_of_not_reopened hreopened] at hok ⊢
    intro id d hd
    -- a descriptor of the old file alone has no new sample, one of the new file alone has only that
    rcases Merged.of_get?_maps hok hd with ⟨hold, _⟩ | ⟨_, hnew⟩ | ⟨old, new, hold, hnew, herr, rfl⟩
    · exact (h.mono (Nat.le_refl _) (MergedEntries.sublist_add _ _ _)) id d hold
    · exact hy id d hnew
    · -- a descriptor on both sides is listed, so the sample counts
      have hlists : s.lists name id = true := by rw [← listed, hnew]; rfl
      rw [DescriptorRecord.merge_of_ok herr]
      refine (h id old hold).merge (made id new hnew) fun cycle => ?_
      rw [MergedEntries.countP_add, hlists]
      exact Nat.le_refl _

end FileRecord

namespace ProcessRecord

variable {p p' : ProcessRecord}

theorem Ordered.mono (h : p.Ordered next merged) {later : Nat} (hnext : next ≤ later) :
    p.Ordered later merged where
  history := h.history.mono hnext fun _ => Nat.le_refl _
  files name file hfile := (h.files name file hfile).mono hnext fun _ => List.Sublist.refl _

/-- A new record has one sample for the one entry it was made of. -/
theorem ordered_create (ctx : CycleContext) (pid : Pid) (s : ProcessSnapshot)
    (merged : MergedEntries) :
    (create ctx pid s).Ordered (ctx.index + 1) (merged.add ctx.index [s]) where
  history := (history_create ctx pid s).ordered fun cycle => by
    rw [MergedEntries.length_add]
    exact Nat.le_add_left _ _
  files name file hfile := by
    obtain ⟨_, hlists, hmade⟩ := descriptors_create hfile
    exact FileRecord.ordered_made merged hmade hlists

/-- A record that an entry is merged into gets at most one sample for it. -/
theorem Ordered.merge (h : p.Ordered (ctx.index + 1) merged)
    (hok : (p.merge (create ctx pid (p.fill s))).error = none) :
    (p.merge (create ctx pid (p.fill s))).value.Ordered (ctx.index + 1)
      (merged.add ctx.index [s]) := by
  have hfiles := (merge_error_eq_none_iff.1 hok).2
  -- filling a snapshot changes nothing of what it lists
  have made {name : String} {y : FileRecord}
      (hy : (create ctx pid (p.fill s)).files.get? name = some y) :
      y.isOpen = true ∧ (∀ id, (y.descriptors.get? id).isSome = s.lists name id) ∧
        ∀ id d, y.descriptors.get? id = some d → d.history.OfCycle ctx (p.fill s).time.value? := by
    obtain ⟨hopen, hlists, hmade⟩ := descriptors_create hy
    exact ⟨hopen, fun id => by rw [hlists, lists_fill], hmade⟩
  rw [merge_of_ok hok]
  refine ⟨h.history.merge (history_create ctx pid (p.fill s)) fun cycle => ?_,
    fun name file hfile => ?_⟩
  · rw [MergedEntries.length_add]
  · rcases Merged.of_get?_maps hfiles hfile with ⟨hx, _⟩ | ⟨_, hy⟩ | ⟨x, y, hx, hy, herr, rfl⟩
    · exact (h.files name file hx).mono (Nat.le_refl _) (MergedEntries.sublist_add _ _ _)
    · obtain ⟨_, hlists, hmade⟩ := made hy
      exact FileRecord.ordered_made merged hmade hlists
    · obtain ⟨hopen, hlists, hmade⟩ := made hy
      exact (h.files name x hx).merge hopen hmade hlists herr

/-- A snapshot that is merged adds one entry of its cycle. -/
theorem ordered_renew {known : Option ProcessRecord}
    (h : ∀ p, known = some p → p.Ordered (ctx.index + 1) merged)
    (hrenew : renew ctx pid known s = .ok p') :
    p'.Ordered (ctx.index + 1) (merged.add ctx.index [s]) := by
  rcases renew_cases hrenew with ⟨p, hknown, _, hok, rfl⟩ | ⟨_, rfl⟩
  · exact (h p hknown).merge hok
  · exact ordered_create ctx pid s merged

/-- What a status leaves out stays out of the histories. -/
theorem Ordered.settle (h : p.Ordered next merged) (reported : ReportedFiles) :
    (p.settle reported).Ordered next merged := by
  refine ⟨by rw [settle_history]; exact h.history, fun name file hfile => ?_⟩
  -- closing a file leaves its descriptors alone
  obtain ⟨before, hbefore, rfl⟩ := of_get?_files_settle hfile
  exact h.files name before hbefore

end ProcessRecord

/-! ## The snapshots of a status -/

/-- The snapshots of a process that were merged, in their order. -/
def Fate.mergedOf (pid : Pid) (fates : List (ProcessSnapshot × Fate)) : List ProcessSnapshot :=
  (Fate.merged.select fates).filter fun s => s.pid = some pid

namespace Tracking

variable {t : Tracking}

/-- The snapshots of a status keep the histories ordered, with the entries that were merged.
Induction on the snapshots; one of them is merged into the record of the process, or it leaves that
alone. -/
theorem ordered_foldl (h : ∀ p, t.table.get? pid = some p → p.Ordered (ctx.index + 1) merged)
    (snapshots : List ProcessSnapshot) {p : ProcessRecord}
    (hp : (snapshots.foldl (step ctx) t).table.get? pid = some p) :
    p.Ordered (ctx.index + 1)
      (merged.add ctx.index (Fate.mergedOf pid (t.fates ctx snapshots))) := by
  induction snapshots generalizing t merged with
  | nil =>
    rw [fates, show Fate.mergedOf pid [] = [] from rfl, MergedEntries.add_nil]
    exact h p hp
  | cons s rest ih =>
    rw [fates]
    rcases get?_step_cases ctx t s pid with ⟨hnot, hsame⟩ | ⟨hfate, hpid, p', hrenew, hget⟩
    · -- the snapshot is of another process, or it is not merged
      have hothers : Fate.mergedOf pid ((s, t.table.fate ctx s) :: (t.step ctx s).fates ctx rest)
          = Fate.mergedOf pid ((t.step ctx s).fates ctx rest) := by
        unfold Fate.mergedOf
        by_cases hfate : t.table.fate ctx s = .merged
        · rw [hfate, Fate.select_cons_self, List.filter_cons_of_neg]
          exact fun hpid => hnot ⟨hfate, of_decide_eq_true hpid⟩
        · rw [Fate.select_cons_of_ne hfate]
      rw [hothers]
      exact ih (fun p hp => h p (hsame ▸ hp)) hp
    · have hfirst : Fate.mergedOf pid ((s, t.table.fate ctx s) :: (t.step ctx s).fates ctx rest)
          = [s] ++ Fate.mergedOf pid ((t.step ctx s).fates ctx rest) := by
        unfold Fate.mergedOf
        rw [hfate, Fate.select_cons_self, List.filter_cons_of_pos (by simp [hpid])]
        rfl
      rw [hfirst, ← MergedEntries.add_add]
      refine ih (fun p hp => ?_) hp
      rw [hget] at hp
      cases hp
      exact ProcessRecord.ordered_renew h hrenew

end Tracking

/-! ## Runs of statuses -/

namespace Tracker

/-- The tracker after statuses that are applied one after the other, each under its own settings. -/
def afterStatuses (rounds : List (Settings × Entries)) : Tracker :=
  after (rounds.map fun round => .applied round.1 round.2)

/-- The entries of a process that a status merges. -/
def mergedOf (t : Tracker) (settings : Settings) (entries : Entries) (pid : Pid) :
    List ProcessSnapshot :=
  Fate.mergedOf pid (t.fates settings entries)

/-- The entries of a process that the cycles of a run merged. -/
def mergedIn (rounds : List (Settings × Entries)) (pid : Pid) : MergedEntries := fun cycle =>
  match rounds[cycle]? with
  | some (settings, entries) => (afterStatuses (rounds.take cycle)).mergedOf settings entries pid
  | none => []

variable {rounds : List (Settings × Entries)} {settings : Settings} {entries : Entries}

/-- One more status is applied to what the others left. -/
theorem afterStatuses_concat (rounds : List (Settings × Entries)) (settings : Settings)
    (entries : Entries) :
    afterStatuses (rounds ++ [(settings, entries)])
      = ((afterStatuses rounds).apply settings entries).1 := by
  unfold afterStatuses
  rw [List.map_append, after_append]
  rfl

theorem cycles_afterStatuses (rounds : List (Settings × Entries)) :
    (afterStatuses rounds).cycles = rounds.length := by
  induction rounds using List.reverseRecOn with
  | nil => rfl
  | append_singleton past round ih =>
    rw [afterStatuses_concat, List.length_append, List.length_singleton, ← ih]
    rfl

/-- There is nothing merged in cycles that did not happen. -/
theorem mergedIn_of_le {cycle : Nat} (h : rounds.length ≤ cycle) (pid : Pid) :
    mergedIn rounds pid cycle = [] := by
  unfold mergedIn
  rw [List.getElem?_eq_none h]

/-- One more status adds the entries that it merges, and the cycles of before do not see it. -/
theorem mergedIn_concat (rounds : List (Settings × Entries)) (settings : Settings)
    (entries : Entries) (pid : Pid) :
    mergedIn (rounds ++ [(settings, entries)]) pid
      = (mergedIn rounds pid).add rounds.length
        ((afterStatuses rounds).mergedOf settings entries pid) := by
  funext cycle
  rw [MergedEntries.add]
  rcases Nat.lt_trichotomy cycle rounds.length with hlt | rfl | hgt
  · unfold mergedIn
    rw [List.getElem?_append_left hlt, List.take_append_of_le_length (Nat.le_of_lt hlt),
      if_neg (Nat.ne_of_lt hlt), List.append_nil]
  · rw [mergedIn_of_le (Nat.le_refl _), if_pos rfl, List.nil_append, mergedIn,
      List.getElem?_concat_length, List.take_left]
  · have hlength : (rounds ++ [(settings, entries)]).length ≤ cycle := by
      rw [List.length_append, List.length_singleton]
      exact hgt
    rw [mergedIn_of_le hlength, mergedIn_of_le (Nat.le_of_lt hgt), if_neg (Nat.ne_of_gt hgt)]
    rfl

/-- The histories of every tracked process are ordered. Induction on the run, of which the last
status comes last. -/
theorem ordered_afterStatuses {p : ProcessRecord}
    (tracked : (afterStatuses rounds).process? pid = some p) :
    p.Ordered rounds.length (mergedIn rounds pid) := by
  induction rounds using List.reverseRecOn generalizing p with
  | nil => cases tracked
  | append_singleton past round ih =>
    obtain ⟨settings, entries⟩ := round
    rw [afterStatuses_concat] at tracked
    obtain ⟨old, hold, rfl⟩ := joined_of_process?_apply _ _ _ tracked
    have hindex : ((afterStatuses past).context settings).index = past.length :=
      cycles_afterStatuses past
    -- the new cycle counts already, and has merged nothing yet
    have hpast (p : ProcessRecord) (hp : (afterStatuses past).process? pid = some p) :
        p.Ordered (((afterStatuses past).context settings).index + 1) (mergedIn past pid) := by
      rw [hindex]
      exact (ih hp).mono (Nat.le_succ _)
    have hjoined := Tracking.ordered_foldl (t := (afterStatuses past).tracking entries) hpast
      entries.snapshots hold
    rw [mergedIn_concat, List.length_append, List.length_singleton, ← hindex]
    exact hjoined.settle _

/-- The samples of all histories of a tracked process are in the order of their cycles, all of them
past. With one merged entry a cycle, or for a descriptor with one that lists it, no cycle has
two. -/
theorem samples_ordered {p : ProcessRecord}
    (tracked : (afterStatuses rounds).process? pid = some p) :
    (p.history.Ordered (afterStatuses rounds).cycles fun cycle =>
      (mergedIn rounds pid cycle).length) ∧
    ((∀ cycle, (mergedIn rounds pid cycle).length ≤ 1) → p.history.cycles.Pairwise (· < ·)) ∧
    ∀ name file id d, p.files.get? name = some file → file.descriptors.get? id = some d →
      (d.history.Ordered (afterStatuses rounds).cycles fun cycle =>
        (mergedIn rounds pid cycle).countP (·.lists name id)) ∧
      ((∀ cycle, (mergedIn rounds pid cycle).countP (·.lists name id) ≤ 1) →
        d.history.cycles.Pairwise (· < ·)) := by
  have hp := ordered_afterStatuses tracked
  rw [cycles_afterStatuses]
  refine ⟨hp.history, hp.history.strict, fun name file id d hfile hd => ?_⟩
  have hordered := hp.files name file hfile id d hd
  exact ⟨hordered, hordered.strict⟩

/-- A status with two entries of one process, which differ in what is sampled, and one of another
process. -/
def torn : Entries :=
  .ofStatus (.list
    [.object [("pid", .number (.int 1)), ("cpu_percent", .number (.int 1))],
     .object [("pid", .number (.int 1)), ("cpu_percent", .number (.int 2))],
     .object [("pid", .number (.int 2)), ("cpu_percent", .number (.int 1))]])

/-- The first process has two samples a cycle and the second one has one. -/
theorem samples_ordered_torn :
    ∃ p q, (afterStatuses [(.default, torn), (.default, torn)]).process? 1 = some p ∧
      (afterStatuses [(.default, torn), (.default, torn)]).process? 2 = some q ∧
      p.history.cycles = [0, 0, 1, 1] ∧ p.history.cycles.Pairwise (· ≤ ·) ∧
      q.history.cycles = [0, 1] ∧ q.history.cycles.Pairwise (· < ·) := by
  have hp : ((afterStatuses [(.default, torn), (.default, torn)]).process? 1).map (·.history.cycles)
      = some [0, 0, 1, 1] := by decide
  have hq : ((afterStatuses [(.default, torn), (.default, torn)]).process? 2).map (·.history.cycles)
      = some [0, 1] := by decide
  obtain ⟨p, htracked, hp⟩ := Option.map_eq_some_iff.1 hp
  obtain ⟨q, hqtracked, hq⟩ := Option.map_eq_some_iff.1 hq
  have once (cycle : Nat) : (mergedIn [(.default, torn), (.default, torn)] 2 cycle).length ≤ 1 := by
    match cycle with
    | 0 | 1 => decide
    | cycle + 2 => exact Nat.zero_le 1
  exact ⟨p, q, htracked, hqtracked, hp, (samples_ordered htracked).1.ascending, hq,
    (samples_ordered hqtracked).2.1 once⟩

/-- Two entries of one process in one status can leave two samples of one cycle. -/
theorem not_one_sample_a_cycle :
    ¬ ∀ (rounds : List (Settings × Entries)) (pid : Pid) (p : ProcessRecord),
      (afterStatuses rounds).process? pid = some p → p.history.cycles.Pairwise (· < ·) := by
  intro one_a_cycle
  have hcycles : ((afterStatuses [(.default, torn)]).process? 1).map (·.history.cycles)
      = some [0, 0] := by decide
  obtain ⟨p, tracked, hp⟩ := Option.map_eq_some_iff.1 hcycles
  have hstrict := one_a_cycle [(.default, torn)] 1 p tracked
  rw [hp] at hstrict
  exact absurd hstrict (by decide)

end Tracker

end ProcessWatch
