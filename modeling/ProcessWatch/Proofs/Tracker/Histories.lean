import Mathlib.Data.List.Induction
import ProcessWatch.Proofs.Record.Samples
import ProcessWatch.Proofs.Tracker.Run

/-!
# Histories tell the cycles that were merged

The histories of a record hold one sample for each cycle that went into it. Which cycles these are
is read off the run: those that merged an entry of the process, from the cycle that began its record
on; and for a descriptor those that merged an entry that lists it, from the cycle on that opened its
file last. A history that is full forgets the oldest of them.

This is about runs under the same settings in which no status has two entries of one process: of
those, both may leave a sample of the cycle.

## The architecture

* **`Tracker.polled`** — a run that applies statuses and nothing else.
* **`Tracker.merges`**, **`begins`**, **`opens`** — what a cycle does with the entries of a process,
  told by the tracker before the cycle and the status. `cycle_cases` is what it does to the record.
* **`cyclesSince`**, **`LastCycle`** — the cycles of a run that do something, and the last of them.
  `cyclesSince_concat` and `LastCycle.concat` say what one more cycle changes.
* **`ProcessRecord.Logged`** — the histories of a record and its files tell these cycles. A cycle
  merges nothing (`Logged.quiet`) or renews the record (`logged_renew`); `logged_polled` is the
  induction over the run.
* **`Tracker.histories_polled`** — the histories of a tracked process, after every run.
-/

namespace ProcessWatch

open ProcessRecord (renew follow create)

/-! ## What a cycle does

All of this is decided by the tracker before the cycle and the status, so that it can be asked of
every cycle of a run, and not only of the last one. -/

namespace Tracker

/-- The tracker after statuses that are applied under the same settings. -/
def polled (settings : Settings) (statuses : List Entries) : Tracker :=
  after (statuses.map (.applied settings))

/-- A status has an entry of a process that goes into the record of that process, and that passes a
test. -/
def merges (settings : Settings) (pid : Pid) (test : ProcessSnapshot → Bool) (t : Tracker)
    (entries : Entries) : Bool :=
  (entries.snapshotsOf pid).any fun s => (t.track (t.context settings) s).isOk && test s

/-- A process is known to run. -/
def isRunning (t : Tracker) (pid : Pid) : Bool := (t.process? pid).any (·.isRunning)

/-- A process is known to run, with a file of this name open. -/
def isOpen (t : Tracker) (pid : Pid) (name : String) : Bool :=
  (t.process? pid).any fun p => p.isRunning && (p.files.get? name).any (·.isOpen)

/-- A status begins a new record of a process. -/
def begins (settings : Settings) (pid : Pid) (t : Tracker) (entries : Entries) : Bool :=
  merges settings pid (fun _ => true) t entries && !t.isRunning pid

/-- A status opens a file of a process that was not open. -/
def opens (settings : Settings) (pid : Pid) (name : String) (t : Tracker) (entries : Entries) :
    Bool :=
  merges settings pid (·.openFiles.contains name) t entries && !t.isOpen pid name

end Tracker

/-! ## The cycles of a run -/

section Cycles

open Tracker (polled)

variable (settings : Settings) (test : Tracker → Entries → Bool) (statuses : List Entries)

/-- Whether a cycle of a run passes a test of the tracker before it and of its status. -/
def cyclePasses (i : Nat) : Bool :=
  statuses[i]?.any fun entries => test (polled settings (statuses.take i)) entries

/-- The numbers of the cycles of a run that pass a test, from one cycle on, in ascending order. -/
def cyclesSince (start : Nat) : List Nat :=
  (List.range statuses.length).filter fun i => start ≤ i && cyclePasses settings test statuses i

/-- A cycle of a run is the last one that passes a test. -/
def LastCycle (i : Nat) : Prop :=
  cyclePasses settings test statuses i = true ∧
    ∀ j, i < j → cyclePasses settings test statuses j = false

variable {settings test statuses} {entries : Entries} {start i : Nat}

/-- The cycles of a run do not see the status that is added to it. -/
theorem cyclePasses_concat_of_lt (h : i < statuses.length) (entries : Entries) :
    cyclePasses settings test (statuses ++ [entries]) i = cyclePasses settings test statuses i := by
  unfold cyclePasses
  rw [List.getElem?_append_left h, List.take_append_of_le_length (Nat.le_of_lt h)]

/-- The new cycle is tested with the tracker that the run leaves. -/
theorem cyclePasses_concat_self (statuses : List Entries) (entries : Entries) :
    cyclePasses settings test (statuses ++ [entries]) statuses.length
      = test (polled settings statuses) entries := by
  unfold cyclePasses
  rw [List.getElem?_concat_length, List.take_left]
  rfl

theorem cyclePasses_of_le (h : statuses.length ≤ i) :
    cyclePasses settings test statuses i = false := by
  unfold cyclePasses
  rw [List.getElem?_eq_none h]
  rfl

/-- A run has no cycle after the one that its last status is applied in. -/
theorem cyclePasses_concat_of_gt (h : statuses.length < i) (entries : Entries) :
    cyclePasses settings test (statuses ++ [entries]) i = false := by
  have hlength : (statuses ++ [entries]).length ≤ i := by
    rw [List.length_append, List.length_singleton]
    exact h
  exact cyclePasses_of_le hlength

/-- The last cycle that passes is one of the run. -/
theorem LastCycle.lt_length (h : LastCycle settings test statuses i) : i < statuses.length := by
  refine Nat.lt_of_not_le fun hle => ?_
  rw [LastCycle, cyclePasses_of_le hle] at h
  exact Bool.false_ne_true h.1

theorem lt_length_of_mem_cyclesSince (h : i ∈ cyclesSince settings test statuses start) :
    i < statuses.length :=
  List.mem_range.1 (List.mem_filter.1 h).1

/-- One more status adds its cycle to the list if that passes. -/
theorem cyclesSince_concat (h : start ≤ statuses.length) (entries : Entries) :
    cyclesSince settings test (statuses ++ [entries]) start
      = cyclesSince settings test statuses start
        ++ if test (polled settings statuses) entries then [statuses.length] else [] := by
  -- the cycles of before do not see what is added at the end
  have hold : ∀ i ∈ List.range statuses.length,
      (start ≤ i && cyclePasses settings test (statuses ++ [entries]) i)
        = (start ≤ i && cyclePasses settings test statuses i) := by
    intro i hi
    rw [cyclePasses_concat_of_lt (List.mem_range.1 hi)]
  unfold cyclesSince
  rw [List.length_append, List.length_singleton, List.range_succ, List.filter_append,
    List.filter_congr hold, List.filter_cons, List.filter_nil, cyclePasses_concat_self,
    decide_eq_true h, Bool.true_and]

/-- From the last cycle on there is nothing but that cycle. -/
theorem cyclesSince_length (statuses : List Entries) (entries : Entries) :
    cyclesSince settings test (statuses ++ [entries]) statuses.length
      = if test (polled settings statuses) entries then [statuses.length] else [] := by
  have hnone : cyclesSince settings test statuses statuses.length = [] := by
    refine List.filter_eq_nil_iff.2 fun i hi => ?_
    have hlt := List.mem_range.1 hi
    simp [Nat.not_le_of_lt hlt]
  rw [cyclesSince_concat (Nat.le_refl _), hnone, List.nil_append]

/-- A cycle that fails leaves the last one that passes where it was. -/
theorem LastCycle.concat (h : LastCycle settings test statuses i)
    (fails : test (polled settings statuses) entries = false) :
    LastCycle settings test (statuses ++ [entries]) i := by
  refine ⟨?_, fun j hj => ?_⟩
  · rw [cyclePasses_concat_of_lt h.lt_length]
    exact h.1
  · rcases Nat.lt_trichotomy j statuses.length with hlt | rfl | hgt
    · rw [cyclePasses_concat_of_lt hlt]
      exact h.2 j hj
    · rw [cyclePasses_concat_self]
      exact fails
    · exact cyclePasses_concat_of_gt hgt entries

/-- A cycle that passes is the last one then. -/
theorem lastCycle_length (passes : test (polled settings statuses) entries = true) :
    LastCycle settings test (statuses ++ [entries]) statuses.length := by
  refine ⟨?_, fun j hj => ?_⟩
  · rw [cyclePasses_concat_self]
    exact passes
  · exact cyclePasses_concat_of_gt hj entries

end Cycles

namespace Tracker

variable {settings : Settings} {statuses : List Entries} {entries : Entries} {pid : Pid}
  {t : Tracker}

/-- One more status is applied to what the others left. -/
theorem polled_concat (settings : Settings) (statuses : List Entries) (entries : Entries) :
    polled settings (statuses ++ [entries])
      = ((polled settings statuses).apply settings entries).1 := by
  unfold polled
  rw [List.map_append, after_append]
  rfl

theorem cycles_polled (settings : Settings) (statuses : List Entries) :
    (polled settings statuses).cycles = statuses.length := by
  induction statuses using List.reverseRecOn with
  | nil => rfl
  | append_singleton past entries ih =>
    rw [polled_concat, List.length_append, List.length_singleton, ← ih]
    rfl

/-- A snapshot goes into the record of its process, or it clashes with that. -/
theorem isOk_track {s : ProcessSnapshot} (hpid : s.pid = some pid) (t : Tracker)
    (ctx : CycleContext) : (t.track ctx s).isOk = (renew ctx pid (t.process? pid) s).isOk := by
  unfold track process?
  rw [ProcessTable.track_of_renew hpid]
  cases renew ctx pid (t.processes.get? pid) s <;> rfl

/-- With at most one entry a process, a cycle leaves its record, or it merges the one entry. -/
theorem cycle_cases (once : entries.pids.Nodup) (t : Tracker) (settings : Settings) (pid : Pid) :
    ((follow (t.context settings) pid (t.process? pid) entries.snapshots).1 = t.process? pid ∧
      ∀ test, merges settings pid test t entries = false) ∨
    ∃ s p, renew (t.context settings) pid (t.process? pid) s = .ok p ∧
      (follow (t.context settings) pid (t.process? pid) entries.snapshots).1 = some p ∧
      ∀ test, merges settings pid test t entries = test s := by
  have hlength : (entries.snapshotsOf pid).length ≤ 1 := by
    rw [Entries.length_snapshotsOf]
    exact List.nodup_iff_count.1 (List.nodup_append.1 once).1 pid
  unfold merges
  rw [← Entries.follow_snapshotsOf]
  cases hof : entries.snapshotsOf pid with
  | nil => exact .inl ⟨rfl, fun _ => rfl⟩
  | cons s rest =>
    rw [hof, List.length_cons] at hlength
    obtain rfl : rest = [] := List.length_eq_zero_iff.1 (by omega)
    have hpid : s.pid = some pid :=
      (Entries.mem_snapshotsOf_iff.1 (hof ▸ List.mem_cons_self)).2
    cases hrenew : renew (t.context settings) pid (t.process? pid) s with
    | ok p =>
      -- the one entry goes through, so a test of the cycle is a test of this entry
      refine .inr ⟨s, p, hrenew, ?_, fun test => ?_⟩
      · rw [ProcessRecord.follow_ok hpid hrenew]
        rfl
      · rw [List.any_cons, List.any_nil, isOk_track hpid, hrenew]
        simp [Except.isOk, Except.toBool]
    | error cause =>
      -- it clashes, and the record stays as if there were no entry
      refine .inl ⟨?_, fun test => ?_⟩
      · rw [ProcessRecord.follow_error hpid hrenew]
        rfl
      · rw [List.any_cons, List.any_nil, isOk_track hpid, hrenew]
        simp [Except.isOk, Except.toBool]

/-- So the samples of the next cycle have the number of statuses as their index. -/
theorem context_polled (settings : Settings) (statuses : List Entries) :
    ((polled settings statuses).context settings).index = statuses.length :=
  cycles_polled settings statuses

/-- The next cycle is new to every log of the cycles so far. -/
theorem index_not_mem_cyclesSince {test : Tracker → Entries → Bool} {start : Nat} :
    ((polled settings statuses).context settings).index
      ∉ cyclesSince settings test statuses start := by
  rw [context_polled]
  exact fun h => Nat.lt_irrefl _ (lt_length_of_mem_cyclesSince h)

theorem merges_of_imp {test weaker : ProcessSnapshot → Bool}
    (imp : ∀ s, test s = true → weaker s = true) (h : merges settings pid test t entries = true) :
    merges settings pid weaker t entries = true := by
  obtain ⟨s, hs, hpass⟩ := List.any_eq_true.1 h
  rw [Bool.and_eq_true] at hpass
  exact List.any_eq_true.2 ⟨s, hs, Bool.and_eq_true_iff.2 ⟨hpass.1, imp s hpass.2⟩⟩

/-- For a process that runs, the files that are open are those of its record. -/
theorem isOpen_of_running {p : ProcessRecord} (known : t.process? pid = some p)
    (running : p.isRunning = true) (name : String) :
    t.isOpen pid name = (p.files.get? name).any (·.isOpen) := by
  unfold isOpen
  rw [known, Option.any_some, running, Bool.true_and]

/-- A process that does not run has no file open. -/
theorem isOpen_of_not_running (stopped : t.isRunning pid = false) (name : String) :
    t.isOpen pid name = false := by
  unfold isRunning at stopped
  unfold isOpen
  cases hknown : t.process? pid with
  | none => rfl
  | some p =>
    rw [hknown, Option.any_some] at stopped
    rw [Option.any_some, stopped, Bool.false_and]

end Tracker

/-! ## Records that tell their cycles

Records are followed from one cycle to the next. In what follows, a run of some `statuses` is over
and a cycle with some `entries` comes next; its number is the number of statuses so far. -/

open Tracker (polled merges begins opens)

section Logged

variable {settings : Settings} {statuses : List Entries} {entries : Entries} {pid : Pid}
  {name : String}

/-- The descriptors of a file have the samples of the cycles that list them, since the file was
opened last. -/
def FileRecord.Logged (settings : Settings) (statuses : List Entries) (pid : Pid) (name : String)
    (file : FileRecord) : Prop :=
  ∃ opening, LastCycle settings (opens settings pid name) statuses opening ∧
    ∀ id, DescriptorRecord.Records (file.descriptors.get? id) settings.capacity
      (cyclesSince settings (merges settings pid (·.lists name id)) statuses opening)

namespace FileRecord

variable {file x y : FileRecord} {time : Option Float}

/-- A cycle that does not list a file leaves it as it is. -/
theorem Logged.quiet (h : file.Logged settings statuses pid name)
    (unlisted : merges settings pid (·.openFiles.contains name) (polled settings statuses) entries
      = false) : file.Logged settings (statuses ++ [entries]) pid name := by
  obtain ⟨opening, hlast, hrecords⟩ := h
  have hopens : opens settings pid name (polled settings statuses) entries = false := by
    rw [opens, unlisted, Bool.false_and]
  refine ⟨opening, hlast.concat hopens, fun id => ?_⟩
  -- what lists a descriptor lists its file
  have hlists :
      merges settings pid (·.lists name id) (polled settings statuses) entries = false := by
    refine Bool.eq_false_iff.2 fun h => ?_
    rw [Tracker.merges_of_imp (fun s => ProcessSnapshot.contains_of_lists) h] at unlisted
    cases unlisted
  rw [cyclesSince_concat (Nat.le_of_lt hlast.lt_length), hlists]
  simpa using hrecords id

/-- A file that a cycle opens has that cycle in its histories, and nothing before it. -/
theorem logged_opened
    (made : ∀ id d, file.descriptors.get? id = some d →
      d.history.OfCycle ((polled settings statuses).context settings) time)
    (listed : ∀ id, merges settings pid (·.lists name id) (polled settings statuses) entries
      = (file.descriptors.get? id).isSome)
    (opened : opens settings pid name (polled settings statuses) entries = true) :
    file.Logged settings (statuses ++ [entries]) pid name := by
  refine ⟨statuses.length, lastCycle_length opened, fun id => ?_⟩
  have hone := DescriptorRecord.records_of_ofCycle (made id)
  rw [Tracker.context_polled] at hone
  rw [cyclesSince_length, listed]
  exact hone

/-- A file that was open gets the cycle in addition; one that was closed starts again. -/
theorem Logged.merge (h : x.Logged settings statuses pid name) (isOpen : y.isOpen = true)
    (made : ∀ id d, y.descriptors.get? id = some d →
      d.history.OfCycle ((polled settings statuses).context settings) time)
    (listed : ∀ id, merges settings pid (·.lists name id) (polled settings statuses) entries
      = (y.descriptors.get? id).isSome)
    (opened : opens settings pid name (polled settings statuses) entries = !x.isOpen)
    (hok : (x.merge y).error = none) :
    (x.merge y).value.Logged settings (statuses ++ [entries]) pid name := by
  cases hwas : x.isOpen with
  | false =>
    -- the cycle opens the file, and only the incoming descriptors are left
    rw [hwas] at opened
    rw [merge_reopened hwas isOpen]
    exact logged_opened made listed opened
  | true =>
    -- the last opening is the one of before, and every listed descriptor gets one sample
    rw [hwas] at opened
    have hkept : ¬ (x.isOpen = false ∧ y.isOpen = true) := by simp [hwas]
    rw [merge_of_not_reopened hkept] at hok ⊢
    obtain ⟨opening, hlast, hrecords⟩ := h
    refine ⟨opening, hlast.concat opened, fun id => ?_⟩
    have hmerged := DescriptorRecord.Records.merge (hrecords id) (made id)
      Tracker.index_not_mem_cyclesSince (Merged.maps_error_eq_none_iff.1 hok id)
    rw [Tracker.context_polled] at hmerged
    rw [Merged.get?_maps hok, cyclesSince_concat (Nat.le_of_lt hlast.lt_length), listed]
    exact hmerged

end FileRecord

/-- The histories of a record and of its files tell the cycles that were merged into them. -/
structure ProcessRecord.Logged (settings : Settings) (statuses : List Entries) (pid : Pid)
    (p : ProcessRecord) : Prop where
  history : ∃ birth, LastCycle settings (begins settings pid) statuses birth ∧
    p.history.Records settings.capacity
      (cyclesSince settings (merges settings pid fun _ => true) statuses birth)
  latest : p.history.latest?.map (·.time) = some p.time
  files : ∀ name file, p.files.get? name = some file → file.Logged settings statuses pid name

namespace ProcessRecord

variable {p p' : ProcessRecord} {s : ProcessSnapshot}

/-- A cycle that merges nothing of a process leaves its record as it is. -/
theorem Logged.quiet (h : p.Logged settings statuses pid)
    (quiet : ∀ test, merges settings pid test (polled settings statuses) entries = false) :
    p.Logged settings (statuses ++ [entries]) pid := by
  refine ⟨?_, h.latest, fun name file hfile => (h.files name file hfile).quiet (quiet _)⟩
  obtain ⟨birth, hlast, hrecords⟩ := h.history
  have hbegins : begins settings pid (polled settings statuses) entries = false := by
    rw [begins, quiet, Bool.false_and]
  refine ⟨birth, hlast.concat hbegins, ?_⟩
  rw [cyclesSince_concat (Nat.le_of_lt hlast.lt_length), quiet]
  simpa using hrecords

/-- What a status leaves out stays out of the histories. -/
theorem Logged.settle (h : p.Logged settings statuses pid) (reported : ReportedFiles) :
    (p.settle reported).Logged settings statuses pid := by
  refine ⟨?_, ?_, fun name file hfile => ?_⟩
  · rw [settle_history]
    exact h.history
  · rw [settle_history, settle_time]
    exact h.latest
  · -- closing a file leaves its descriptors alone
    obtain ⟨before, hbefore, rfl⟩ := of_get?_files_settle hfile
    exact h.files name before hbefore

/-- A record that a cycle begins has that cycle in all its histories, and nothing before it. -/
theorem logged_create
    (tests : ∀ test, merges settings pid test (polled settings statuses) entries = test s)
    (stopped : (polled settings statuses).isRunning pid = false) :
    (create ((polled settings statuses).context settings) pid s).Logged settings
      (statuses ++ [entries]) pid := by
  obtain ⟨hrecords, hlatest⟩ :=
    (history_create ((polled settings statuses).context settings) pid s).records
  refine ⟨⟨statuses.length, lastCycle_length ?_, ?_⟩, hlatest, fun name file hfile => ?_⟩
  · rw [begins, tests, stopped]
    rfl
  · rw [cyclesSince_length, tests]
    rw [Tracker.context_polled] at hrecords
    exact hrecords
  · obtain ⟨_, hlists, hmade⟩ := descriptors_create hfile
    refine FileRecord.logged_opened hmade (fun id => ?_) ?_
    · rw [tests, hlists]
    · rw [opens, tests, Tracker.isOpen_of_not_running stopped, ← isSome_files_create, hfile]
      rfl

/-- A record that the cycle merges one snapshot into gets that cycle in addition, and each of its
files by whether the snapshot lists it. -/
theorem Logged.merge (h : p.Logged settings statuses pid)
    (known : (polled settings statuses).process? pid = some p) (running : p.isRunning = true)
    (tests : ∀ test, merges settings pid test (polled settings statuses) entries = test s)
    (hok : (p.merge (create ((polled settings statuses).context settings) pid (p.fill s))).error
      = none) :
    (p.merge (create ((polled settings statuses).context settings) pid (p.fill s))).value.Logged
      settings (statuses ++ [entries]) pid := by
  have hfiles := (merge_error_eq_none_iff.1 hok).2
  obtain ⟨birth, hlast, hrecords⟩ := h.history
  have hbegins : begins settings pid (polled settings statuses) entries = false := by
    rw [begins, Tracker.isRunning, known, Option.any_some, running, Bool.not_true, Bool.and_false]
  obtain ⟨hmerged, hlatest⟩ := hrecords.merge
    (history_create ((polled settings statuses).context settings) pid (p.fill s))
    Tracker.index_not_mem_cyclesSince
  have hopens (name : String) : opens settings pid name (polled settings statuses) entries
      = (s.openFiles.contains name && !(p.files.get? name).any (·.isOpen)) := by
    rw [opens, tests, Tracker.isOpen_of_running known running]
  rw [merge_of_ok hok]
  refine ⟨⟨birth, hlast.concat hbegins, ?_⟩, hlatest, fun name file hfile => ?_⟩
  · rw [cyclesSince_concat (Nat.le_of_lt hlast.lt_length), tests]
    rw [Tracker.context_polled] at hmerged
    exact hmerged
  · have hlisted {y : FileRecord}
        (hy : (create ((polled settings statuses).context settings) pid (p.fill s)).files.get? name
          = some y) : s.openFiles.contains name = true := by
      rw [← contains_fill p s, ← isSome_files_create, hy]
      rfl
    rcases Merged.of_get?_maps hfiles hfile with ⟨hx, hy⟩ | ⟨hx, hy⟩ | ⟨x, y, hx, hy, herr, rfl⟩
    · -- a known file that the snapshot does not list
      refine (h.files name file hx).quiet ?_
      rw [tests, ← contains_fill p s, ← isSome_files_create, hy]
      rfl
    · -- a file that was not known
      obtain ⟨_, hlists, hmade⟩ := descriptors_create hy
      refine FileRecord.logged_opened hmade (fun id => ?_) ?_
      · rw [tests, hlists, lists_fill]
      · rw [hopens, hlisted hy, hx]
        rfl
    · -- a known file that is listed, be it still open or open again
      obtain ⟨hopen, hlists, hmade⟩ := descriptors_create hy
      refine (h.files name x hx).merge hopen hmade (fun id => ?_) ?_ herr
      · rw [tests, hlists, lists_fill]
      · rw [hopens, hlisted hy, hx, Option.any_some, Bool.true_and]

/-- A snapshot that goes through leaves a record that tells the cycles, be it new or merged. -/
theorem logged_renew
    (h : ∀ p, (polled settings statuses).process? pid = some p → p.Logged settings statuses pid)
    (tests : ∀ test, merges settings pid test (polled settings statuses) entries = test s)
    (hrenew : renew ((polled settings statuses).context settings) pid
      ((polled settings statuses).process? pid) s = .ok p') :
    p'.Logged settings (statuses ++ [entries]) pid := by
  rcases renew_cases hrenew with ⟨p, known, running, hok, rfl⟩ | ⟨stopped, rfl⟩
  · exact (h p known).merge known running tests hok
  · refine logged_create tests ?_
    unfold Tracker.isRunning
    cases hknown : (polled settings statuses).process? pid with
    | none => rfl
    | some p => exact stopped p hknown

/-- The histories of every tracked process tell the cycles of the run. -/
theorem logged_polled (once : ∀ entries ∈ statuses, entries.pids.Nodup)
    (tracked : (polled settings statuses).process? pid = some p) :
    p.Logged settings statuses pid := by
  -- the last status comes last, since what a cycle does is told by the tracker before it
  induction statuses using List.reverseRecOn generalizing p with
  | nil => cases tracked
  | append_singleton past entries ih =>
    have hpast : ∀ e ∈ past, e.pids.Nodup := fun e he => once e (List.mem_append_left _ he)
    have hentries : entries.pids.Nodup := once entries (List.mem_append_right _ List.mem_cons_self)
    rw [Tracker.polled_concat, Tracker.process?_apply] at tracked
    split at tracked
    next => cases tracked
    next =>
      obtain ⟨joined, hjoined, rfl⟩ := Option.map_eq_some_iff.1 tracked
      refine Logged.settle ?_ _
      rcases Tracker.cycle_cases hentries (polled settings past) settings pid with
        ⟨hkept, hquiet⟩ | ⟨s, p', hrenew, hfollow, htests⟩
      · rw [hkept] at hjoined
        exact (ih hpast hjoined).quiet hquiet
      · rw [hfollow] at hjoined
        cases hjoined
        exact logged_renew (fun p hp => ih hpast hp) htests hrenew

end ProcessRecord

end Logged

namespace Tracker

/-- The histories of a tracked process hold the newest of the cycles that were merged into its
record, and those of its descriptors the newest of the cycles that list them since their file was
opened. -/
theorem histories_polled {settings : Settings} {statuses : List Entries} {pid : Pid}
    {p : ProcessRecord} (once : ∀ entries ∈ statuses, entries.pids.Nodup)
    (tracked : (polled settings statuses).process? pid = some p) :
    (∃ birth, LastCycle settings (begins settings pid) statuses birth ∧
      p.history.samples.map (·.index) = History.newest settings.capacity.count
        (cyclesSince settings (merges settings pid fun _ => true) statuses birth)) ∧
    p.history.latest?.map (·.time) = some p.time ∧
    ∀ name file, p.files.get? name = some file →
      ∃ opening, LastCycle settings (opens settings pid name) statuses opening ∧
        ∀ id d, file.descriptors.get? id = some d →
          d.history.samples.map (·.index) = History.newest settings.capacity.count
            (cyclesSince settings (merges settings pid (·.lists name id)) statuses opening) := by
  have hlogged := ProcessRecord.logged_polled once tracked
  refine ⟨?_, hlogged.latest, fun name file hfile => ?_⟩
  · obtain ⟨birth, hlast, hrecords⟩ := hlogged.history
    exact ⟨birth, hlast, hrecords.2⟩
  · obtain ⟨opening, hlast, hrecords⟩ := hlogged.files name file hfile
    refine ⟨opening, hlast, fun id d hd => ?_⟩
    have hd' := hrecords id
    rw [hd] at hd'
    exact hd'.2

/-- Settings with room for two samples in a history. -/
def twoKept : Settings := { Settings.default with capacity := ⟨2, by decide⟩ }

/-- A status with one process, which may have a descriptor of a file. -/
def lone (isOpen : Bool) : Entries :=
  .ofStatus (.byPid [("1", .object
    (if isOpen then [("open_files", .object [("/log", .object [("3", .object [])])])] else []))])

/-- A process stops after the first cycle and another one takes its pid. That one closes a file and
opens it again; the last entry is one that cannot be read. -/
def reopenedRun : List Entries :=
  [lone true, .ofStatus (.list []), lone true, lone true, lone false, lone true, lone true,
   .ofStatus (.byPid [("1", .null)])]

/-- The record begins in cycle 2 and its file is opened again in cycle 5. Of the cycles that count
for them since, the histories hold the last two. -/
theorem histories_polled_reopenedRun :
    (∀ entries ∈ reopenedRun, entries.pids.Nodup) ∧
      cyclesSince twoKept (merges twoKept 1 fun _ => true) reopenedRun 2 = [2, 3, 4, 5, 6] ∧
      cyclesSince twoKept (merges twoKept 1 (·.lists "/log" "3")) reopenedRun 5 = [5, 6] ∧
      ∃ p, (polled twoKept reopenedRun).process? 1 = some p ∧
        (∃ birth, LastCycle twoKept (begins twoKept 1) reopenedRun birth ∧
          p.history.samples.map (·.index) = History.newest twoKept.capacity.count
            (cyclesSince twoKept (merges twoKept 1 fun _ => true) reopenedRun birth)) ∧
        p.history.latest?.map (·.time) = some p.time ∧
        ∀ name file, p.files.get? name = some file →
          ∃ opening, LastCycle twoKept (opens twoKept 1 name) reopenedRun opening ∧
            ∀ id d, file.descriptors.get? id = some d →
              d.history.samples.map (·.index) = History.newest twoKept.capacity.count
                (cyclesSince twoKept (merges twoKept 1 (·.lists name id)) reopenedRun opening) := by
  have once : ∀ entries ∈ reopenedRun, entries.pids.Nodup := by decide
  have htracked : ((polled twoKept reopenedRun).process? 1).isSome = true := by decide
  obtain ⟨p, tracked⟩ := Option.isSome_iff_exists.1 htracked
  exact ⟨once, by decide, by decide, p, tracked, histories_polled once tracked⟩

end Tracker

end ProcessWatch
