import ProcessWatch.Proofs.Table.Culling

/-!
# What a status leaves of a table

Bringing a table in line with a status takes three passes over it: processes stop, files are closed,
and what does not run gets older and may be culled. Beside a record that stays, the record before
differs in nothing but these three things. The changes name what stopped and what was closed, also
where the record did not stay.

This holds of every table in which records and files stand under their own keys, whether a run leads
to it or not: a process that does not run may have open files there, and one that runs an age.

* **`ProcessRecord.Outlasts`** — all that a record and what a status leaves of it can differ in.
* **`outlasts_settle`** — what the three passes make of a record differs in no more.
* **`ProcessTable.outlasts_reconcile`** — the records that stay, and what the changes name.
-/

namespace ProcessWatch

namespace ProcessRecord

variable {reported : ReportedFiles} {p : ProcessRecord}

/-- A record, and what a status that reports these files leaves of it. -/
structure Outlasts (reported : ReportedFiles) (p p' : ProcessRecord) : Prop where
  /-- Nothing else changes. -/
  rest : p' = { p with isRunning := p'.isRunning, age := p'.age, files := p'.files }
  running : p'.isRunning = true ↔ p.isRunning = true ∧ reported.get? p.pid ≠ none
  age_of_running : p'.isRunning = true → p'.age = p.age
  /-- A process that does not run is one cycle older, be it that it has just stopped. -/
  age_of_stopped : p'.isRunning = false → p'.age.map (·.toNat) = some p.cyclesGone
  /-- No file comes or goes. -/
  names : p'.files.keys = p.files.keys
  /-- Of a file nothing changes but whether it is open. -/
  files : ∀ name file file', p.files.get? name = some file → p'.files.get? name = some file' →
    file' = { file with isOpen := file'.isOpen } ∧
      (file'.isOpen = true ↔ file.isOpen = true ∧
        ∃ names, reported.get? p.pid = some names ∧ file.name ∈ names)

/-- An open file that is not closed is reported. -/
theorem isClosing_eq_false_iff {file : FileRecord} (opened : file.isOpen = true) :
    p.isClosing reported file = false ↔
      ∃ names, reported.get? p.pid = some names ∧ file.name ∈ names := by
  unfold isClosing
  rw [opened, Bool.true_and]
  cases reported.get? p.pid <;> simp

/-- A record that is settled outlasts a status, whatever that reports. -/
theorem outlasts_settle (young : p.Young) (reported : ReportedFiles) :
    p.Outlasts reported (p.settle reported) := by
  -- to be reported is to have a list of names, even if it is empty
  have hreported : reported.contains p.pid = true ↔ reported.get? p.pid ≠ none := by
    rw [SortedMap.contains, Option.ne_none_iff_isSome]
  refine
    { rest := by rw [settle_eq]
      running := by rw [settle_isRunning, Bool.and_eq_true, hreported]
      age_of_running := ?_
      age_of_stopped := ?_
      names := by rw [settle_eq, SortedMap.keys_mapValues]
      files := ?_ }
  · intro hrun
    rw [settle_isRunning] at hrun
    rw [settle_age, if_pos hrun]
  · intro hstopped
    rw [settle_isRunning] at hstopped
    rw [settle_age, hstopped, ← toNat_nextAge young]
    rfl
  · intro name file file' hfile hfile'
    obtain ⟨before, hbefore, rfl⟩ := of_get?_files_settle hfile'
    rw [hfile] at hbefore
    cases hbefore
    refine ⟨rfl, ?_⟩
    rw [Bool.and_eq_true, Bool.not_eq_true']
    exact and_congr_right isClosing_eq_false_iff

end ProcessRecord

namespace ProcessTable

variable {table after : ProcessTable} {limit : UInt32} {reported : ReportedFiles}
  {changes : Changes}

/-- Bringing a table in line with a status changes of the records that stay only what the status
implies. Each process that ran and is not reported is named once, in ascending order, and so is each
file that was open and is not reported, whether its record stays or is culled. -/
theorem outlasts_reconcile (labelled : table.Labelled)
    (young : ∀ pid p, table.get? pid = some p → p.Young)
    (h : table.reconcile limit reported = (after, changes)) :
    (∀ pid p', after.get? pid = some p' →
      ∃ p, table.get? pid = some p ∧ p.Outlasts reported p') ∧
    (∀ pid, after.Tracks pid ↔ table.Tracks pid ∧ pid ∉ changes.culled) ∧
    changes.stopped.Pairwise (· < ·) ∧
    (∀ pid, pid ∈ changes.stopped ↔ table.Runs pid ∧ reported.get? pid = none) ∧
    (changes.closedFiles.Pairwise fun a b => a.1 < b.1 ∨ a.1 = b.1 ∧ a.2 < b.2) ∧
    (∀ pid name, (pid, name) ∈ changes.closedFiles ↔
      table.HasOpen pid name ∧ ¬ ∃ names, reported.get? pid = some names ∧ name ∈ names) := by
  obtain rfl : (table.reconcile limit reported).1 = after := congrArg Prod.fst h
  obtain rfl : (table.reconcile limit reported).2 = changes := congrArg Prod.snd h
  refine ⟨?_, fun pid => tracks_reconcile, ascending_stopping labelled.keyed reported,
    fun pid => mem_stopping_iff labelled.keyed, labelled.ascending_closing reported,
    fun pid name => labelled.mem_closing_iff⟩
  intro pid p' hp'
  rw [get?_reconcile] at hp'
  split at hp'
  next => cases hp'
  next =>
    obtain ⟨p, hp, rfl⟩ := Option.map_eq_some_iff.1 hp'
    exact ⟨p, hp, ProcessRecord.outlasts_settle (young pid p hp) reported⟩

/-- A file without descriptors. -/
def bareFile (name : String) (isOpen : Bool) : FileRecord := ⟨name, isOpen, .empty⟩

/-- A process that goes on with one of its files, one that has stopped with a file open, its child
that stops now, and one that has stopped and has no age. No run leads to such a table. -/
def untidy : ProcessTable :=
  .ofList
    [(1, { kin 1 none with
      files := .ofList [("/a", bareFile "/a" true), ("/b", bareFile "/b" true)] }),
     (2, { kin 2 none with
      isRunning := false, age := some 2, files := .ofList [("/c", bareFile "/c" true)] }),
     (3, { kin 3 (some 2) with files := .ofList [("/d", bareFile "/d" false)] }),
     (4, { kin 4 none with isRunning := false })]

/-- The table above through one cycle that reports nothing but `/a` of process 1: record 3 is called
stopped, and 2 and 3 are gone afterwards. File `/c` of record 2 is closed although the record goes
in the same cycle. -/
theorem outlasts_reconcile_untidy :
    let reported : ReportedFiles := .ofList [(1, ["/a"])]
    let after := (untidy.reconcile 2 reported).1
    let changes := (untidy.reconcile 2 reported).2
    changes = ⟨[3], [(1, "/b"), (2, "/c")], [2, 3]⟩ ∧ after.keys = [1, 4] ∧
      (∀ pid p', after.get? pid = some p' →
        ∃ p, untidy.get? pid = some p ∧ p.Outlasts reported p') ∧
      (untidy.HasOpen 2 "/c" ∧ ¬ ∃ names, reported.get? 2 = some names ∧ "/c" ∈ names) := by
  intro reported after changes
  have entries : ∀ e ∈ untidy.entries, e.2.pid = e.1 ∧ (e.2.age = none ∨ e.2.age = some 2) ∧
      ∀ f ∈ e.2.files.entries, f.2.name = f.1 := by decide
  -- the record of pid 4 and its files are checked with the others: four entries in all
  have labelled : untidy.Labelled := fun pid p hp =>
    have ⟨hpid, _, hnames⟩ := entries (pid, p) (SortedMap.mem_entries_iff.2 hp)
    ⟨hpid, fun name file hfile => hnames (name, file) (SortedMap.mem_entries_iff.2 hfile)⟩
  have young : ∀ pid p, untidy.get? pid = some p → p.Young := by
    intro pid p hp age hage
    rcases (entries (pid, p) (SortedMap.mem_entries_iff.2 hp)).2.1 with hnone | hsome
    · rw [hnone] at hage
      cases hage
    · rw [hsome] at hage
      cases hage
      decide
  have hchanges : changes = ⟨[3], [(1, "/b"), (2, "/c")], [2, 3]⟩ := by decide
  have hreconcile : untidy.reconcile 2 reported = (after, changes) := rfl
  obtain ⟨outlasts, _, _, _, _, closed_iff⟩ := outlasts_reconcile labelled young hreconcile
  refine ⟨hchanges, by decide, outlasts, (closed_iff 2 "/c").1 ?_⟩
  rw [hchanges]
  decide

end ProcessTable

end ProcessWatch
