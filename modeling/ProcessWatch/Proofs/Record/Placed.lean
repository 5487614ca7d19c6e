import ProcessWatch.Proofs.Record.Merge
import ProcessWatch.Proofs.Table.Liveness

/-!
# Records in their places

What holds of the record of a process whatever the snapshots say: it bears the pid that it stands
under, its files bear the names that they stand under, and only a process that runs has open files.
The rest of what a record should be needs snapshots that were received from a monitor.

* **`ProcessRecord.Placed`**, **`ProcessTable.Placed`** — the invariant, of a record and a table;
  `Labelled` is the part of it about pids and names.
* **`placed_create`**, **`Placed.merge`**, **`Placed.settle`** — the three things that happen to a
  record keep it.
-/

namespace ProcessWatch

/-- A merge of two files of one name is a file of that name. -/
theorem FileRecord.name_merge {file incoming : FileRecord} (same : incoming.name = file.name) :
    (file.merge incoming).value.name = file.name := by
  by_cases hreopen : file.isOpen = false ∧ incoming.isOpen = true
  · rw [merge_reopened hreopen.1 hreopen.2]
    exact same
  · rw [merge_of_not_reopened hreopen]

/-- The descriptors of a file that is made of a snapshot are made of those that it lists. -/
theorem FileRecord.get?_descriptors_ofSnapshot (ctx : CycleContext) (time : Option Float)
    (name : String) (descriptors : SortedMap String DescriptorSnapshot) (id : String) :
    (ofSnapshot ctx time name descriptors).descriptors.get? id
      = (descriptors.get? id).map (DescriptorRecord.ofSnapshot ctx time id) :=
  SortedMap.get?_mapWithKey _ descriptors id

namespace ProcessRecord

variable {pid : Pid} {p incoming : ProcessRecord}

/-- A record stands under its own pid, and its files stand under their own names. -/
structure Labelled (pid : Pid) (p : ProcessRecord) : Prop where
  pid_eq : p.pid = pid
  names : ∀ name file, p.files.get? name = some file → file.name = name

/-- A record stands where it belongs, and so do its files; a process that does not run has none of
them open. -/
structure Placed (pid : Pid) (p : ProcessRecord) : Prop extends Labelled pid p where
  closed : p.isRunning = false → ∀ name file, p.files.get? name = some file → file.isOpen = false

/-- The files of a new record are made of the listed ones. -/
theorem create_files (ctx : CycleContext) (pid : Pid) (s : ProcessSnapshot) :
    (create ctx pid s).files
      = s.openFiles.mapWithKey (FileRecord.ofSnapshot ctx s.time.value?) := rfl

/-- A new record is in its place. -/
theorem placed_create (ctx : CycleContext) (pid : Pid) (s : ProcessSnapshot) :
    (create ctx pid s).Placed pid where
  pid_eq := rfl
  names := by
    intro name file hfile
    rw [create_files, SortedMap.get?_mapWithKey] at hfile
    obtain ⟨descriptors, _, rfl⟩ := Option.map_eq_some_iff.1 hfile
    rfl
  closed := nofun

/-- A merge that goes through keeps a record in its place. -/
theorem Placed.merge (h : p.Placed pid) (hi : incoming.Placed pid)
    (running : incoming.isRunning = true) (hok : (p.merge incoming).error = none) :
    (p.merge incoming).value.Placed pid := by
  have hfiles := (merge_error_eq_none_iff.1 hok).2
  rw [merge_of_ok hok]
  refine ⟨⟨h.pid_eq, ?_⟩, ?_⟩
  · intro name file hfile
    rcases Merged.of_get?_maps hfiles hfile with ⟨hx, _⟩ | ⟨_, hy⟩ | ⟨x, y, hx, hy, _, rfl⟩
    · exact h.names name file hx
    · exact hi.names name file hy
    · have hname : x.name = name := h.names name x hx
      rw [FileRecord.name_merge (by rw [hname, hi.names name y hy]), hname]
  · -- what was merged was seen just now, so the process runs
    intro hstopped
    rw [running] at hstopped
    cases hstopped

/-- A process that stops is not reported, so all its files are closed; one that did not run before
has no open file to begin with. -/
theorem Placed.settle (h : p.Placed pid) (reported : ReportedFiles) :
    (p.settle reported).Placed pid := by
  rw [settle_eq]
  have hfile {name : String} {file : FileRecord}
      (hget : (p.files.mapValues fun file =>
        if p.isClosing reported file then file.close else file).get? name = some file) :
      ∃ before, p.files.get? name = some before ∧
        (if p.isClosing reported before then before.close else before) = file := by
    rw [SortedMap.get?_mapValues] at hget
    exact Option.map_eq_some_iff.1 hget
  refine ⟨⟨h.pid_eq, ?_⟩, ?_⟩
  · intro name file hget
    obtain ⟨before, hbefore, rfl⟩ := hfile hget
    have hname : before.name = name := h.names name before hbefore
    split
    next => exact hname
    next => exact hname
  · -- the process has stopped before, or it stops now
    intro hstopped name file hget
    obtain ⟨before, hbefore, rfl⟩ := hfile hget
    cases hrun : p.isRunning with
    | false =>
      have hopen := h.closed hrun name before hbefore
      rw [isClosing_of_closed hopen]
      exact hopen
    | true =>
      have hreported : reported.get? p.pid = none := by
        have hand : (p.isRunning && reported.contains p.pid) = false := hstopped
        rw [hrun, Bool.true_and] at hand
        exact Option.isNone_iff_eq_none.1 (Option.isSome_eq_false_iff.1 hand)
      rw [isClosing_of_not_reported hreported]
      cases hopen : before.isOpen with
      | true => rfl
      | false => exact hopen

end ProcessRecord

/-- All records of a table stand where they belong. -/
def ProcessTable.Placed (table : ProcessTable) : Prop :=
  ∀ pid p, table.get? pid = some p → p.Placed pid

/-- Records in their places stand under their own pids. -/
theorem ProcessTable.Placed.keyed {table : ProcessTable} (h : table.Placed) : table.Keyed :=
  fun pid p hp => (h pid p hp).pid_eq

/-- All records of a table and all their files stand under their own keys. -/
def ProcessTable.Labelled (table : ProcessTable) : Prop :=
  ∀ pid p, table.get? pid = some p → p.Labelled pid

theorem ProcessTable.Placed.labelled {table : ProcessTable} (h : table.Placed) : table.Labelled :=
  fun pid p hp => (h pid p hp).toLabelled

/-- Labelled records stand under their own pids. -/
theorem ProcessTable.Labelled.keyed {table : ProcessTable} (h : table.Labelled) : table.Keyed :=
  fun pid p hp => (h pid p hp).pid_eq

end ProcessWatch
