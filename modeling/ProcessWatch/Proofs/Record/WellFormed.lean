import ProcessWatch.Proofs.Attributes
import ProcessWatch.Proofs.Record.Placed
import ProcessWatch.Proofs.Wire.Received

/-!
# Well-formed records

What holds of every record that a tracker keeps, whatever was merged into it: things are stored
under their own names, histories are neither empty nor too long, a process runs exactly if it has no
age, and one that does not run has no open file.

## The architecture

* **`History.Bounded`**, **`DescriptorRecord.WellFormed`**, **`FileRecord.WellFormed`**,
  **`ProcessRecord.WellFormed`** — the invariant, one level on top of the other.
* **`wellFormed_ofSnapshot`**, **`wellFormed_create`** — a new record has it.
* **`WellFormed.merge`** — a merge that goes through keeps it.
* **`WellFormed.settle`** — so does what a status leaves out.
-/

namespace ProcessWatch

/-! ## Histories -/

namespace History

variable {α : Type}

/-- A history that has samples, and no more of them than it can hold. -/
def Bounded (h : History α) : Prop := h.samples ≠ [] ∧ h.samples.length ≤ h.capacity.count

/-- There is room for the newest sample at least. -/
theorem bounded_push (h : History α) (sample : α) : (h.push sample).Bounded := by
  have hlength : (h.push sample).samples.length = min h.capacity.count (h.samples.length + 1) := by
    show (newest h.capacity.count (h.samples ++ [sample])).length = _
    rw [length_newest, List.length_append, List.length_singleton]
  have hpos := h.capacity.pos
  refine ⟨?_, ?_⟩
  · rw [← List.length_pos_iff, hlength]
    omega
  · rw [hlength]
    exact Nat.min_le_left _ _

variable [BEq α]

/-- A sample that is left out changes nothing, and one that is taken is pushed. -/
theorem Bounded.append {h : History α} (hb : h.Bounded) (sample : α) :
    (h.append sample).1.Bounded := by
  unfold History.append
  split
  next => exact hb
  next => exact bounded_push h sample

/-- Merging appends the samples one by one. -/
theorem Bounded.merge {h : History α} (hb : h.Bounded) (incoming : History α) :
    (h.merge incoming).Bounded := by
  unfold History.merge
  induction incoming.samples generalizing h with
  | nil => exact hb
  | cons sample rest ih => exact ih (hb.append sample)

end History

/-! ## Descriptors and files -/

/-- The record of a descriptor stands under its own number and has a history. -/
structure DescriptorRecord.WellFormed (id : String) (d : DescriptorRecord) : Prop where
  id_eq : d.id = id
  history : d.history.Bounded

/-- A new descriptor has one sample. -/
theorem DescriptorRecord.wellFormed_ofSnapshot (ctx : CycleContext) (time : Option Float)
    (id : String) (snapshot : DescriptorSnapshot) :
    (ofSnapshot ctx time id snapshot).WellFormed id :=
  ⟨rfl, History.bounded_push _ _⟩

/-- A merge keeps the number of a descriptor and bounds its history. -/
theorem DescriptorRecord.WellFormed.merge {id : String} {d incoming : DescriptorRecord}
    (h : d.WellFormed id) (hok : (d.merge incoming).error = none) :
    (d.merge incoming).value.WellFormed id := by
  rw [merge_of_ok hok]
  exact ⟨h.id_eq, h.history.merge incoming.history⟩

/-- The record of a file stands under its own name, and its descriptors under theirs. -/
structure FileRecord.WellFormed (name : String) (file : FileRecord) : Prop where
  name_eq : file.name = name
  descriptors : ∀ id d, file.descriptors.get? id = some d → d.WellFormed id

/-- A new file has new descriptors under their own numbers. -/
theorem FileRecord.wellFormed_ofSnapshot (ctx : CycleContext) (time : Option Float) (name : String)
    (descriptors : SortedMap String DescriptorSnapshot) :
    (ofSnapshot ctx time name descriptors).WellFormed name := by
  refine ⟨rfl, fun id d hd => ?_⟩
  have hmap : (descriptors.get? id).map (DescriptorRecord.ofSnapshot ctx time id) = some d := by
    rw [← SortedMap.get?_mapWithKey]
    exact hd
  obtain ⟨snapshot, _, rfl⟩ := Option.map_eq_some_iff.1 hmap
  exact DescriptorRecord.wellFormed_ofSnapshot ctx time id snapshot

/-- A merge keeps a file well-formed, whether it is opened again or not. -/
theorem FileRecord.WellFormed.merge {name : String} {file incoming : FileRecord}
    (h : file.WellFormed name) (hi : incoming.WellFormed name)
    (hok : (file.merge incoming).error = none) : (file.merge incoming).value.WellFormed name := by
  by_cases hreopen : file.isOpen = false ∧ incoming.isOpen = true
  · rw [merge_reopened hreopen.1 hreopen.2]
    exact hi
  · rw [merge_of_not_reopened hreopen] at hok ⊢
    refine ⟨h.name_eq, fun id d hd => ?_⟩
    rcases Merged.of_get?_maps hok hd with ⟨hx, _⟩ | ⟨_, hy⟩ | ⟨x, y, hx, _, herr, rfl⟩
    · exact h.descriptors id d hx
    · exact hi.descriptors id d hy
    · exact (h.descriptors id x hx).merge herr

/-! ## Processes -/

/-- The names of the fields of a process that are no attributes. -/
def ProcessRecord.ownFields : List String :=
  ["pid", "parent_pid", "is_master", "is_running", "age", "time", "history", "files"]

/-- The record of a process is consistent with itself. -/
structure ProcessRecord.WellFormed (pid : Pid) (p : ProcessRecord) : Prop where
  pid_eq : p.pid = pid
  running_iff : p.isRunning = true ↔ p.age = none
  closed : p.isRunning = false → ∀ name file, p.files.get? name = some file → file.isOpen = false
  files : ∀ name file, p.files.get? name = some file → file.WellFormed name
  history : p.history.Bounded
  attributes : ∀ key ∈ ownFields, Fields.get? key p.attributes = none

namespace ProcessRecord

/-- A well-formed record is in its place. -/
theorem WellFormed.placed {pid : Pid} {p : ProcessRecord} (h : p.WellFormed pid) : p.Placed pid :=
  ⟨⟨h.pid_eq, fun name file hfile => (h.files name file hfile).name_eq⟩, h.closed⟩

/-- The attributes of a new record are the fields of its snapshot but for those that the tracking
decides. -/
theorem create_attributes (ctx : CycleContext) (pid : Pid) (s : ProcessSnapshot) :
    (create ctx pid s).attributes = Fields.without trackedFields s.fields := rfl

/-- A snapshot keeps no field under the name of a field of its process. -/
def Plain (s : ProcessSnapshot) : Prop :=
  ∀ key ∈ ownFields, key ∉ trackedFields → Fields.get? key s.fields = none

/-- A monitor has no say in the fields of a process that have a place of their own. -/
theorem plain_of_received {s : ProcessSnapshot} (h : s.Received) : Plain s := by
  intro key hkey hfree
  refine h.get?_typed ?_
  simp only [ownFields, trackedFields, ProcessSnapshot.typedFields, List.mem_cons] at *
  grind

theorem plain_fill {s : ProcessSnapshot} (p : ProcessRecord) (h : Plain s) : Plain (p.fill s) := h

/-- A new record is well-formed. It runs, its files are open, and it has one sample. -/
theorem wellFormed_create (ctx : CycleContext) (pid : Pid) {s : ProcessSnapshot} (h : Plain s) :
    (create ctx pid s).WellFormed pid where
  pid_eq := rfl
  running_iff := ⟨fun _ => rfl, fun _ => rfl⟩
  closed := nofun
  files := by
    intro name file hfile
    rw [create_files, SortedMap.get?_mapWithKey] at hfile
    obtain ⟨descriptors, _, rfl⟩ := Option.map_eq_some_iff.1 hfile
    exact FileRecord.wellFormed_ofSnapshot ctx _ name descriptors
  history := History.bounded_push _ _
  attributes := by
    intro key hkey
    rw [create_attributes, Fields.get?_without]
    split
    next => rfl
    next hfree => exact h key hkey hfree

/-- A merge that goes through keeps the invariant. -/
theorem WellFormed.merge {pid : Pid} {p incoming : ProcessRecord} (h : p.WellFormed pid)
    (hi : incoming.WellFormed pid) (running : incoming.isRunning = true)
    (hok : (p.merge incoming).error = none) : (p.merge incoming).value.WellFormed pid := by
  have hfiles := (merge_error_eq_none_iff.1 hok).2
  have hplaced := h.placed.merge hi.placed running hok
  rw [merge_of_ok hok] at hplaced ⊢
  refine ⟨h.pid_eq, hi.running_iff, hplaced.closed, ?_, h.history.merge incoming.history, ?_⟩
  · intro name file hfile
    rcases Merged.of_get?_maps hfiles hfile with ⟨hx, _⟩ | ⟨_, hy⟩ | ⟨x, y, hx, hy, herr, rfl⟩
    · exact h.files name file hx
    · exact hi.files name file hy
    · exact (h.files name x hx).merge (hi.files name y hy) herr
  · intro key hkey
    -- a name that neither side has is not in the merge
    show Fields.get? key (Attributes.mergeFields p.attributes incoming.attributes).value = none
    rw [Attributes.get?_mergeFields_of_not_mem]
    · exact h.attributes key hkey
    · exact Fields.get?_eq_none_iff.1 (hi.attributes key hkey)

/-! ## What a status leaves out -/

/-- A file that is closed stays well-formed. -/
theorem close_wellFormed {name : String} {file : FileRecord} (h : file.WellFormed name) :
    file.close.WellFormed name :=
  ⟨h.name_eq, h.descriptors⟩

/-- What a status leaves out keeps the invariant. -/
theorem WellFormed.settle {pid : Pid} {p : ProcessRecord} (h : p.WellFormed pid)
    (reported : ReportedFiles) : (p.settle reported).WellFormed pid := by
  have hplaced := h.placed.settle reported
  rw [settle_eq] at hplaced ⊢
  refine ⟨h.pid_eq, ?_, hplaced.closed, ?_, h.history, h.attributes⟩
  · -- a process that goes on has no age as before, and one that does not gets one
    show (p.isRunning && reported.contains p.pid) = true ↔ _
    by_cases hrun : (p.isRunning && reported.contains p.pid) = true
    · have hage : p.age = none := h.running_iff.1 (Bool.and_eq_true_iff.1 hrun).1
      simp [hrun, hage]
    · simp [hrun]
  · intro name file hget
    rw [SortedMap.get?_mapValues] at hget
    obtain ⟨before, hbefore, rfl⟩ := Option.map_eq_some_iff.1 hget
    split
    next => exact close_wellFormed (h.files name before hbefore)
    next => exact h.files name before hbefore

end ProcessRecord

end ProcessWatch
