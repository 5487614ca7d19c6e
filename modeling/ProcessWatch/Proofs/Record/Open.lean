import ProcessWatch.Proofs.Record.Placed

/-!
# The open files of a record

Which files of a process are open, after each of the things that happen to its record. A snapshot
opens the files that it lists and closes none; what a status leaves out closes files and opens none.

* **`ProcessRecord.HasOpen`** — a file of a process is open.
* **`hasOpen_create`**, **`hasOpen_merge_create`** — the open files of a new record, and of one that
  was merged with a new one.
* **`hasOpen_settle`** — the open files that a status does not leave out.
-/

namespace ProcessWatch

namespace FileRecord

/-- A merge leaves a file as open as it was seen last. -/
theorem isOpen_merge (file incoming : FileRecord) :
    (file.merge incoming).value.isOpen = incoming.isOpen := by
  by_cases hreopen : file.isOpen = false ∧ incoming.isOpen = true
  · rw [merge_reopened hreopen.1 hreopen.2]
    rfl
  · rw [merge_of_not_reopened hreopen]

end FileRecord

namespace ProcessRecord

variable {ctx : CycleContext} {pid : Pid} {p : ProcessRecord} {s : ProcessSnapshot} {name : String}

/-- A process has a file of this name open. -/
def HasOpen (p : ProcessRecord) (name : String) : Prop :=
  ∃ file, p.files.get? name = some file ∧ file.isOpen = true

theorem keys_openFiles_fill (p : ProcessRecord) (s : ProcessSnapshot) :
    (p.fill s).openFiles.keys = s.openFiles.keys :=
  SortedMap.keys_mapWithKey _ s.openFiles

/-- All files of a new record are open. -/
theorem isOpen_of_files_create {file : FileRecord}
    (h : (create ctx pid s).files.get? name = some file) : file.isOpen = true := by
  rw [create_files, SortedMap.get?_mapWithKey] at h
  obtain ⟨descriptors, _, rfl⟩ := Option.map_eq_some_iff.1 h
  rfl

/-- A new record has those files open that its snapshot lists. -/
theorem hasOpen_create : (create ctx pid s).HasOpen name ↔ name ∈ s.openFiles.keys := by
  have hkeys : name ∈ s.openFiles.keys ↔ ((create ctx pid s).files.get? name).isSome = true := by
    rw [create_files, SortedMap.get?_mapWithKey, Option.isSome_map, SortedMap.mem_keys_iff]
  rw [hkeys, Option.isSome_iff_exists]
  constructor
  · rintro ⟨file, hfile, _⟩
    exact ⟨file, hfile⟩
  · rintro ⟨file, hfile⟩
    exact ⟨file, hfile, isOpen_of_files_create hfile⟩

/-- A merge opens what the incoming record lists, and closes nothing. -/
theorem hasOpen_merge_create (hok : (p.merge (create ctx pid s)).error = none) :
    (p.merge (create ctx pid s)).value.HasOpen name
      ↔ p.HasOpen name ∨ name ∈ s.openFiles.keys := by
  have hfiles := (merge_error_eq_none_iff.1 hok).2
  have hlisted : (create ctx pid s).HasOpen name ↔ name ∈ s.openFiles.keys := hasOpen_create
  rw [merge_of_ok hok, ← hlisted]
  constructor
  · rintro ⟨file, hfile, hopen⟩
    rcases Merged.of_get?_maps hfiles hfile with ⟨hx, _⟩ | ⟨_, hy⟩ | ⟨x, y, _, hy, _, rfl⟩
    · exact .inl ⟨file, hx, hopen⟩
    · exact .inr ⟨file, hy, hopen⟩
    · exact .inr ⟨y, hy, by rwa [← FileRecord.isOpen_merge x y]⟩
  · intro h
    unfold HasOpen
    rw [Merged.get?_maps hfiles]
    cases hy : (create ctx pid s).files.get? name with
    | some y =>
      -- what is listed is open afterwards, whatever was known of it
      have hopen := isOpen_of_files_create hy
      cases p.files.get? name with
      | none => exact ⟨y, rfl, hopen⟩
      | some x => exact ⟨(x.merge y).value, rfl, by rw [FileRecord.isOpen_merge, hopen]⟩
    | none =>
      rcases h with ⟨x, hx, hopen⟩ | ⟨y', hy', _⟩
      · rw [hx]
        exact ⟨x, rfl, hopen⟩
      · rw [hy] at hy'
        cases hy'

/-- A status leaves those files open that it reports. -/
theorem hasOpen_settle (hp : p.Placed pid) (reported : ReportedFiles) :
    (p.settle reported).HasOpen name
      ↔ p.HasOpen name ∧ ∃ names, reported.get? pid = some names ∧ name ∈ names := by
  unfold HasOpen
  rw [settle_eq, SortedMap.get?_mapValues]
  constructor
  · rintro ⟨file, hfile, hopen⟩
    obtain ⟨before, hbefore, rfl⟩ := Option.map_eq_some_iff.1 hfile
    -- a process that is not reported closes all files, and one that is reported those that are not
    -- listed
    cases hreported : reported.get? pid with
    | none =>
      rw [isClosing_of_not_reported (by rwa [hp.pid_eq])] at hopen
      cases hwas : before.isOpen <;> simp [hwas, FileRecord.close] at hopen
    | some names =>
      have hname : before.name = name := hp.names name before hbefore
      rw [isClosing_of_reported (by rwa [hp.pid_eq]), hname] at hopen
      cases hwas : before.isOpen with
      | false => simp [hwas] at hopen
      | true =>
        refine ⟨⟨before, hbefore, hwas⟩, names, rfl, ?_⟩
        cases hlisted : names.contains name with
        | true => exact List.contains_iff_mem.1 hlisted
        | false =>
          rw [hwas, hlisted] at hopen
          cases hopen
  · rintro ⟨⟨file, hfile, hopen⟩, names, hreported, hlisted⟩
    refine ⟨file, ?_, hopen⟩
    rw [hfile, Option.map_some, isClosing_of_reported (by rwa [hp.pid_eq]),
      hp.names name file hfile, List.contains_iff_mem.2 hlisted]
    simp

end ProcessRecord

end ProcessWatch
