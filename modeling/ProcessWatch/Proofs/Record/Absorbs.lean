import ProcessWatch.Proofs.Record.WellFormed
import ProcessWatch.Proofs.Tracker.Status
import ProcessWatch.Proofs.Enrichment
import ProcessWatch.Proofs.Wire.Clean

/-!
# Snapshots that a record has seen

A snapshot that went into a record goes into it again: whatever the record held before, what the
snapshot lists is there now, in the form that merging it leaves. What was filled in on the way
does not matter.

* **`FileRecord.Absorbs`**, **`ProcessRecord.Absorbs`** — a record has what a snapshot lists.
* **`ProcessRecord.Absorbs.merge_error`** — then they do not clash.
* **`ProcessRecord.absorbs_of_renew`** — a record absorbs the snapshot that was merged last.
* **`ProcessRecord.Absorbs.settle`** — what a status leaves out does not change that.
-/

namespace ProcessWatch

/-! ## Fields and files -/

/-- Fields without repeated names absorb themselves. -/
theorem Fields.Unique.absorbs {fields : Fields} (h : fields.Unique) :
    Attributes.Absorbs fields fields :=
  Attributes.absorbs_self h.1 fun field hfield => Attributes.stable_of_unique (h.2 field hfield)

/-- They are absorbed by what they were merged into. -/
theorem Fields.Unique.absorbs_merge {fields existing : Fields} (h : fields.Unique)
    (hok : (Attributes.merge existing fields).error = none) :
    Attributes.Absorbs (Attributes.merge existing fields).value fields :=
  Attributes.absorbs_of_stable h.1
    (fun field hfield => Attributes.stable_of_unique (h.2 field hfield)) (Merged.eq_done hok)

namespace FileRecord

variable {file incoming : FileRecord} {descriptors : SortedMap String DescriptorSnapshot}

/-- A file shows what one snapshot lists under a name: the same descriptors with the same
attributes. -/
def Shows (file : FileRecord) (descriptors : SortedMap String DescriptorSnapshot) : Prop :=
  ∀ id, (file.descriptors.get? id).map (·.attributes) = (descriptors.get? id).map (·.fields)

/-- A file has the attributes that a snapshot lists for its descriptors, as far as it has these, in
a form that merging keeps. -/
def Absorbs (file : FileRecord) (descriptors : SortedMap String DescriptorSnapshot) : Prop :=
  ∀ id d snapshot, file.descriptors.get? id = some d → descriptors.get? id = some snapshot →
    Attributes.Absorbs d.attributes snapshot.fields

/-- A new record of a file shows the descriptors that it was made of. -/
theorem shows_ofSnapshot (ctx : CycleContext) (time : Option Float) (name : String)
    (descriptors : SortedMap String DescriptorSnapshot) :
    (ofSnapshot ctx time name descriptors).Shows descriptors := by
  intro id
  rw [get?_descriptors_ofSnapshot]
  cases descriptors.get? id <;> rfl

/-- Filling a snapshot with what is known of a file adds no attribute. -/
theorem Shows.of_fill {known : FileRecord} (h : file.Shows (known.fill descriptors)) :
    file.Shows descriptors := by
  intro id
  rw [h id]
  unfold fill
  split
  next =>
    rw [SortedMap.get?_mapWithKey]
    cases descriptors.get? id with
    | none => rfl
    | some snapshot => cases known.descriptors.get? id <;> rfl
  next => rfl

/-- The attributes of such a descriptor are the fields of its snapshot. -/
theorem Shows.attributes_eq {id : String} {d : DescriptorRecord} {snapshot : DescriptorSnapshot}
    (h : file.Shows descriptors) (hd : file.descriptors.get? id = some d)
    (hsnapshot : descriptors.get? id = some snapshot) : d.attributes = snapshot.fields := by
  have hid := h id
  rw [hd, hsnapshot] at hid
  exact Option.some.inj hid

/-- Shown descriptors are absorbed: merging a value without repeated names into itself changes
nothing. -/
theorem Shows.absorbs (h : file.Shows descriptors)
    (unique : ∀ id snapshot, descriptors.get? id = some snapshot → snapshot.fields.Unique) :
    file.Absorbs descriptors := by
  intro id d snapshot hd hsnapshot
  rw [h.attributes_eq hd hsnapshot]
  exact (unique id snapshot hsnapshot).absorbs

/-- A file absorbs what was merged into it without a clash. -/
theorem Shows.absorbs_merge (h : incoming.Shows descriptors)
    (unique : ∀ id snapshot, descriptors.get? id = some snapshot → snapshot.fields.Unique)
    (hok : (file.merge incoming).error = none) :
    (file.merge incoming).value.Absorbs descriptors := by
  by_cases hreopen : file.isOpen = false ∧ incoming.isOpen = true
  · rw [merge_reopened hreopen.1 hreopen.2]
    exact h.absorbs unique
  · rw [merge_of_not_reopened hreopen] at hok ⊢
    intro id d snapshot hd hsnapshot
    -- a descriptor of the snapshot is in the incoming file, so it is new or was merged in
    rcases Merged.of_get?_maps hok hd with ⟨_, habsent⟩ | ⟨_, hnew⟩ | ⟨x, y, _, hy, herr, rfl⟩
    · have hid := h id
      rw [habsent, hsnapshot] at hid
      cases hid
    · rw [h.attributes_eq hnew hsnapshot]
      exact (unique id snapshot hsnapshot).absorbs
    · have hattributes := h.attributes_eq hy hsnapshot
      have hmerge : (Attributes.merge x.attributes snapshot.fields).error = none := by
        rw [← hattributes, ← DescriptorRecord.merge_error]
        exact herr
      rw [DescriptorRecord.merge_of_ok herr]
      show Attributes.Absorbs (Attributes.merge x.attributes y.attributes).value snapshot.fields
      rw [hattributes]
      exact (unique id snapshot hsnapshot).absorbs_merge hmerge

end FileRecord

namespace ProcessRecord

variable {ctx : CycleContext} {pid : Pid} {p : ProcessRecord} {s s' : ProcessSnapshot}

/-- The files of a new record show what its snapshot lists. -/
theorem of_files_create {name : String} {file : FileRecord}
    (h : (create ctx pid s).files.get? name = some file) :
    file.isOpen = true ∧ ∃ descriptors, s.openFiles.get? name = some descriptors ∧
      file.Shows descriptors := by
  rw [create_files, SortedMap.get?_mapWithKey] at h
  obtain ⟨descriptors, hdescriptors, rfl⟩ := Option.map_eq_some_iff.1 h
  exact ⟨rfl, descriptors, hdescriptors, FileRecord.shows_ofSnapshot ctx _ name descriptors⟩

/-- The listed files are filled one by one, each with what is known of it. -/
theorem get?_openFiles_fill (p : ProcessRecord) (s : ProcessSnapshot) (name : String) :
    (p.fill s).openFiles.get? name = (s.openFiles.get? name).map fun descriptors =>
      match p.files.get? name with
      | some file => file.fill descriptors
      | none => descriptors :=
  SortedMap.get?_mapWithKey _ s.openFiles name

/-- A file of a new record was listed by the snapshot, and it shows what was listed. -/
theorem of_files_create_fill {name : String} {file : FileRecord}
    (h : (create ctx pid (p.fill s)).files.get? name = some file) :
    file.isOpen = true ∧ ∃ descriptors, s.openFiles.get? name = some descriptors ∧
      file.Shows descriptors := by
  obtain ⟨hopen, filled, hfilled, hshows⟩ := of_files_create h
  rw [get?_openFiles_fill] at hfilled
  obtain ⟨descriptors, hdescriptors, rfl⟩ := Option.map_eq_some_iff.1 hfilled
  refine ⟨hopen, descriptors, hdescriptors, ?_⟩
  split at hshows
  next => exact hshows.of_fill
  next => exact hshows

/-! ## Records that have what a snapshot lists -/

/-- A record has every attribute that a snapshot lists, and its open files have what the snapshot
lists for them, in a form that merging keeps. -/
structure Absorbs (p : ProcessRecord) (s : ProcessSnapshot) : Prop where
  attributes : Attributes.Absorbs p.attributes (Fields.without trackedFields s.fields)
  files : ∀ name file descriptors, p.files.get? name = some file → file.isOpen = true →
    s.openFiles.get? name = some descriptors → file.Absorbs descriptors

/-- A record does not clash with a snapshot that it has absorbed. -/
theorem Absorbs.merge_error (h : p.Absorbs s) (ctx : CycleContext) (pid : Pid) :
    (p.merge (.create ctx pid (p.fill s))).error = none := by
  refine merge_error_eq_none_iff.2 ⟨?_, Merged.maps_error_eq_none_iff.2 ?_⟩
  · exact congrArg Merged.error (Attributes.mergeFields_of_absorbs h.attributes)
  · intro name file incoming hfile hincoming
    obtain ⟨hopened, descriptors, hdescriptors, hshows⟩ := of_files_create_fill hincoming
    cases hopen : file.isOpen with
    | false =>
      -- the closed file gives way, whatever it holds
      rw [FileRecord.merge_reopened hopen hopened]
      rfl
    | true =>
      rw [FileRecord.merge_of_not_reopened (by simp [hopen])]
      refine Merged.maps_error_eq_none_iff.2 ?_
      intro id d d' hd hd'
      have hid := hshows id
      rw [hd'] at hid
      obtain ⟨snapshot, hsnapshot, _⟩ := Option.map_eq_some_iff.1 hid.symm
      have habsorbs := h.files name file descriptors hfile hopen hdescriptors id d snapshot hd
        hsnapshot
      rw [DescriptorRecord.merge_error, hshows.attributes_eq hd' hsnapshot]
      exact congrArg Merged.error (Attributes.mergeFields_of_absorbs habsorbs)

/-- What a status leaves out does not matter: attributes stay, and at most files are closed. -/
theorem Absorbs.settle (h : p.Absorbs s) (reported : ReportedFiles) :
    (p.settle reported).Absorbs s := by
  rw [settle_eq]
  refine ⟨h.attributes, ?_⟩
  intro name file descriptors hfile hopen hdescriptors
  rw [SortedMap.get?_mapValues] at hfile
  obtain ⟨before, hbefore, rfl⟩ := Option.map_eq_some_iff.1 hfile
  split at hopen
  next => cases hopen
  next hkept =>
    rw [if_neg hkept]
    exact h.files name before descriptors hbefore hopen hdescriptors

/-- A new record has absorbed its snapshot. It is made of the filled one, which has all fields of
the other. -/
theorem absorbs_create (filled : ProcessSnapshot.FilledFrom s s') (clean : s.Clean) :
    (create ctx pid s').Absorbs s := by
  obtain ⟨names, kept⟩ := filled.fields clean.fields.1
  refine ⟨?_, ?_⟩
  · intro field hfield
    obtain ⟨hmem, hfree⟩ := List.mem_filter.1 hfield
    have hget : Fields.get? field.1 (create ctx pid s').attributes = some field.2 := by
      rw [create_attributes, Fields.get?_eq_some_iff_mem (Fields.nodup_names_without _ names)]
      exact List.mem_filter.2 ⟨kept field hmem, hfree⟩
    exact ⟨field.2, hget, (Attributes.stable_of_unique (clean.fields.2 field hmem) field.1).1⟩
  · intro name file descriptors hfile _ hdescriptors
    obtain ⟨_, shown, hshown, hshows⟩ := of_files_create hfile
    rw [filled.openFiles_eq, hdescriptors] at hshown
    cases hshown
    exact hshows.absorbs fun id snapshot =>
      clean.descriptors name descriptors id snapshot hdescriptors

/-- And so has a record that the snapshot was merged into. -/
theorem absorbs_merge (filled : ProcessSnapshot.FilledFrom s s') (clean : s.Clean)
    (hok : (p.merge (.create ctx pid (p.fill s'))).error = none) :
    (p.merge (.create ctx pid (p.fill s'))).value.Absorbs s := by
  obtain ⟨names, kept⟩ := filled.fields clean.fields.1
  obtain ⟨hattributes, hfiles⟩ := merge_error_eq_none_iff.1 hok
  rw [merge_of_ok hok]
  refine ⟨?_, ?_⟩
  · intro field hfield
    obtain ⟨hmem, hfree⟩ := List.mem_filter.1 hfield
    -- what was filled in is merged as well, but only the fields that came are looked at
    exact Attributes.absorbed_of_stable (Fields.nodup_names_without trackedFields names)
      (Merged.eq_done hattributes) (List.mem_filter.2 ⟨kept field hmem, hfree⟩)
      (Attributes.stable_of_unique (clean.fields.2 field hmem))
  · intro name file descriptors hfile _ hdescriptors
    have unique (id : String) (snapshot : DescriptorSnapshot) :=
      clean.descriptors name descriptors id snapshot hdescriptors
    have hlisted {incoming : FileRecord}
        (h : (create ctx pid (p.fill s')).files.get? name = some incoming) :
        incoming.Shows descriptors := by
      obtain ⟨_, shown, hshown, hshows⟩ := of_files_create_fill h
      rw [filled.openFiles_eq, hdescriptors] at hshown
      cases hshown
      exact hshows
    rcases Merged.of_get?_maps hfiles hfile with ⟨_, habsent⟩ | ⟨_, hnew⟩ | ⟨x, y, _, hy, herr, rfl⟩
    · rw [create_files, SortedMap.get?_mapWithKey, get?_openFiles_fill, filled.openFiles_eq,
        hdescriptors] at habsent
      cases habsent
    · exact (hlisted hnew).absorbs unique
    · exact (hlisted hy).absorbs_merge unique herr

/-- A record absorbs the snapshot that was merged last, whatever was filled in. -/
theorem absorbs_of_renew {known : Option ProcessRecord} (filled : ProcessSnapshot.FilledFrom s s')
    (clean : s.Clean) (h : renew ctx pid known s' = .ok p) : p.Absorbs s := by
  rcases renew_cases h with ⟨old, _, _, hok, rfl⟩ | ⟨_, rfl⟩
  · exact absorbs_merge filled clean hok
  · exact absorbs_create filled clean

end ProcessRecord

end ProcessWatch
