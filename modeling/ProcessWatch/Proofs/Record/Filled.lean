import ProcessWatch.Proofs.Record.Absorbs
import ProcessWatch.Proofs.Wire.Definite

/-!
# Snapshots that were filled in

What a snapshot leaves out is filled in with what the record of its process knows. Nothing else of
it changes, so a filled snapshot is as clean and as definite as the snapshot and the record are.

* **`ProcessSnapshot.Completes`** — a snapshot is another one with gaps filled in.
* **`ProcessRecord.completes_fill`** — filling in does just that.
* **`ProcessRecord.Timed`** — no time of a record is NaN; `timed_create`, `Timed.merge` and
  `Timed.settle` keep it.
* **`Completes.clean`**, **`ProcessRecord.definite_fill`** — filled snapshots.
-/

namespace ProcessWatch

/-! ## Gaps

A report completes another one if it is the same, or if the other one left a gap. A gap that was
filled in is filled in with the same value again, so what a record has filled stays as it is. -/

/-- A report is that of a snapshot, or fills a gap in it. -/
def Reported.Completes {α : Type} (r incoming : Reported α) : Prop :=
  r = incoming ∨ incoming = .absent

/-- A gap that is filled completes what was reported. -/
theorem Reported.completes_orKnown {α : Type} (r : Reported α) (known : Option α) :
    (r.orKnown known).Completes r := by
  cases r with
  | absent => exact .inr rfl
  | null | value _ => exact .inl rfl

/-- A gap that was filled in once is filled in with the same value again. -/
theorem Reported.Completes.value?_orKnown {α : Type} {r incoming : Reported α}
    (h : r.Completes incoming) : (incoming.orKnown r.value?).value? = r.value? := by
  rcases h with rfl | rfl
  · cases r <;> rfl
  · cases r <;> rfl

/-- It is filled with a time if what is known is one. -/
theorem IsTime.orKnown {r : Reported Float} {known : Option Float} (hr : IsTime r.value?)
    (hknown : IsTime known) : IsTime (r.orKnown known).value? := by
  cases r with
  | absent => cases known <;> exact hknown
  | null | value _ => exact hr

/-- A descriptor is another one with gaps filled in. -/
structure DescriptorSnapshot.Completes (d incoming : DescriptorSnapshot) : Prop where
  kind : d.kind = incoming.kind
  readOnly : d.readOnly = incoming.readOnly
  flags : d.flags = incoming.flags
  fields : d.fields = incoming.fields
  pos : d.pos.Completes incoming.pos
  size : d.size.Completes incoming.size
  timeOfStat : d.timeOfStat.Completes incoming.timeOfStat

theorem DescriptorSnapshot.completes_self (d : DescriptorSnapshot) : d.Completes d :=
  ⟨rfl, rfl, rfl, rfl, .inl rfl, .inl rfl, .inl rfl⟩

theorem DescriptorRecord.completes_fill (known : DescriptorRecord) (d : DescriptorSnapshot) :
    (known.fill d).Completes d :=
  ⟨rfl, rfl, rfl, rfl, Reported.completes_orKnown _ _, Reported.completes_orKnown _ _,
    Reported.completes_orKnown _ _⟩

/-- Descriptors are those of a snapshot, with gaps filled in. -/
def Descriptors.Complete (descriptors incoming : SortedMap String DescriptorSnapshot) : Prop :=
  ∀ id, Option.Rel DescriptorSnapshot.Completes (descriptors.get? id) (incoming.get? id)

/-- A relation that holds of everything and itself does so of what may be absent. -/
theorem rel_self {α : Type} {r : α → α → Prop} (h : ∀ a, r a a) (a? : Option α) :
    Option.Rel r a? a? := by
  cases a? with
  | none => exact .none
  | some a => exact .some (h a)

theorem Descriptors.complete_self (descriptors : SortedMap String DescriptorSnapshot) :
    Complete descriptors descriptors :=
  fun _ => rel_self DescriptorSnapshot.completes_self _

/-- A file completes the descriptors that are listed of it; one that is closed leaves them as they
are. -/
theorem FileRecord.complete_fill (file : FileRecord)
    (descriptors : SortedMap String DescriptorSnapshot) :
    Descriptors.Complete (file.fill descriptors) descriptors := by
  unfold fill
  split
  next =>
    intro id
    rw [SortedMap.get?_mapWithKey]
    refine rel_map (fun d => ?_) _
    split
    next known _ => exact known.completes_fill d
    next => exact d.completes_self
  next => exact Descriptors.complete_self descriptors

namespace ProcessSnapshot

variable {s incoming : ProcessSnapshot}

/-- A snapshot is another one with gaps filled in. -/
structure Completes (s incoming : ProcessSnapshot) : Prop where
  fields : s.fields = incoming.fields
  parent : s.parent.Completes incoming.parent
  time : s.time.Completes incoming.time
  openFiles : ∀ name,
    Option.Rel Descriptors.Complete (s.openFiles.get? name) (incoming.openFiles.get? name)

theorem completes_self (s : ProcessSnapshot) : s.Completes s :=
  ⟨rfl, .inl rfl, .inl rfl, fun _ => rel_self Descriptors.complete_self _⟩

/-- A descriptor that was filled in fills in one of the snapshot. -/
theorem Completes.descriptor (h : s.Completes incoming) {name id : String}
    {descriptors : SortedMap String DescriptorSnapshot} {d : DescriptorSnapshot}
    (hname : s.openFiles.get? name = some descriptors) (hid : descriptors.get? id = some d) :
    ∃ descriptors' d', incoming.openFiles.get? name = some descriptors' ∧
      descriptors'.get? id = some d' ∧ d.Completes d' := by
  obtain ⟨descriptors', hname', hdescriptors⟩ := of_rel_some (h.openFiles name) hname
  obtain ⟨d', hid', hd⟩ := of_rel_some (hdescriptors id) hid
  exact ⟨descriptors', d', hname', hid', hd⟩

/-- A completed snapshot has the same fields, so it repeats no name if the other one does not. -/
theorem Completes.clean (h : s.Completes incoming) (clean : incoming.Clean) : s.Clean := by
  refine ⟨h.fields ▸ clean.fields, ?_⟩
  intro name descriptors id d hname hid
  obtain ⟨descriptors', d', hname', hid', hd⟩ := h.descriptor hname hid
  rw [hd.fields]
  exact clean.descriptors name descriptors' id d' hname' hid'

/-- Filling in times without NaN keeps a snapshot definite. -/
theorem Completes.definite (h : s.Completes incoming) (definite : incoming.Definite)
    (timed : s.Timed) : s.Definite := by
  refine ⟨timed, h.fields ▸ definite.fields, ?_⟩
  intro name descriptors id d hname hid
  obtain ⟨descriptors', d', hname', hid', hd⟩ := h.descriptor hname hid
  rw [hd.fields]
  exact definite.attributes name descriptors' id d' hname' hid'

end ProcessSnapshot

/-! ## Times of records -/

/-- No time of stat of a file is NaN. -/
def FileRecord.Timed (file : FileRecord) : Prop :=
  ∀ id d, file.descriptors.get? id = some d → IsTime d.timeOfStat

/-- A merge of two files has no time that neither of them has. -/
theorem FileRecord.Timed.merge {file incoming : FileRecord} (h : file.Timed) (hi : incoming.Timed)
    (hok : (file.merge incoming).error = none) : (file.merge incoming).value.Timed := by
  by_cases hreopen : file.isOpen = false ∧ incoming.isOpen = true
  · rw [merge_reopened hreopen.1 hreopen.2]
    exact hi
  · rw [merge_of_not_reopened hreopen] at hok ⊢
    intro id d hd
    rcases Merged.of_get?_maps hok hd with ⟨hx, _⟩ | ⟨_, hy⟩ | ⟨x, y, _, hy, herr, rfl⟩
    · exact h id d hx
    · exact hi id d hy
    · rw [DescriptorRecord.merge_of_ok herr]
      exact hi id y hy

namespace ProcessRecord

variable {ctx : CycleContext} {pid : Pid} {p incoming : ProcessRecord} {s : ProcessSnapshot}

/-- No time of a record is NaN. -/
structure Timed (p : ProcessRecord) : Prop where
  time : IsTime p.time
  files : ∀ name file, p.files.get? name = some file → file.Timed

/-- A new record has the times of its snapshot. -/
theorem timed_create (h : s.Timed) : (create ctx pid s).Timed := by
  refine ⟨h.time, fun name file hfile id d hd => ?_⟩
  rw [create_files, SortedMap.get?_mapWithKey] at hfile
  obtain ⟨descriptors, hname, rfl⟩ := Option.map_eq_some_iff.1 hfile
  rw [FileRecord.get?_descriptors_ofSnapshot] at hd
  obtain ⟨snapshot, hid, rfl⟩ := Option.map_eq_some_iff.1 hd
  exact h.descriptors name descriptors id snapshot hname hid

/-- A merge of two records has no time that neither of them has. -/
theorem Timed.merge (h : p.Timed) (hi : incoming.Timed) (hok : (p.merge incoming).error = none) :
    (p.merge incoming).value.Timed := by
  have hfiles := (merge_error_eq_none_iff.1 hok).2
  rw [merge_of_ok hok]
  refine ⟨hi.time, fun name file hfile => ?_⟩
  rcases Merged.of_get?_maps hfiles hfile with ⟨hx, _⟩ | ⟨_, hy⟩ | ⟨x, y, hx, hy, herr, rfl⟩
  · exact h.files name file hx
  · exact hi.files name file hy
  · exact (h.files name x hx).merge (hi.files name y hy) herr

/-- To leave a process or its files out changes no time. -/
theorem Timed.settle (h : p.Timed) (reported : ReportedFiles) : (p.settle reported).Timed := by
  refine ⟨by rw [settle_time]; exact h.time, fun name file hfile => ?_⟩
  obtain ⟨before, hbefore, rfl⟩ := of_get?_files_settle hfile
  exact h.files name before hbefore

/-! ## Filling in -/

/-- A record completes the snapshots of its process. -/
theorem completes_fill (p : ProcessRecord) (s : ProcessSnapshot) : (p.fill s).Completes s := by
  refine ⟨rfl, Reported.completes_orKnown _ _, Reported.completes_orKnown _ _, fun name => ?_⟩
  rw [get?_openFiles_fill]
  refine rel_map (fun descriptors => ?_) _
  split
  next file _ => exact file.complete_fill descriptors
  next => exact Descriptors.complete_self descriptors

/-- A filled snapshot has times of its own or of the record. -/
theorem Timed.fill (h : p.Timed) (hs : s.Timed) : (p.fill s).Timed := by
  refine ⟨hs.time.orKnown h.time, ?_⟩
  intro name filled id d hname hid
  rw [get?_openFiles_fill] at hname
  obtain ⟨descriptors, hdescriptors, rfl⟩ := Option.map_eq_some_iff.1 hname
  have unfilled (hd : descriptors.get? id = some d) : IsTime d.timeOfStat.value? :=
    hs.descriptors name descriptors id d hdescriptors hd
  -- a time is filled in only from the descriptor of an open file; any other stays
  split at hid
  next file hfile =>
    unfold FileRecord.fill at hid
    split at hid
    next =>
      rw [SortedMap.get?_mapWithKey] at hid
      obtain ⟨d', hd', rfl⟩ := Option.map_eq_some_iff.1 hid
      have hstat := hs.descriptors name descriptors id d' hdescriptors hd'
      split
      next known hknown => exact hstat.orKnown (h.files name file hfile id known hknown)
      next => exact hstat
    next => exact unfilled hid
  next => exact unfilled hid

/-- So filling keeps a snapshot definite. -/
theorem definite_fill (h : p.Timed) (definite : s.Definite) : (p.fill s).Definite :=
  (completes_fill p s).definite definite (h.fill definite.toTimed)

end ProcessRecord

end ProcessWatch
