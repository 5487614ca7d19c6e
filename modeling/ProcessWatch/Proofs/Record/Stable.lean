import ProcessWatch.Proofs.Record.Absorbs
import ProcessWatch.Proofs.Record.Samples
import ProcessWatch.Proofs.Wire.Definite

/-!
# Merging the same record again

The record of one snapshot has one sample in each history and no name twice among its attributes.
Such a record can be merged any number of times: what the first merge left is not changed by those
that follow.

* **`Merged.Keeps`**, **`Merged.Stable`** — merging something in changes nothing, at once or after
  the first time.
* **`Merged.keeps_maps_iff`**, **`Merged.stable_maps`** — maps, by their values.
* **`History.Single`** — a history with one sample that equals itself.
* **`ProcessRecord.stable_create`** — the record of one snapshot is stable.
-/

namespace ProcessWatch

namespace Merged

variable {κ α : Type} {merge : α → α → Merged α}

/-- Merging in something changes nothing. -/
def Keeps (merge : α → α → Merged α) (x incoming : α) : Prop := merge x incoming = .done x

/-- Something changes nothing if it is merged into itself, or again into what came of merging it. -/
structure Stable (merge : α → α → Merged α) (incoming : α) : Prop where
  self : Keeps merge incoming incoming
  again : ∀ x, (merge x incoming).error = none → Keeps merge (merge x incoming).value incoming

theorem Keeps.error {x incoming : α} (h : Keeps merge x incoming) :
    (merge x incoming).error = none :=
  congrArg Merged.error h

theorem Keeps.value {x incoming : α} (h : Keeps merge x incoming) :
    (merge x incoming).value = x :=
  congrArg Merged.value h

theorem keeps_of_value {x incoming : α} (error : (merge x incoming).error = none)
    (value : (merge x incoming).value = x) : Keeps merge x incoming :=
  (eq_done error).trans (congrArg done value)

variable [Ord κ] [Std.TransOrd κ] [Std.LawfulEqOrd κ] {existing incoming : SortedMap κ α}

/-- A map stays if it has every key that comes in, with a value that stays. -/
theorem keeps_maps_iff : Keeps (maps merge) existing incoming ↔
    ∀ k y, incoming.get? k = some y → ∃ x, existing.get? k = some x ∧ Keeps merge x y := by
  constructor
  · intro h k y hy
    have hget := get?_maps h.error k
    rw [h.value, hy] at hget
    cases hx : existing.get? k with
    | none =>
      rw [hx] at hget
      cases hget
    | some x =>
      rw [hx] at hget
      have hvalue : (merge x y).value = x := (Option.some.inj hget).symm
      exact ⟨x, rfl, keeps_of_value (maps_error_eq_none_iff.1 h.error k x y hx hy) hvalue⟩
  · intro h
    -- every incoming key is known and its value kept, so nothing clashes and no key is added
    have herr : (maps merge existing incoming).error = none := by
      refine maps_error_eq_none_iff.2 fun k x y hx hy => ?_
      obtain ⟨x', hx', keeps⟩ := h k y hy
      rw [hx] at hx'
      cases hx'
      exact keeps.error
    refine keeps_of_value herr (SortedMap.ext_get? fun k => ?_)
    rw [get?_maps herr]
    cases hy : incoming.get? k with
    | none => exact Option.merge_none_right
    | some y =>
      obtain ⟨x, hx, keeps⟩ := h k y hy
      rw [hx]
      exact congrArg some keeps.value

/-- A map is stable if all its values are. -/
theorem stable_maps (h : ∀ k y, incoming.get? k = some y → Stable merge y) :
    Stable (maps merge) incoming := by
  refine ⟨keeps_maps_iff.2 fun k y hy => ⟨y, hy, (h k y hy).self⟩, ?_⟩
  intro existing herr
  refine keeps_maps_iff.2 fun k y hy => ?_
  rw [get?_maps herr, hy]
  cases hx : existing.get? k with
  | none => exact ⟨y, rfl, (h k y hy).self⟩
  | some x => exact ⟨_, rfl, (h k y hy).again x (maps_error_eq_none_iff.1 herr k x y hx hy)⟩

end Merged

/-- Attributes of which no name is repeated are stable. -/
theorem Fields.Unique.stable {fields : Fields} (h : Fields.Unique fields) :
    Merged.Stable Attributes.merge fields :=
  ⟨Attributes.mergeFields_of_absorbs h.absorbs, fun _ hok =>
    Attributes.mergeFields_of_absorbs (h.absorbs_merge hok)⟩

/-! ## Histories

A history compares the incoming sample with its newest one. So a sample has to equal itself if it is
to be left out the second time, which a NaN in it would prevent. -/

namespace History

variable {h incoming : History Sample} {sample : Sample}

/-- A history holds one sample, which equals itself. -/
def Single (h : History Sample) : Prop := ∃ sample, h.samples = [sample] ∧ (sample == sample) = true

theorem append_of_repeats (hr : h.repeats sample = true) : (h.append sample).1 = h := by
  rw [append, if_pos hr]

/-- A sample that equals itself is appended only once. -/
theorem append_append (hsample : (sample == sample) = true) (h : History Sample) :
    ((h.append sample).1.append sample).1 = (h.append sample).1 := by
  cases hr : h.repeats sample with
  | true => rw [append_of_repeats hr, append_of_repeats hr]
  | false =>
    have hpush : (h.append sample).1 = h.push sample := by
      rw [append, hr]
      rfl
    have hagain : (h.push sample).repeats sample = true := by
      rw [repeats, latest?_push]
      exact hsample
    rw [hpush, append_of_repeats hagain]

/-- So a history of one sample is not changed by itself. -/
theorem Single.merge_self (single : h.Single) : h.merge h = h := by
  obtain ⟨sample, hsamples, hsample⟩ := single
  have hr : h.repeats sample = true := by
    rw [repeats, latest?, hsamples]
    exact hsample
  rw [merge_of_samples hsamples, append_of_repeats hr]

theorem Single.merge_merge (single : incoming.Single) (h : History Sample) :
    (h.merge incoming).merge incoming = h.merge incoming := by
  obtain ⟨sample, hsamples, hsample⟩ := single
  rw [merge_of_samples hsamples, merge_of_samples hsamples, append_append hsample]

end History

/-! ## Records -/

theorem keepFirst_self {α : Type} (a : Option α) : keepFirst a a = a := by
  cases a <;> rfl

/-- What was kept first is still kept when the second value comes again. -/
theorem keepFirst_keepFirst {α : Type} (a b : Option α) :
    keepFirst (keepFirst a b) b = keepFirst a b := by
  cases a <;> cases b <;> rfl

/-- The record of a descriptor is stable if its attributes repeat no name and it has one sample. -/
theorem DescriptorRecord.stable {d : DescriptorRecord} (unique : Fields.Unique d.attributes)
    (single : d.history.Single) : Merged.Stable merge d := by
  -- all but the attributes and the history is kept by the shape of the merge alone
  have keeps {x : DescriptorRecord}
      (hattributes : Merged.Keeps Attributes.merge x.attributes d.attributes) :
      (x.merge d).error = none := (merge_error x d).trans hattributes.error
  constructor
  · have hok := keeps unique.stable.self
    refine Merged.keeps_of_value hok ?_
    rw [merge_of_ok hok, unique.stable.self.value, single.merge_self]
    simp only [keepFirst_self]
  · intro x hx
    have hattributes := unique.stable.again x.attributes ((merge_error x d).symm.trans hx)
    have hvalue := merge_of_ok hx
    have hok : ((x.merge d).value.merge d).error = none := by
      refine keeps ?_
      rw [hvalue]
      exact hattributes
    refine Merged.keeps_of_value hok ?_
    rw [merge_of_ok hok, hvalue]
    dsimp only
    rw [hattributes.value, single.merge_merge]
    simp only [keepFirst_keepFirst]

/-- The record of an open file is stable if its descriptors are. -/
theorem FileRecord.stable {file : FileRecord} (opened : file.isOpen = true)
    (h : ∀ id d, file.descriptors.get? id = some d → Merged.Stable DescriptorRecord.merge d) :
    Merged.Stable merge file := by
  have descriptors := Merged.stable_maps h
  have keeps {x : FileRecord} (hx : x.isOpen = true)
      (hmaps : Merged.Keeps (Merged.maps DescriptorRecord.merge) x.descriptors file.descriptors) :
      Merged.Keeps merge x file := by
    unfold Merged.Keeps
    rw [merge_of_not_reopened (by simp [hx]), hmaps.error, hmaps.value, opened, ← hx]
    rfl
  refine ⟨keeps opened descriptors.self, fun x hok => ?_⟩
  by_cases hreopen : x.isOpen = false ∧ file.isOpen = true
  · -- a file that is opened again forgets its descriptors, so it is the one that came in
    rw [merge_reopened hreopen.1 hreopen.2]
    exact keeps opened descriptors.self
  · rw [merge_of_not_reopened hreopen] at hok ⊢
    exact keeps opened (descriptors.again x.descriptors hok)

/-- The record of a process is stable if its attributes repeat no name, its files are stable and it
has one sample. -/
theorem ProcessRecord.stable {p : ProcessRecord} (unique : Fields.Unique p.attributes)
    (files : ∀ name file, p.files.get? name = some file → Merged.Stable FileRecord.merge file)
    (single : p.history.Single) : Merged.Stable merge p := by
  have hfiles := Merged.stable_maps files
  constructor
  · have hok : (p.merge p).error = none :=
      merge_error_eq_none_iff.2 ⟨unique.stable.self.error, hfiles.self.error⟩
    refine Merged.keeps_of_value hok ?_
    rw [merge_of_ok hok, unique.stable.self.value, hfiles.self.value, single.merge_self]
  · intro x hx
    obtain ⟨hxattributes, hxfiles⟩ := merge_error_eq_none_iff.1 hx
    have hattributes := unique.stable.again x.attributes hxattributes
    have hmaps := hfiles.again x.files hxfiles
    have hvalue := merge_of_ok hx
    have hok : ((x.merge p).value.merge p).error = none := by
      rw [hvalue]
      exact merge_error_eq_none_iff.2 ⟨hattributes.error, hmaps.error⟩
    refine Merged.keeps_of_value hok ?_
    rw [merge_of_ok hok, hvalue]
    dsimp only
    rw [hattributes.value, hmaps.value, single.merge_merge]

/-! ## Samples -/

/-- The last value under a key is that of an entry. -/
theorem SortedMap.mem_of_last? {κ α : Type} [DecidableEq κ] {k : κ} {v : α} {entries : List (κ × α)}
    (h : last? k entries = some v) : (k, v) ∈ entries := by
  induction entries with
  | nil => cases h
  | cons e rest ih =>
    rw [last?, Option.or_eq_some_iff] at h
    rcases h with hrest | ⟨_, hhead⟩
    · exact List.mem_cons_of_mem _ (ih hrest)
    · split at hhead
      next hk =>
        have he : e = (k, v) := Prod.ext hk (Option.some.inj hhead)
        rw [he]
        exact List.mem_cons_self
      next => cases hhead

/-- A map that is made of some entries has none but these. -/
theorem SortedMap.of_mem_ofList {κ α : Type} [Ord κ] [Std.TransOrd κ] [Std.LawfulEqOrd κ]
    [DecidableEq κ] {entries : List (κ × α)} {e : κ × α} (h : e ∈ (ofList entries).entries) :
    e ∈ entries := by
  have hget := mem_entries_iff.1 h
  rw [get?_ofList] at hget
  exact mem_of_last? hget

/-- A list of things that equal themselves equals itself. -/
theorem beq_self_of_forall_mem {α : Type} [BEq α] {items : List α}
    (h : ∀ a ∈ items, (a == a) = true) : (items == items) = true := by
  induction items with
  | nil => rfl
  | cons a rest ih =>
    obtain ⟨ha, hrest⟩ := List.forall_mem_cons.1 h
    rw [List.cons_beq_cons, ha, ih hrest]
    rfl

/-- A sample equals itself if its time does, and so do the fields that it may be made of. -/
theorem Sample.beq_self_ofFields {index : Nat} {time : Option Float} {keys : List String}
    {field : String → Option Json} (htime : IsTime time)
    (hfield : ∀ key v, field key = some v → v.same v = true) :
    (ofFields index time keys field == ofFields index time keys field) = true := by
  have htime : (time == time) = true := by
    cases time with
    | none => rfl
    | some x => exact htime x rfl
  -- a sample equals itself if its time does and the sampled values do: doubles need not
  let values := (ofFields index time keys field).values
  have hvalues : (values.entries == values.entries) = true := by
    refine beq_self_of_forall_mem ?_
    rintro ⟨k, v⟩ he
    obtain ⟨key, _, hv⟩ := List.mem_filterMap.1 (SortedMap.of_mem_ofList he)
    obtain ⟨v', hv', heq⟩ := Option.map_eq_some_iff.1 hv
    cases heq
    show (k == k && v.same v) = true
    rw [beq_self_eq_true, hfield k v hv']
    rfl
  show (index == index && time == time && values.entries == values.entries) = true
  rw [beq_self_eq_true, htime, hvalues]
  rfl

/-! ## The record of one snapshot

What a snapshot makes of itself has one sample in each history and each name once among its
attributes. This is all that merging it twice needs. -/

/-- A definite attribute is the same as itself. -/
theorem same_field {fields : Fields} (unique : Fields.Unique fields) (definite : fields.Definite)
    {key : String} {v : Json} (h : Fields.get? key fields = some v) : v.same v = true := by
  have hmem := Fields.mem_of_get? h
  exact Json.same_self (unique.2 _ hmem) (definite _ hmem)

/-- A typed field is the same as itself if what it is written as is. -/
theorem same_typed {α : Type} {a? : Option α} {write : α → Json} {v : Json}
    (h : a?.map write = some v) (hwrite : ∀ a, a? = some a → (write a).same (write a) = true) :
    v.same v = true := by
  obtain ⟨a, ha, rfl⟩ := Option.map_eq_some_iff.1 h
  exact hwrite a ha

/-- The history of a new record holds one sample. -/
theorem History.single_append {capacity : Capacity} {sample : Sample}
    (h : (sample == sample) = true) : ((empty capacity).append sample).1.Single :=
  ⟨sample, samples_empty_append capacity sample, h⟩

namespace DescriptorRecord

/-- Whatever field of a descriptor is sampled, it is the same as itself. -/
theorem same_of_field {d : DescriptorRecord} (unique : Fields.Unique d.attributes)
    (definite : d.attributes.Definite) (htime : IsTime d.timeOfStat) {key : String} {v : Json}
    (h : d.field key = some v) : v.same v = true := by
  unfold field at h
  split at h
  next =>
    cases h
    exact beq_self_eq_true d.id
  next => exact same_typed h fun s _ => beq_self_eq_true s
  next => exact same_typed h fun b _ => beq_self_eq_true b
  next => exact same_typed h fun n _ => beq_self_eq_true n.toInt
  next => exact same_typed h fun n _ => beq_self_eq_true n.toInt
  next => exact same_typed h fun n _ => beq_self_eq_true (n.toNat : Int)
  next => exact same_typed h fun x hx => htime x hx
  next => exact same_field unique definite h

/-- A new descriptor is stable if no time is NaN, and its attributes are definite and repeat no
name. -/
theorem stable_ofSnapshot {ctx : CycleContext} {time : Option Float} {id : String}
    {d : DescriptorSnapshot} (htime : IsTime time) (unique : Fields.Unique d.fields)
    (definite : d.fields.Definite) (hstat : IsTime d.timeOfStat.value?) :
    Merged.Stable merge (ofSnapshot ctx time id d) := by
  refine stable unique (History.single_append ?_)
  exact Sample.beq_self_ofFields htime fun _ _ => same_of_field unique definite hstat

end DescriptorRecord

namespace ProcessRecord

/-- Whatever field of a process is sampled, it is the same as itself. -/
theorem same_of_field {p : ProcessRecord} (unique : Fields.Unique p.attributes)
    (definite : p.attributes.Definite) (htime : IsTime p.time) {key : String} {v : Json}
    (h : p.field key = some v) : v.same v = true := by
  unfold field at h
  split at h
  next =>
    cases h
    exact beq_self_eq_true (p.pid.toNat : Int)
  next => exact same_typed h fun n _ => beq_self_eq_true (n.toNat : Int)
  next =>
    cases h
    exact beq_self_eq_true p.isMaster
  next =>
    cases h
    exact beq_self_eq_true p.isRunning
  next => exact same_typed h fun n _ => beq_self_eq_true (n.toNat : Int)
  next => exact same_typed h fun x hx => htime x hx
  next => exact same_field unique definite h

/-- The record of a snapshot can be merged any number of times. -/
theorem stable_create {ctx : CycleContext} {pid : Pid} {s : ProcessSnapshot} (clean : s.Clean)
    (definite : s.Definite) : Merged.Stable merge (create ctx pid s) := by
  have unique : Fields.Unique (create ctx pid s).attributes := clean.fields.without trackedFields
  have hattributes : (create ctx pid s).attributes.Definite :=
    fun field hfield => definite.fields field (List.mem_filter.1 hfield).1
  refine stable unique ?_ (History.single_append ?_)
  · intro name file hfile
    rw [create_files, SortedMap.get?_mapWithKey] at hfile
    obtain ⟨descriptors, hname, rfl⟩ := Option.map_eq_some_iff.1 hfile
    refine FileRecord.stable rfl fun id d hd => ?_
    rw [FileRecord.get?_descriptors_ofSnapshot] at hd
    obtain ⟨snapshot, hid, rfl⟩ := Option.map_eq_some_iff.1 hd
    exact DescriptorRecord.stable_ofSnapshot definite.time
      (clean.descriptors name descriptors id snapshot hname hid)
      (definite.attributes name descriptors id snapshot hname hid)
      (definite.descriptors name descriptors id snapshot hname hid)
  · exact Sample.beq_self_ofFields definite.time fun _ _ =>
      same_of_field unique hattributes definite.time

end ProcessRecord

end ProcessWatch
