import ProcessWatch.Attributes
import ProcessWatch.Proofs.Json.Fields
import ProcessWatch.Proofs.Merged

/-!
# Merging untyped attributes twice

What a merge leaves of each field, and why merging the same fields again goes through and changes
nothing.

* **`get?_mergeFields_of_not_mem`** — a merge leaves the fields alone that it is not given;
  `of_get?_mergeFields`: what became of those that it is given.
* **`Absorbs`** — every incoming field is there already, in a form that merging it keeps. The merge
  of fields that are absorbed is the identity (`mergeFields_of_absorbs`).
* **`absorbed_of_stable`**, **`stable_of_unique`** — what was merged without a clash is absorbed.
  The proof needs that no name is repeated: a repeated name would be merged over its first value.
-/

namespace ProcessWatch

namespace Attributes

/-! ## One field -/

/-- A field under a new name is added, and the merge goes on with the rest. -/
theorem mergeFields_new {existing rest : Fields} {key : String} {value : Json}
    (h : Fields.get? key existing = none) :
    mergeFields existing ((key, value) :: rest)
      = mergeFields (Fields.set key value existing) rest := by
  rw [mergeFields, h]

/-- A field under a known name takes what the merge of the two values is, if that goes through. -/
theorem mergeFields_known {existing rest : Fields} {key : String} {value current merged : Json}
    (h : Fields.get? key existing = some current)
    (hvalue : mergeValue key current value = .done merged) :
    mergeFields existing ((key, value) :: rest)
      = mergeFields (Fields.set key merged existing) rest := by
  rw [mergeFields, h]
  dsimp only
  rw [hvalue]
  rfl

/-- A clash ends the merge. The value that the clashing one left behind is kept, and so is all that
was merged before it. -/
theorem mergeFields_clash {existing rest : Fields} {key : String} {value current : Json}
    {error : MergeError} (h : Fields.get? key existing = some current)
    (herr : (mergeValue key current value).error = some error) :
    mergeFields existing ((key, value) :: rest)
      = ⟨Fields.set key (mergeValue key current value).value existing, some error⟩ := by
  rw [mergeFields, h]
  dsimp only
  rw [herr]

/-- How a merge that goes through treats its first field: a new one is taken over, a known one is
merged. -/
theorem mergeFields_cons {existing rest : Fields} {m : Fields} {key : String} {value : Json}
    (h : mergeFields existing ((key, value) :: rest) = .done m) :
    (Fields.get? key existing = none ∧ mergeFields (Fields.set key value existing) rest = .done m) ∨
    (∃ current merged, Fields.get? key existing = some current ∧
      mergeValue key current value = .done merged ∧
      mergeFields (Fields.set key merged existing) rest = .done m) := by
  cases hget : Fields.get? key existing with
  | none =>
    rw [mergeFields_new hget] at h
    exact .inl ⟨rfl, h⟩
  | some current =>
    cases herr : (mergeValue key current value).error with
    | none =>
      have hvalue := Merged.eq_done herr
      rw [mergeFields_known hget hvalue] at h
      exact .inr ⟨current, _, rfl, hvalue, h⟩
    | some error =>
      rw [mergeFields_clash hget herr] at h
      cases h

/-- A name that the incoming fields lack keeps its value, even if the merge stops at a clash. -/
theorem get?_mergeFields_of_not_mem {key : String} {incoming : Fields}
    (h : key ∉ Fields.names incoming) (existing : Fields) :
    Fields.get? key (mergeFields existing incoming).value = Fields.get? key existing := by
  induction incoming generalizing existing with
  | nil => rfl
  | cons field rest ih =>
    obtain ⟨k, v⟩ := field
    have hnames : Fields.names ((k, v) :: rest) = k :: Fields.names rest := rfl
    rw [hnames, List.mem_cons, not_or] at h
    have hset (w : Json) :
        Fields.get? key (Fields.set k w existing) = Fields.get? key existing := by
      rw [Fields.get?_set, if_neg (Ne.symm h.1)]
    -- all three outcomes of the first field put something under its own name only
    cases hget : Fields.get? k existing with
    | none => rw [mergeFields_new hget, ih h.2, hset]
    | some current =>
      cases herr : (mergeValue k current v).error with
      | none => rw [mergeFields_known hget (Merged.eq_done herr), ih h.2, hset]
      | some error => rw [mergeFields_clash hget herr, hset]

/-- What became of an incoming field. Induction on the incoming fields: what the first one became is
not touched by those that follow, since no name is repeated. -/
theorem of_get?_mergeFields {incoming : Fields} (names : (Fields.names incoming).Nodup)
    {existing m : Fields} (h : mergeFields existing incoming = .done m) {key : String}
    {value : Json}
    (hkey : Fields.get? key incoming = some value) :
    (Fields.get? key existing = none ∧ Fields.get? key m = some value) ∨
    (∃ current merged, Fields.get? key existing = some current ∧
      mergeValue key current value = .done merged ∧ Fields.get? key m = some merged) := by
  induction incoming generalizing existing with
  | nil => cases hkey
  | cons field rest ih =>
    obtain ⟨name, first⟩ := field
    have hnodup : name ∉ Fields.names rest ∧ (Fields.names rest).Nodup := List.nodup_cons.1 names
    by_cases hname : name = key
    · -- the field itself: none of the later ones has its name, so what it set stays
      subst hname
      rw [Fields.get?, if_pos rfl] at hkey
      cases hkey
      have hlast (w : Json) (hm : mergeFields (Fields.set name w existing) rest = .done m) :
          Fields.get? name m = some w := by
        have hget := get?_mergeFields_of_not_mem hnodup.1 (Fields.set name w existing)
        rwa [hm, Fields.get?_set, if_pos rfl] at hget
      rcases mergeFields_cons h with ⟨hget, hm⟩ | ⟨current, merged, hget, hvalue, hm⟩
      · exact .inl ⟨hget, hlast value hm⟩
      · exact .inr ⟨current, merged, hget, hvalue, hlast merged hm⟩
    · -- a later field: the first one leaves its name alone
      rw [Fields.get?, if_neg hname] at hkey
      have hstep (w : Json) (hm : mergeFields (Fields.set name w existing) rest = .done m) :=
        ih hnodup.2 hm hkey
      simp only [Fields.get?_set, if_neg hname] at hstep
      rcases mergeFields_cons h with ⟨_, hm⟩ | ⟨_, merged, _, _, hm⟩
      · exact hstep first hm
      · exact hstep merged hm

/-- Objects are merged field by field; an error inside is told with the name that leads to it. -/
theorem mergeValue_objects (key : String) (current incoming : Fields) :
    mergeValue key (.object current) (.object incoming)
      = ⟨.object (mergeFields current incoming).value,
        (mergeFields current incoming).error.map (.inside key)⟩ := by
  rw [mergeValue]

/-! ## Fields that are there already -/

/-- Every incoming field is there, in a form that merging it keeps. -/
def Absorbs (existing incoming : Fields) : Prop :=
  ∀ field ∈ incoming, ∃ current, Fields.get? field.1 existing = some current ∧
    mergeValue field.1 current field.2 = .done current

/-- Merging what is absorbed changes nothing. -/
theorem mergeFields_of_absorbs {existing incoming : Fields} (h : Absorbs existing incoming) :
    mergeFields existing incoming = .done existing := by
  induction incoming with
  | nil => rfl
  | cons field rest ih =>
    obtain ⟨key, value⟩ := field
    obtain ⟨current, hget, hkeep⟩ := h (key, value) List.mem_cons_self
    rw [mergeFields_known hget hkeep, Fields.set_eq_self hget]
    exact ih fun field hmem => h field (List.mem_cons_of_mem _ hmem)

/-- A value that is stable under merging: merging it into itself, or into what came of merging it
before, changes nothing. -/
def Stable (value : Json) : Prop :=
  ∀ key, mergeValue key value value = .done value ∧
    ∀ existing merged, mergeValue key existing value = .done merged →
      mergeValue key merged value = .done merged

/-- A field with a stable value that was merged without a clash is absorbed. -/
theorem absorbed_of_stable {incoming : Fields} (names : (Fields.names incoming).Nodup)
    {existing m : Fields} (h : mergeFields existing incoming = .done m) {field : String × Json}
    (mem : field ∈ incoming) (stable : Stable field.2) :
    ∃ current, Fields.get? field.1 m = some current ∧
      mergeValue field.1 current field.2 = .done current := by
  have hkey : Fields.get? field.1 incoming = some field.2 :=
    (Fields.get?_eq_some_iff_mem names).2 mem
  rcases of_get?_mergeFields names h hkey with ⟨_, hm⟩ | ⟨current, merged, _, hvalue, hm⟩
  · exact ⟨field.2, hm, (stable field.1).1⟩
  · exact ⟨merged, hm, (stable field.1).2 current merged hvalue⟩

/-- What merged fields absorb if all incoming values are stable. The names have to be distinct,
since a second value under a name would be merged into the first one. -/
theorem absorbs_of_stable {incoming : Fields} (names : (Fields.names incoming).Nodup)
    (stable : ∀ field ∈ incoming, Stable field.2) {existing m : Fields}
    (h : mergeFields existing incoming = .done m) : Absorbs m incoming :=
  fun field hmem => absorbed_of_stable names h hmem (stable field hmem)

/-- Fields with stable values absorb themselves. -/
theorem absorbs_self {fields : Fields} (names : (Fields.names fields).Nodup)
    (stable : ∀ field ∈ fields, Stable field.2) : Absorbs fields fields := by
  intro field hmem
  have hget : Fields.get? field.1 fields = some field.2 :=
    (Fields.get?_eq_some_iff_mem names).2 hmem
  exact ⟨field.2, hget, (stable field hmem field.1).1⟩

/-- Every value in which no object repeats a name is stable. -/
theorem stable_of_unique {value : Json} (h : value.Unique) : Stable value := by
  induction h with
  | null =>
    refine fun key => ⟨rfl, fun existing merged hm => ?_⟩
    cases hm
    rfl
  | bool value | number value | string value =>
    refine fun key => ⟨rfl, fun existing merged hm => ?_⟩
    cases existing <;> cases hm <;> rfl
  | array _ _ =>
    refine fun key => ⟨rfl, fun existing merged hm => ?_⟩
    cases existing <;> cases hm <;> rfl
  | @object fields names _ ih =>
    intro key
    have hself : mergeValue key (.object fields) (.object fields) = .done (.object fields) := by
      rw [mergeValue_objects, mergeFields_of_absorbs (absorbs_self names ih)]
      rfl
    refine ⟨hself, fun existing merged hm => ?_⟩
    cases existing with
    | null =>
      cases hm
      exact hself
    | object current =>
      -- what came of the first merge absorbs the fields, so the second one keeps it
      rw [mergeValue_objects] at hm
      have herr : (mergeFields current fields).error = none :=
        Option.map_eq_none_iff.1 (congrArg Merged.error hm)
      have hmerged : merged = .object (mergeFields current fields).value :=
        (congrArg Merged.value hm).symm
      have habs : Absorbs (mergeFields current fields).value fields :=
        absorbs_of_stable names ih (Merged.eq_done herr)
      rw [hmerged, mergeValue_objects, mergeFields_of_absorbs habs]
      rfl
    | bool _ | number _ | string _ | array _ => cases hm

end Attributes

end ProcessWatch
