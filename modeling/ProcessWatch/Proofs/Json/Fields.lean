import ProcessWatch.Json.Reader

/-!
# Fields of objects, and objects without repeated names

Look-up in the fields of an object, and the objects that can come from a text: no name stands twice
in one of them, at any depth.

* **`Json.Unique`**, **`Fields.Unique`** — no object in a value, or in some fields, repeats a name.
* **`get?_eq_some_iff_mem`** — without repetition a look-up finds exactly the fields that are there.
* **`nodup_names_set`**, **`nodup_names_setIfAbsent`** — giving a field a value repeats no name.
* **`without_set_of_mem`**, **`without_set_of_not_mem`** — giving a field a value, as seen without
  some of the fields.
* **`Json.unique_collapse`** — nothing that is read from a text repeats a name.
-/

namespace ProcessWatch

/-- A value in which no object repeats a name. -/
inductive Json.Unique : Json → Prop where
  | null : Unique .null
  | bool (value : Bool) : Unique (.bool value)
  | number (value : Number) : Unique (.number value)
  | string (value : String) : Unique (.string value)
  | array {items : List Json} (items_unique : ∀ item ∈ items, Unique item) : Unique (.array items)
  | object {fields : List (String × Json)} (names : (Fields.names fields).Nodup)
      (values : ∀ field ∈ fields, Unique field.2) : Unique (.object fields)

namespace Fields

/-! ## Look-up -/

theorem mem_of_get? {key : String} {value : Json} {fields : Fields}
    (h : get? key fields = some value) : (key, value) ∈ fields := by
  induction fields with
  | nil => simp [get?] at h
  | cons field rest ih =>
    obtain ⟨k, v⟩ := field
    by_cases hk : k = key
    · subst hk
      have hv : v = value := by simpa [get?] using h
      rw [hv]
      exact List.mem_cons_self
    · have hrest : get? key rest = some value := by simpa [get?, hk] using h
      exact List.mem_cons_of_mem _ (ih hrest)

/-- Nothing is found exactly under the names that the fields do not have. -/
theorem get?_eq_none_iff {key : String} {fields : Fields} :
    get? key fields = none ↔ key ∉ names fields := by
  induction fields with
  | nil => simp [get?, names]
  | cons field rest ih =>
    obtain ⟨k, v⟩ := field
    have hnames : names ((k, v) :: rest) = k :: names rest := rfl
    rw [hnames, List.mem_cons, get?]
    by_cases hk : k = key
    · simp [hk]
    · rw [if_neg hk, ih]
      simp [Ne.symm hk]

/-- Where no name is repeated, a look-up finds exactly the fields that are there. -/
theorem get?_eq_some_iff_mem {key : String} {value : Json} {fields : Fields}
    (h : (names fields).Nodup) : get? key fields = some value ↔ (key, value) ∈ fields := by
  refine ⟨mem_of_get?, fun hmem => ?_⟩
  induction fields with
  | nil => cases hmem
  | cons field rest ih =>
    obtain ⟨k, v⟩ := field
    have hnodup : k ∉ names rest ∧ (names rest).Nodup := List.nodup_cons.1 h
    -- the field in front is found; one behind it is found because its name is another one
    rcases List.mem_cons.1 hmem with heq | hrest
    · cases heq
      simp [get?]
    · have hk : k ≠ key := by
        rintro rfl
        exact hnodup.1 (List.mem_map.2 ⟨(k, value), hrest, rfl⟩)
      rw [get?, if_neg hk]
      exact ih hnodup.2 hrest

/-- Giving a field the value that it has changes nothing. -/
theorem set_eq_self {key : String} {value : Json} {fields : Fields}
    (h : get? key fields = some value) : set key value fields = fields := by
  induction fields with
  | nil => simp [get?] at h
  | cons field rest ih =>
    obtain ⟨k, v⟩ := field
    by_cases hk : k = key
    · have hv : v = value := by simpa [get?, hk] using h
      rw [set, if_pos hk, hv]
    · have hrest : get? key rest = some value := by simpa [get?, hk] using h
      rw [set, if_neg hk, ih hrest]

/-! ## Names

Setting a field keeps its place if the name is there already, and otherwise adds it at the end. So
the names of a list of fields grow by one at most, and never repeat one. -/

/-- Fields have a field exactly if its name is among their names. -/
theorem has_eq_true_iff {key : String} {fields : Fields} :
    has key fields = true ↔ key ∈ names fields := by
  rw [has, Option.isSome_iff_ne_none, ne_eq, get?_eq_none_iff, Decidable.not_not]

/-- A value for a new name goes to the end. -/
theorem set_of_not_mem {key : String} (value : Json) {fields : Fields} (h : key ∉ names fields) :
    set key value fields = fields ++ [(key, value)] := by
  induction fields with
  | nil => rfl
  | cons field rest ih =>
    obtain ⟨k, v⟩ := field
    have hne : k ≠ key ∧ key ∉ names rest := by simpa [names, eq_comm] using h
    rw [set, if_neg hne.1, ih hne.2, List.cons_append]

/-- After a field was set, all fields are that one or were there before. -/
theorem mem_of_mem_set {key : String} {value : Json} {field : String × Json} {fields : Fields}
    (h : field ∈ set key value fields) : field = (key, value) ∨ field ∈ fields := by
  induction fields with
  | nil => simpa [set] using h
  | cons head rest ih =>
    obtain ⟨k, v⟩ := head
    rw [set] at h
    split at h
    next hk =>
      rcases List.mem_cons.1 h with heq | hrest
      · exact .inl (by rw [heq, hk])
      · exact .inr (List.mem_cons_of_mem _ hrest)
    next =>
      rcases List.mem_cons.1 h with heq | hrest
      · exact .inr (heq ▸ List.mem_cons_self)
      · exact (ih hrest).imp_right (List.mem_cons_of_mem _)

/-- Setting a field repeats no name: it replaces the value, or the name is new. -/
theorem nodup_names_set {fields : Fields} (key : String) (value : Json)
    (h : (names fields).Nodup) : (names (set key value fields)).Nodup := by
  rw [names_set]
  split
  next => exact h
  next hkey =>
    rw [List.nodup_append]
    refine ⟨h, by simp, ?_⟩
    intro a ha b hb heq
    rw [List.mem_singleton] at hb
    exact hkey (hb ▸ heq ▸ ha)

/-- A field that is there is not replaced by one that is only set if it is absent. -/
theorem get?_setIfAbsent_of_some {key k : String} {value v : Json} {fields : Fields}
    (h : get? k fields = some v) : get? k (setIfAbsent key value fields) = some v := by
  unfold setIfAbsent
  split
  next => exact h
  next habsent =>
    rw [get?_set, if_neg, h]
    rintro rfl
    exact habsent (by rw [has, h]; rfl)

/-- Such a field leaves all other names alone. -/
theorem get?_setIfAbsent_of_ne {key k : String} {value : Json} {fields : Fields} (h : key ≠ k) :
    get? k (setIfAbsent key value fields) = get? k fields := by
  unfold setIfAbsent
  split
  next => rfl
  next => rw [get?_set, if_neg h]

theorem nodup_names_setIfAbsent {fields : Fields} (key : String) (value : Json)
    (h : (names fields).Nodup) : (names (setIfAbsent key value fields)).Nodup := by
  unfold setIfAbsent
  split
  next => exact h
  next => exact nodup_names_set key value h

theorem nodup_names_without {fields : Fields} (excluded : List String)
    (h : (names fields).Nodup) : (names (without excluded fields)).Nodup := by
  have hsub : (without excluded fields).Sublist fields := List.filter_sublist
  exact h.sublist (hsub.map Prod.fst)

/-! ## Fields that are left out -/

/-- A field under an excluded name is dropped. -/
theorem without_cons_of_mem {names : List String} {key : String} (h : key ∈ names) (value : Json)
    (rest : Fields) : without names ((key, value) :: rest) = without names rest :=
  List.filter_cons_of_neg (by simpa using h)

theorem without_cons_of_not_mem {names : List String} {key : String} (h : key ∉ names)
    (value : Json) (rest : Fields) :
    without names ((key, value) :: rest) = (key, value) :: without names rest :=
  List.filter_cons_of_pos (by simpa using h)

/-- Taking the same names out twice is taking them out once. -/
theorem without_without (names : List String) (fields : Fields) :
    without names (without names fields) = without names fields := by
  unfold without
  rw [List.filter_filter]
  exact List.filter_congr fun field _ => Bool.and_self _

/-- A value for a field that is left out anyway does not count. -/
theorem without_set_of_mem {names : List String} {key : String} (h : key ∈ names) (value : Json)
    (fields : Fields) : without names (set key value fields) = without names fields := by
  induction fields with
  | nil => exact without_cons_of_mem h value []
  | cons field rest ih =>
    obtain ⟨k, v⟩ := field
    rw [set]
    split
    next hk =>
      -- the replaced field is excluded as well
      rw [without_cons_of_mem (hk ▸ h), without_cons_of_mem (hk ▸ h)]
    next =>
      by_cases hk : k ∈ names
      · rw [without_cons_of_mem hk, without_cons_of_mem hk, ih]
      · rw [without_cons_of_not_mem hk, without_cons_of_not_mem hk, ih]

/-- Any other value gets the same place whether those fields are there or not. -/
theorem without_set_of_not_mem {names : List String} {key : String} (h : key ∉ names) (value : Json)
    (fields : Fields) :
    without names (set key value fields) = set key value (without names fields) := by
  induction fields with
  | nil => exact without_cons_of_not_mem h value []
  | cons field rest ih =>
    obtain ⟨k, v⟩ := field
    by_cases hk : k ∈ names
    · have hne : k ≠ key := by
        rintro rfl
        exact h hk
      rw [set, if_neg hne, without_cons_of_mem hk, without_cons_of_mem hk, ih]
    · rw [without_cons_of_not_mem hk, set, set]
      split
      next => exact without_cons_of_not_mem hk value rest
      next => rw [without_cons_of_not_mem hk, ih]

/-- A field under a name that is not excluded is set before or after the others are taken out. -/
theorem without_setIfAbsent {names : List String} {key : String} (h : key ∉ names) (value : Json)
    (fields : Fields) :
    without names (setIfAbsent key value fields)
      = setIfAbsent key value (without names fields) := by
  have hhas : has key (without names fields) = has key fields := by
    rw [has, has, get?_without, if_neg h]
  unfold setIfAbsent
  rw [hhas]
  split
  next => rfl
  next => exact without_set_of_not_mem h value fields

/-! ## No repeated names -/

/-- No name is repeated, and none in any of the values. -/
def Unique (fields : Fields) : Prop := (names fields).Nodup ∧ ∀ field ∈ fields, field.2.Unique

theorem unique_nil : Unique [] := ⟨.nil, nofun⟩

/-- Setting a field repeats no name, at its own level or inside the new value. -/
theorem Unique.set {fields : Fields} (h : Unique fields) (key : String) {value : Json}
    (hvalue : value.Unique) : Unique (Fields.set key value fields) := by
  refine ⟨nodup_names_set key value h.1, ?_⟩
  intro field hmem
  rcases mem_of_mem_set hmem with rfl | hbefore
  · exact hvalue
  · exact h.2 field hbefore

/-- Taking fields out repeats no name either. -/
theorem Unique.without {fields : Fields} (h : Unique fields) (excluded : List String) :
    Unique (Fields.without excluded fields) :=
  ⟨nodup_names_without excluded h.1, fun field hfield => h.2 field (List.mem_filter.1 hfield).1⟩

end Fields

namespace Json

/-- An object repeats no name exactly if its fields do not. -/
theorem unique_object_iff {fields : Fields} : (Json.object fields).Unique ↔ fields.Unique := by
  constructor
  · rintro ⟨⟩
    exact ⟨‹_›, ‹_›⟩
  · rintro ⟨names, values⟩
    exact .object names values

mutual

/-- What is left of a value after repeated names were merged repeats none. -/
theorem unique_collapse : (value : Json) → value.collapse.Unique
  | .null => .null
  | .bool b => .bool b
  | .number n => .number n
  | .string s => .string s
  | .array items => .array (unique_collapseItems items)
  | .object fields => unique_object_iff.2 (unique_collapseFields Fields.unique_nil fields)

/-- The items of an array are collapsed one by one. -/
theorem unique_collapseItems : (items : List Json) → ∀ item ∈ collapseItems items, item.Unique
  | [], item, h => absurd h List.not_mem_nil
  | first :: rest, item, h => by
    rcases List.mem_cons.1 h with rfl | hrest
    · exact unique_collapse first
    · exact unique_collapseItems rest item hrest

/-- Fields that are collapsed into others repeat no name: a later value replaces an earlier one. -/
theorem unique_collapseFields {merged : Fields} (h : merged.Unique) :
    (fields : List (String × Json)) → (collapseFields merged fields).Unique
  | [] => h
  | (key, value) :: rest => unique_collapseFields (h.set key (unique_collapse value)) rest

end

end Json

end ProcessWatch
