import ProcessWatch.Proofs.Attributes
import ProcessWatch.Proofs.Wire.RoundTrip

/-!
# Merging repeats no name

A merge sets fields of an object one by one, so it repeats a name only if one of its sides does.
This holds for every object inside the attributes too, and of a merge that was stopped by a clash as
well.

* **`Attributes.unique_mergeFields`** — the merge of fields without repeated names.
* **`Fields.Kept.merge`**, **`Fields.Kept.setIfAbsent`** — fields without places of their own stay
  so.
* **`Fields.Kept.nodup_between`** — between fields that have such places they repeat no name.
-/

namespace ProcessWatch

namespace Attributes

mutual

/-- A merge of two values repeats no name if neither of them does, be there a clash or not. The
recursion is that of the merge, with one case for every kind of value that comes in. -/
theorem unique_mergeValue (key : String) {existing : Json} (h : existing.Unique) :
    (incoming : Json) → incoming.Unique → (mergeValue key existing incoming).value.Unique
  | .object incoming, hi => by
    -- objects are merged, and otherwise one side is left as it is
    cases existing with
    | object current =>
      rw [mergeValue_objects]
      exact Json.unique_object_iff.2 <| unique_mergeFields (Json.unique_object_iff.1 h) incoming
        (Json.unique_object_iff.1 hi)
    | null => exact hi
    | bool _ | number _ | string _ | array _ => exact h
  | .array items, hi => by
    cases existing with
    | null | array _ => exact hi
    | bool _ | number _ | string _ | object _ => exact h
  | .null, hi => hi
  | .bool _, hi | .number _, hi | .string _, hi => by
    cases existing with
    | array _ | object _ => exact h
    | null | bool _ | number _ | string _ => exact hi

/-- The same for the fields of an object, one field after the other. -/
theorem unique_mergeFields {existing : Fields} (h : existing.Unique) :
    (incoming : List (String × Json)) → Fields.Unique incoming →
      (mergeFields existing incoming).value.Unique
  | [], _ => h
  | (key, value) :: rest, hi => by
    obtain ⟨names, values⟩ := hi
    obtain ⟨hvalue, hvalues⟩ := List.forall_mem_cons.1 values
    have hrest : Fields.Unique rest := ⟨(List.nodup_cons.1 names).2, hvalues⟩
    -- a clash stops the merge, and what was merged until then has no repeated name either
    cases hget : Fields.get? key existing with
    | none =>
      rw [mergeFields_new hget]
      exact unique_mergeFields (h.set key hvalue) rest hrest
    | some current =>
      have hcurrent : current.Unique := h.2 _ (Fields.mem_of_get? hget)
      have hset := h.set key (unique_mergeValue key hcurrent value hvalue)
      cases herr : (mergeValue key current value).error with
      | none =>
        rw [mergeFields_known hget (Merged.eq_done herr)]
        exact unique_mergeFields hset rest hrest
      | some error =>
        rw [mergeFields_clash hget herr]
        exact hset

end

end Attributes

namespace Fields

variable {typed : List String} {fields : Fields}

/-- The names of two rows of fields are those of the first row and then those of the second. -/
theorem names_append (first second : Fields) :
    names (first ++ second) = names first ++ names second :=
  List.map_append

/-- Kept fields do not have a typed name. -/
theorem Kept.get? (h : fields.Kept typed) {key : String} (hkey : key ∈ typed) :
    Fields.get? key fields = none :=
  get?_eq_none_iff.2 fun hmem => h.untyped key hmem hkey

/-- Fewer names are easier to stay clear of. -/
theorem Kept.mono (h : fields.Kept typed) {fewer : List String}
    (hsub : ∀ key ∈ fewer, key ∈ typed) :
    fields.Kept fewer :=
  ⟨h.unique, fun key hkey hmem => h.untyped key hkey (hsub key hmem)⟩

/-- A merge brings in no name that one of its parts does not have. -/
theorem Kept.merge {incoming : Fields} (h : fields.Kept typed) (hi : incoming.Kept typed) :
    (Attributes.merge fields incoming).value.Kept typed := by
  refine ⟨Attributes.unique_mergeFields h.unique incoming hi.unique, fun key hkey htyped => ?_⟩
  have hincoming : key ∉ names incoming := fun hmem => hi.untyped key hmem htyped
  have hget : Fields.get? key (Attributes.merge fields incoming).value = none := by
    rw [Attributes.merge, Attributes.get?_mergeFields_of_not_mem hincoming, h.get? htyped]
  exact get?_eq_none_iff.1 hget hkey

/-- A field under a name that is not typed can be added. -/
theorem Kept.setIfAbsent (h : fields.Kept typed) {key : String} (hkey : key ∉ typed) {value : Json}
    (hvalue : value.Unique) : (fields.setIfAbsent key value).Kept typed := by
  unfold Fields.setIfAbsent
  split
  · exact h
  · refine ⟨h.unique.set key hvalue, fun name hname htyped => ?_⟩
    rw [names_set] at hname
    split at hname
    · exact h.untyped name hname htyped
    · rcases List.mem_append.1 hname with hbefore | hnew
      · exact h.untyped name hbefore htyped
      · exact hkey (List.mem_singleton.1 hnew ▸ htyped)

/-- Fields that were taken out are out, so their names count among those that are not there. -/
theorem Kept.without (h : fields.Kept typed) (excluded : List String) :
    (fields.without excluded).Kept (typed ++ excluded) := by
  refine ⟨h.unique.without excluded, fun key hkey hmem => ?_⟩
  obtain ⟨field, hfield, rfl⟩ := List.mem_map.1 hkey
  obtain ⟨hbefore, hfree⟩ := List.mem_filter.1 hfield
  rcases List.mem_append.1 hmem with htyped | hexcluded
  · exact h.untyped field.1 (List.mem_map_of_mem hbefore) htyped
  · simp [hexcluded] at hfree

/-- With typed fields before and behind them they repeat no name. -/
theorem Kept.nodup_between {front back : List String} {head tail : Fields}
    (h : fields.Kept (front ++ back)) (nodup : (front ++ back).Nodup)
    (hhead : (names head).Sublist front) (htail : (names tail).Sublist back) :
    (names (head ++ fields ++ tail)).Nodup := by
  obtain ⟨hfront, hback, hapart⟩ := List.nodup_append.1 nodup
  rw [names_append, names_append, List.nodup_append, List.nodup_append]
  refine ⟨⟨hhead.nodup hfront, h.unique.1, ?_⟩, htail.nodup hback, ?_⟩
  · rintro key hkey _ hfield rfl
    exact h.untyped key hfield (List.mem_append_left _ (hhead.subset hkey))
  · rintro key hkey _ hlast rfl
    rcases List.mem_append.1 hkey with hfirst | hfield
    · exact hapart key (hhead.subset hfirst) key (htail.subset hlast) rfl
    · exact h.untyped key hfield (List.mem_append_right _ (htail.subset hlast))

end Fields

end ProcessWatch
