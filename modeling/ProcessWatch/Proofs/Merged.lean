import ProcessWatch.Merged
import ProcessWatch.Proofs.Order.SortedMap

/-!
# Merging maps key by key

A merge of two maps is decided at every key on its own, because the incoming map has every key once.

* **`maps_error_eq_none_iff`** — the merge goes through exactly if it does at every common key.
* **`get?_maps`**, **`of_get?_maps`** — what it leaves at a key, if it goes through;
  `get?_maps_kept`, `get?_maps_added` and `get?_maps_merged` case by case.
-/

namespace ProcessWatch

namespace Merged

theorem eq_done {α : Type} {m : Merged α} (h : m.error = none) : m = .done m.value := by
  obtain ⟨value, error⟩ := m
  cases h
  rfl

variable {κ α : Type} [Ord κ] [Std.TransOrd κ] [Std.LawfulEqOrd κ] {merge : α → α → Merged α}
  {existing : SortedMap κ α} {rest : List (κ × α)} {key : κ} {value current : α}

/-! ## The first entry -/

theorem entries_new (h : existing.get? key = none) :
    entries merge existing ((key, value) :: rest)
      = entries merge (existing.insert key value) rest := by
  rw [entries, h]

/-- An entry under a known key replaces the value there by the merge of the two. -/
theorem entries_known (h : existing.get? key = some current)
    (herr : (merge current value).error = none) :
    entries merge existing ((key, value) :: rest)
      = entries merge (existing.insert key (merge current value).value) rest := by
  rw [entries, h]
  dsimp only
  rw [herr]

/-- The first entry that clashes is the last one that is looked at. What its merge left behind is
stored. -/
theorem entries_clash {error : MergeError} (h : existing.get? key = some current)
    (herr : (merge current value).error = some error) :
    entries merge existing ((key, value) :: rest)
      = ⟨existing.insert key (merge current value).value, some error⟩ := by
  rw [entries, h]
  dsimp only
  rw [herr]

/-! ## All entries

A merge of maps stops at the first pair of values that clash. If there is none, every key can be
looked at by itself, since an entry is only met by one with the same key. -/

/-- Entries in order merge without an error exactly if no two values under one key clash. -/
theorem entries_error_eq_none_iff {incoming : List (κ × α)}
    (asc : incoming.Pairwise fun a b => compare a.1 b.1 = .lt) :
    (entries merge existing incoming).error = none ↔
      ∀ k x y, existing.get? k = some x → SortedMap.find? k incoming = some y →
        (merge x y).error = none := by
  induction incoming generalizing existing with
  | nil =>
    refine ⟨fun _ k x y _ hy => ?_, fun _ => rfl⟩
    cases hy
  | cons e rest ih =>
    obtain ⟨key, value⟩ := e
    have tail := (List.pairwise_cons.1 asc).2
    -- what is stored under the first key does not count for the entries that follow
    have hstep (stored : α) :
        (∀ k x y, (existing.insert key stored).get? k = some x → SortedMap.find? k rest = some y →
          (merge x y).error = none) ↔
        (∀ k x y, k ≠ key → existing.get? k = some x → SortedMap.find? k rest = some y →
          (merge x y).error = none) := by
      constructor
      · intro h k x y hk hx hy
        exact h k x y (by rw [SortedMap.get?_insert_of_ne existing stored hk, hx]) hy
      · intro h k x y hx hy
        have hk : k ≠ key := by
          rintro rfl
          rw [SortedMap.find?_tail asc] at hy
          cases hy
        rw [SortedMap.get?_insert_of_ne existing stored hk] at hx
        exact h k x y hk hx hy
    cases hget : existing.get? key with
    | none =>
      rw [entries_new hget, ih tail, hstep]
      constructor
      · intro h k x y hx hy
        have hk : k ≠ key := by
          rintro rfl
          rw [hget] at hx
          cases hx
        rw [SortedMap.find?_cons_of_ne hk] at hy
        exact h k x y hk hx hy
      · intro h k x y hk hx hy
        exact h k x y hx (by rw [SortedMap.find?_cons_of_ne hk, hy])
    | some current =>
      cases herr : (merge current value).error with
      | none =>
        rw [entries_known hget herr, ih tail, hstep]
        constructor
        · intro h k x y hx hy
          by_cases hk : k = key
          · subst hk
            rw [SortedMap.find?_cons_self] at hy
            cases hy
            rw [hget] at hx
            cases hx
            exact herr
          · rw [SortedMap.find?_cons_of_ne hk] at hy
            exact h k x y hk hx hy
        · intro h k x y hk hx hy
          exact h k x y hx (by rw [SortedMap.find?_cons_of_ne hk, hy])
      | some error =>
        rw [entries_clash hget herr]
        refine ⟨fun h => ?_, fun h => ?_⟩
        · cases h
        · rw [h key current value hget SortedMap.find?_cons_self] at herr
          cases herr

/-- Where all entries merge, every key has what it had, what came in, or the merge of both.
Induction on the entries: the first one only changes what is under its key, and no later one has
that. -/
theorem get?_entries {incoming : List (κ × α)}
    (asc : incoming.Pairwise fun a b => compare a.1 b.1 = .lt)
    (h : (entries merge existing incoming).error = none) (k : κ) :
    (entries merge existing incoming).value.get? k
      = (existing.get? k).merge (fun x y => (merge x y).value) (SortedMap.find? k incoming) := by
  induction incoming generalizing existing with
  | nil => cases hk : existing.get? k <;> exact hk
  | cons e rest ih =>
    obtain ⟨key, value⟩ := e
    have tail := (List.pairwise_cons.1 asc).2
    -- what the first entry stores is all that can be found under its key afterwards
    have hstep (stored : α) (hok : (entries merge (existing.insert key stored) rest).error = none)
        (hkey : (existing.get? key).merge (fun x y => (merge x y).value) (some value)
          = some stored) :
        (entries merge (existing.insert key stored) rest).value.get? k
          = (existing.get? k).merge (fun x y => (merge x y).value)
            (SortedMap.find? k ((key, value) :: rest)) := by
      rw [ih tail hok]
      by_cases hk : k = key
      · subst hk
        rw [SortedMap.get?_insert_self, SortedMap.find?_tail asc, SortedMap.find?_cons_self, hkey]
        rfl
      · rw [SortedMap.get?_insert_of_ne existing stored hk, SortedMap.find?_cons_of_ne hk]
    cases hget : existing.get? key with
    | none =>
      rw [entries_new hget] at h ⊢
      exact hstep value h (by rw [hget]; rfl)
    | some current =>
      cases herr : (merge current value).error with
      | none =>
        rw [entries_known hget herr] at h ⊢
        exact hstep _ h (by rw [hget]; rfl)
      | some error =>
        rw [entries_clash hget herr] at h
        cases h

/-! ## Maps -/

/-- Two maps merge exactly if no two values under one key clash. -/
theorem maps_error_eq_none_iff {incoming : SortedMap κ α} :
    (maps merge existing incoming).error = none ↔
      ∀ k x y, existing.get? k = some x → incoming.get? k = some y → (merge x y).error = none :=
  entries_error_eq_none_iff incoming.ascending

/-- The merge of two maps, key by key. -/
theorem get?_maps {incoming : SortedMap κ α} (h : (maps merge existing incoming).error = none)
    (k : κ) : (maps merge existing incoming).value.get? k
      = (existing.get? k).merge (fun x y => (merge x y).value) (incoming.get? k) :=
  get?_entries incoming.ascending h k

/-- What the incoming map does not have stays as it was. -/
theorem get?_maps_kept {incoming : SortedMap κ α}
    (h : (maps merge existing incoming).error = none) {k : κ} (hk : incoming.get? k = none) :
    (maps merge existing incoming).value.get? k = existing.get? k := by
  rw [get?_maps h, hk, Option.merge_none_right]

/-- A key that only came in has what came in. -/
theorem get?_maps_added {incoming : SortedMap κ α}
    (h : (maps merge existing incoming).error = none) {k : κ} {y : α}
    (hx : existing.get? k = none) (hy : incoming.get? k = some y) :
    (maps merge existing incoming).value.get? k = some y := by
  rw [get?_maps h, hx, hy]
  rfl

/-- A key of both maps has the merge of the two values, which went through. -/
theorem get?_maps_merged {incoming : SortedMap κ α}
    (h : (maps merge existing incoming).error = none) {k : κ} {x y : α}
    (hx : existing.get? k = some x) (hy : incoming.get? k = some y) :
    (merge x y).error = none ∧
      (maps merge existing incoming).value.get? k = some (merge x y).value := by
  refine ⟨maps_error_eq_none_iff.1 h k x y hx hy, ?_⟩
  rw [get?_maps h, hx, hy]
  rfl

/-- Where a value of a merged map comes from: from one side alone, or from both. -/
theorem of_get?_maps {incoming : SortedMap κ α} (h : (maps merge existing incoming).error = none)
    {k : κ} {z : α} (hz : (maps merge existing incoming).value.get? k = some z) :
    (existing.get? k = some z ∧ incoming.get? k = none) ∨
    (existing.get? k = none ∧ incoming.get? k = some z) ∨
    (∃ x y, existing.get? k = some x ∧ incoming.get? k = some y ∧ (merge x y).error = none ∧
      (merge x y).value = z) := by
  rw [get?_maps h] at hz
  -- by which of the two maps have the key
  cases hx : existing.get? k with
  | none =>
    cases hy : incoming.get? k with
    | none =>
      rw [hx, hy] at hz
      cases hz
    | some y =>
      rw [hx, hy] at hz
      exact .inr (.inl ⟨rfl, hz⟩)
  | some x =>
    cases hy : incoming.get? k with
    | none =>
      rw [hx, hy] at hz
      exact .inl ⟨hz, rfl⟩
    | some y =>
      rw [hx, hy] at hz
      have herr := maps_error_eq_none_iff.1 h k x y hx hy
      exact .inr (.inr ⟨x, y, rfl, rfl, herr, Option.some.inj hz⟩)

end Merged

end ProcessWatch
