/-!
# Maps in key order

A map is the list of its entries in strictly ascending key order, so two maps that answer every
look-up alike are equal, and whatever walks a map walks it in key order.
`SortedMap.get?_insert` and `SortedMap.ext_get?` are the two facts that the other modules use.
-/

namespace ProcessWatch

/-- Entries in strictly ascending order of their keys. -/
structure SortedMap (κ : Type) (α : Type) [Ord κ] where
  entries : List (κ × α)
  ascending : entries.Pairwise fun a b => compare a.1 b.1 = .lt

namespace SortedMap

variable {κ α β : Type} [Ord κ]

instance : Inhabited (SortedMap κ α) := ⟨⟨[], .nil⟩⟩

instance [BEq κ] [BEq α] : BEq (SortedMap κ α) := ⟨fun a b => a.entries == b.entries⟩

def empty : SortedMap κ α := ⟨[], .nil⟩

/-- The value stored under `key` in a list of entries. -/
def find? (key : κ) : List (κ × α) → Option α
  | [] => none
  | (k, v) :: rest => if compare key k = .eq then some v else find? key rest

/-- The entries with `value` stored under `key`, in the place that the order of keys gives it. -/
def insertEntry (key : κ) (value : α) : List (κ × α) → List (κ × α)
  | [] => [(key, value)]
  | (k, v) :: rest =>
    match compare key k with
    | .lt => (key, value) :: (k, v) :: rest
    | .eq => (key, value) :: rest
    | .gt => (k, v) :: insertEntry key value rest

/-- Nothing but the new entry is added. -/
theorem mem_insertEntry {key : κ} {value : α} {e : κ × α} {entries : List (κ × α)}
    (h : e ∈ insertEntry key value entries) : e = (key, value) ∨ e ∈ entries := by
  induction entries with
  | nil => simpa [insertEntry] using h
  | cons head rest ih =>
    obtain ⟨k, v⟩ := head
    unfold insertEntry at h
    split at h <;> simp only [List.mem_cons] at h ⊢ <;> grind

/-- An inserted entry stands where its key belongs. -/
theorem ascending_insertEntry [Std.TransOrd κ] [Std.LawfulEqOrd κ] (key : κ) (value : α)
    {entries : List (κ × α)} (h : entries.Pairwise fun a b => compare a.1 b.1 = .lt) :
    (insertEntry key value entries).Pairwise fun a b => compare a.1 b.1 = .lt := by
  induction entries with
  | nil => simp [insertEntry]
  | cons head rest ih =>
    obtain ⟨k, v⟩ := head
    obtain ⟨below, tail⟩ := List.pairwise_cons.1 h
    unfold insertEntry
    split
    next lt =>
      refine List.pairwise_cons.2 ⟨?_, h⟩
      intro e he
      rcases List.mem_cons.1 he with rfl | he
      · exact lt
      · exact Std.TransCmp.lt_trans lt (below e he)
    next eq =>
      obtain rfl := Std.LawfulEqOrd.compare_eq_iff_eq.1 eq
      exact List.pairwise_cons.2 ⟨below, tail⟩
    next gt =>
      refine List.pairwise_cons.2 ⟨?_, ih tail⟩
      intro e he
      rcases mem_insertEntry he with rfl | he
      · exact Std.OrientedCmp.lt_of_gt gt
      · exact below e he

def get? (map : SortedMap κ α) (key : κ) : Option α := find? key map.entries

def contains (map : SortedMap κ α) (key : κ) : Bool := (map.get? key).isSome

def insert [Std.TransOrd κ] [Std.LawfulEqOrd κ] (map : SortedMap κ α) (key : κ) (value : α) :
    SortedMap κ α :=
  ⟨insertEntry key value map.entries, ascending_insertEntry key value map.ascending⟩

/-- The map of a list of entries; of two entries with one key the later one counts. -/
def ofList [Std.TransOrd κ] [Std.LawfulEqOrd κ] (entries : List (κ × α)) : SortedMap κ α :=
  entries.foldl (fun map e => map.insert e.1 e.2) empty

def size (map : SortedMap κ α) : Nat := map.entries.length

def keys (map : SortedMap κ α) : List κ := map.entries.map Prod.fst

def values (map : SortedMap κ α) : List α := map.entries.map Prod.snd

def mapValues (f : α → β) (map : SortedMap κ α) : SortedMap κ β :=
  ⟨map.entries.map fun e => (e.1, f e.2), by
    rw [List.pairwise_map]; exact map.ascending⟩

/-- The map with every value changed by `f`, which also sees the key. -/
def mapWithKey (f : κ → α → β) (map : SortedMap κ α) : SortedMap κ β :=
  ⟨map.entries.map fun e => (e.1, f e.1 e.2), by
    rw [List.pairwise_map]; exact map.ascending⟩

def filter (keep : κ → α → Bool) (map : SortedMap κ α) : SortedMap κ α :=
  ⟨map.entries.filter fun e => keep e.1 e.2, map.ascending.filter _⟩

/-! ## Look-up -/

/-- An inserted value is found, and under every other key there is what was. -/
theorem find?_insertEntry [Std.TransOrd κ] [Std.LawfulEqOrd κ] (key : κ) (value : α) (k : κ)
    (entries : List (κ × α)) :
    find? k (insertEntry key value entries)
      = if compare k key = .eq then some value else find? k entries := by
  induction entries with
  | nil => simp [insertEntry, find?]
  | cons head rest ih =>
    obtain ⟨k', v'⟩ := head
    unfold insertEntry
    split
    next => simp [find?]
    next eq =>
      obtain rfl := Std.LawfulEqOrd.compare_eq_iff_eq.1 eq
      by_cases h : compare k key = .eq <;> simp [find?, h]
    next gt =>
      simp only [find?, ih]
      by_cases h : compare k k' = .eq
      · obtain rfl := Std.LawfulEqOrd.compare_eq_iff_eq.1 h
        have : compare k key = .lt := Std.OrientedCmp.lt_of_gt gt
        simp [this]
      · simp [h]

/-- A look-up sees the latest value stored under its key. -/
theorem get?_insert [Std.TransOrd κ] [Std.LawfulEqOrd κ] (map : SortedMap κ α) (key : κ)
    (value : α) (k : κ) :
    (map.insert key value).get? k = if compare k key = .eq then some value else map.get? k :=
  find?_insertEntry key value k map.entries

@[simp] theorem get?_empty (k : κ) : (empty : SortedMap κ α).get? k = none := rfl

/-- A change of the values moves no entry. -/
theorem find?_map (f : κ → α → β) (k : κ) (entries : List (κ × α))
    [Std.LawfulEqOrd κ] :
    find? k (entries.map fun e => (e.1, f e.1 e.2)) = (find? k entries).map (f k) := by
  induction entries with
  | nil => rfl
  | cons head rest ih =>
    obtain ⟨k', v'⟩ := head
    by_cases h : compare k k' = .eq
    · obtain rfl := Std.LawfulEqOrd.compare_eq_iff_eq.1 h
      simp [find?]
    · simpa [find?, h] using ih

theorem get?_mapWithKey [Std.LawfulEqOrd κ] (f : κ → α → β) (map : SortedMap κ α) (k : κ) :
    (map.mapWithKey f).get? k = (map.get? k).map (f k) :=
  find?_map f k map.entries

theorem get?_mapValues [Std.LawfulEqOrd κ] (f : α → β) (map : SortedMap κ α) (k : κ) :
    (map.mapValues f).get? k = (map.get? k).map f :=
  find?_map (fun _ => f) k map.entries

/-! ## Extensionality -/

/-- A key below all others is not among them. -/
theorem find?_eq_none_of_below [Std.OrientedOrd κ] {k : κ} {entries : List (κ × α)}
    (h : ∀ e ∈ entries, compare k e.1 = .lt) : find? k entries = none := by
  induction entries with
  | nil => rfl
  | cons head rest ih =>
    obtain ⟨k', v'⟩ := head
    have hk : compare k k' = .lt := h (k', v') (by simp)
    simp [find?, hk, ih fun e he => h e (by simp [he])]

/-- Ascending entries are told by what is found among them. -/
theorem entries_eq_of_find? [Std.TransOrd κ] [Std.LawfulEqOrd κ] {a b : List (κ × α)}
    (ha : a.Pairwise fun x y => compare x.1 y.1 = .lt)
    (hb : b.Pairwise fun x y => compare x.1 y.1 = .lt)
    (h : ∀ k, find? k a = find? k b) : a = b := by
  induction a generalizing b with
  | nil =>
    cases b with
    | nil => rfl
    | cons e _ => simpa [find?] using h e.1
  | cons e a ih =>
    obtain ⟨k, v⟩ := e
    cases b with
    | nil => simpa [find?] using h k
    | cons e' b =>
      obtain ⟨k', v'⟩ := e'
      obtain ⟨belowA, tailA⟩ := List.pairwise_cons.1 ha
      obtain ⟨belowB, tailB⟩ := List.pairwise_cons.1 hb
      have noneA : find? k a = none := find?_eq_none_of_below belowA
      have noneB : find? k' b = none := find?_eq_none_of_below belowB
      cases order : compare k k' with
      | lt =>
        have : find? k b = none := find?_eq_none_of_below fun x hx =>
          Std.TransCmp.lt_trans order (belowB x hx)
        simpa [find?, order, this] using h k
      | gt =>
        have order' : compare k' k = .lt := Std.OrientedCmp.lt_of_gt order
        have : find? k' a = none := find?_eq_none_of_below fun x hx =>
          Std.TransCmp.lt_trans order' (belowA x hx)
        simpa [find?, order', this] using h k'
      | eq =>
        obtain rfl := Std.LawfulEqOrd.compare_eq_iff_eq.1 order
        have hv : v = v' := by simpa [find?] using h k
        subst hv
        congr 1
        refine ih tailA tailB fun j => ?_
        by_cases hj : compare j k = .eq
        · obtain rfl := Std.LawfulEqOrd.compare_eq_iff_eq.1 hj
          rw [noneA, noneB]
        · simpa [find?, hj] using h j

/-- Maps that answer every look-up alike are equal. -/
theorem ext_get? [Std.TransOrd κ] [Std.LawfulEqOrd κ] {a b : SortedMap κ α}
    (h : ∀ k, a.get? k = b.get? k) : a = b := by
  obtain ⟨ea, ha⟩ := a
  obtain ⟨eb, hb⟩ := b
  obtain rfl : ea = eb := entries_eq_of_find? ha hb h
  rfl

end SortedMap

end ProcessWatch
