import ProcessWatch.Order.SortedMap

/-!
# Look-up in maps in key order

What a look-up finds after each operation on a map. Everything else that is proved about tables,
files and descriptors goes through `SortedMap.get?`, so the list of entries behind a map is opened
here and nowhere else.

* **`get?_insert_self`**, **`get?_insert_of_ne`** — a look-up beside an insertion.
* **`get?_filter`** — a look-up in a map of which some entries were dropped.
* **`mem_entries_iff`**, **`mem_keys_iff`**, **`mem_values_iff`** — the lists of a map, by look-up;
  `ascending_keys` for their order.
* **`get?_ofList`** — of two entries with one key the later one is found; `get?_ofList_filterMap`
  for the values that some keys have.
-/

namespace ProcessWatch

namespace SortedMap

variable {κ α β : Type}

/-! ## Lists of entries -/

/-- The value of the last entry of a list with a key. -/
def last? [DecidableEq κ] (k : κ) : List (κ × α) → Option α
  | [] => none
  | e :: rest => (last? k rest).or (if e.1 = k then some e.2 else none)

/-- The last value under a key is that of the second list, if there is one. -/
theorem last?_append [DecidableEq κ] (k : κ) (first second : List (κ × α)) :
    last? k (first ++ second) = (last? k second).or (last? k first) := by
  induction first with
  | nil => rw [List.nil_append, last?, Option.or_none]
  | cons e rest ih => rw [List.cons_append, last?, last?, ih, Option.or_assoc]

/-- There is no last value exactly if no entry has the key. -/
theorem last?_eq_none_iff [DecidableEq κ] {k : κ} {entries : List (κ × α)} :
    last? k entries = none ↔ ∀ e ∈ entries, e.1 ≠ k := by
  induction entries with
  | nil => simp [last?]
  | cons e rest ih =>
    rw [last?, Option.or_eq_none_iff, ih, List.forall_mem_cons]
    by_cases h : e.1 = k <;> simp [h]

/-- If all entries with a key have one value, this is the last one. -/
theorem last?_eq_some [DecidableEq κ] {k : κ} {v : α} {entries : List (κ × α)}
    (mem : (k, v) ∈ entries) (same : ∀ e ∈ entries, e.1 = k → e.2 = v) :
    last? k entries = some v := by
  induction entries with
  | nil => cases mem
  | cons e rest ih =>
    rw [last?]
    -- the last entry with the key is the first one here, or else it is among the rest
    by_cases hrest : ∀ x ∈ rest, x.1 ≠ k
    · rw [last?_eq_none_iff.2 hrest, Option.none_or]
      rcases List.mem_cons.1 mem with heq | hmem
      · rw [← heq, if_pos rfl]
      · exact absurd rfl (hrest (k, v) hmem)
    · have ⟨x, hx, hxk⟩ : ∃ x ∈ rest, x.1 = k := by simpa using hrest
      have hsame : ∀ e ∈ rest, e.1 = k → e.2 = v :=
        fun e he => same e (List.mem_cons_of_mem _ he)
      have hmem : (k, v) ∈ rest := by
        have hxv : x = (k, v) := Prod.ext hxk (hsame x hx hxk)
        rwa [← hxv]
      rw [ih hmem hsame, Option.some_or]

variable [Ord κ]

/-! ## Entries and look-up -/

theorem find?_cons_self [Std.LawfulEqOrd κ] {key : κ} {value : α} {rest : List (κ × α)} :
    find? key ((key, value) :: rest) = some value := by
  rw [find?, if_pos Std.ReflCmp.compare_self]

theorem find?_cons_of_ne [Std.LawfulEqOrd κ] {k key : κ} {value : α} {rest : List (κ × α)}
    (h : k ≠ key) : find? k ((key, value) :: rest) = find? k rest := by
  rw [find?, if_neg fun heq => h (Std.LawfulEqOrd.compare_eq_iff_eq.1 heq)]

/-- The head of ascending entries has a key that no later entry has. -/
theorem find?_tail [Std.TransOrd κ] {key : κ} {value : α} {rest : List (κ × α)}
    (asc : ((key, value) :: rest).Pairwise fun a b => compare a.1 b.1 = .lt) :
    find? key rest = none :=
  find?_eq_none_of_below (List.pairwise_cons.1 asc).1

/-- An entry that is found is there. -/
theorem mem_of_find? [Std.LawfulEqOrd κ] {k : κ} {v : α} {entries : List (κ × α)}
    (h : find? k entries = some v) : (k, v) ∈ entries := by
  induction entries with
  | nil => simp [find?] at h
  | cons head rest ih =>
    obtain ⟨k', v'⟩ := head
    by_cases hk : compare k k' = .eq
    · obtain rfl := Std.LawfulEqOrd.compare_eq_iff_eq.1 hk
      have hv : v' = v := by simpa [find?] using h
      rw [hv]
      exact List.mem_cons_self
    · have hrest : find? k rest = some v := by simpa [find?, hk] using h
      exact List.mem_cons_of_mem _ (ih hrest)

/-- In ascending entries the first one with a key is the only one. -/
theorem find?_of_mem [Std.TransOrd κ] [Std.LawfulEqOrd κ] {k : κ} {v : α}
    {entries : List (κ × α)} (asc : entries.Pairwise fun a b => compare a.1 b.1 = .lt)
    (h : (k, v) ∈ entries) : find? k entries = some v := by
  induction entries with
  | nil => cases h
  | cons head rest ih =>
    obtain ⟨k', v'⟩ := head
    obtain ⟨below, tail⟩ := List.pairwise_cons.1 asc
    rcases List.mem_cons.1 h with heq | hmem
    · cases heq
      simp [find?]
    · have hgt : compare k k' = .gt := Std.OrientedCmp.gt_of_lt (below (k, v) hmem)
      rw [find?, hgt]
      exact ih tail hmem

/-- The entries of a map are the pairs of its keys and what is under them. -/
theorem mem_entries_iff [Std.TransOrd κ] [Std.LawfulEqOrd κ] {map : SortedMap κ α} {k : κ} {v : α} :
    (k, v) ∈ map.entries ↔ map.get? k = some v :=
  ⟨find?_of_mem map.ascending, mem_of_find?⟩

/-- A value of a map is under some key. -/
theorem mem_values_iff [Std.TransOrd κ] [Std.LawfulEqOrd κ] {map : SortedMap κ α} {v : α} :
    v ∈ map.values ↔ ∃ k, map.get? k = some v := by
  constructor
  · intro h
    obtain ⟨⟨k, v'⟩, hmem, rfl⟩ := List.mem_map.1 h
    exact ⟨k, mem_entries_iff.1 hmem⟩
  · rintro ⟨k, h⟩
    exact List.mem_map.2 ⟨(k, v), mem_entries_iff.2 h, rfl⟩

/-- The keys of a map are those that it has something under. -/
theorem mem_keys_iff [Std.TransOrd κ] [Std.LawfulEqOrd κ] {map : SortedMap κ α} {k : κ} :
    k ∈ map.keys ↔ (map.get? k).isSome = true := by
  constructor
  · intro h
    obtain ⟨⟨k', v⟩, hmem, rfl⟩ := List.mem_map.1 h
    rw [mem_entries_iff.1 hmem]
    rfl
  · intro h
    obtain ⟨v, hv⟩ := Option.isSome_iff_exists.1 h
    exact List.mem_map.2 ⟨(k, v), mem_entries_iff.2 hv, rfl⟩

/-- A key that something is found under is one of the keys. -/
theorem mem_keys_of_get? [Std.TransOrd κ] [Std.LawfulEqOrd κ] {map : SortedMap κ α} {k : κ} {v : α}
    (h : map.get? k = some v) : k ∈ map.keys :=
  mem_keys_iff.2 (Option.isSome_of_eq_some h)

theorem ascending_keys (map : SortedMap κ α) :
    map.keys.Pairwise fun a b => compare a b = .lt :=
  List.pairwise_map.2 map.ascending

/-- No key stands in a map twice. -/
theorem nodup_keys [Std.TransOrd κ] (map : SortedMap κ α) : map.keys.Nodup := by
  refine map.ascending_keys.imp ?_
  rintro a _ hlt rfl
  have hself : compare a a = .eq := Std.ReflCmp.compare_self
  rw [hself] at hlt
  cases hlt

/-- Values that bear the key they are stored under name the keys. -/
theorem map_values_eq_keys [Std.TransOrd κ] [Std.LawfulEqOrd κ] {map : SortedMap κ α} {f : α → κ}
    (h : ∀ k v, map.get? k = some v → f v = k) : map.values.map f = map.keys := by
  unfold values keys
  rw [List.map_map]
  refine List.map_congr_left ?_
  rintro ⟨k, v⟩ hmem
  exact h k v (mem_entries_iff.1 hmem)

@[simp] theorem keys_mapWithKey (f : κ → α → β) (map : SortedMap κ α) :
    (map.mapWithKey f).keys = map.keys := by
  simp [keys, mapWithKey]

@[simp] theorem keys_mapValues (f : α → β) (map : SortedMap κ α) :
    (map.mapValues f).keys = map.keys := by
  simp [keys, mapValues]

/-! ## Look-up after an operation -/

@[simp] theorem get?_insert_self [Std.TransOrd κ] [Std.LawfulEqOrd κ] (map : SortedMap κ α) (k : κ)
    (v : α) : (map.insert k v).get? k = some v := by
  rw [get?_insert, if_pos Std.ReflCmp.compare_self]

theorem get?_insert_of_ne [Std.TransOrd κ] [Std.LawfulEqOrd κ] (map : SortedMap κ α) {k k' : κ}
    (v : α) (h : k' ≠ k) : (map.insert k v).get? k' = map.get? k' := by
  rw [get?_insert, if_neg fun heq => h (Std.LawfulEqOrd.compare_eq_iff_eq.1 heq)]

/-- A filter acts on each key by itself. -/
theorem get?_filter [Std.TransOrd κ] [Std.LawfulEqOrd κ] (keep : κ → α → Bool)
    (map : SortedMap κ α) (k : κ) :
    (map.filter keep).get? k = (map.get? k).filter (keep k) := by
  apply Option.ext
  intro v
  rw [← mem_entries_iff, Option.filter_eq_some_iff, ← mem_entries_iff]
  exact List.mem_filter

/-! ## Maps made of lists

A list may have several values under one key, and the map has the last of them. This is where the
last entry of a process counts. -/

/-- After several insertions a key has the last value that was inserted under it, or what it had
before. -/
theorem get?_foldl_insert [Std.TransOrd κ] [Std.LawfulEqOrd κ] [DecidableEq κ] (k : κ)
    (entries : List (κ × α)) (map : SortedMap κ α) :
    (entries.foldl (fun map e => map.insert e.1 e.2) map).get? k
      = (last? k entries).or (map.get? k) := by
  induction entries generalizing map with
  | nil => rfl
  | cons e rest ih =>
    rw [List.foldl_cons, ih, last?, Option.or_assoc]
    congr 1
    by_cases h : e.1 = k
    · subst h
      simp
    · rw [get?_insert_of_ne map e.2 (Ne.symm h), if_neg h, Option.none_or]

/-- A map made of a list finds the last entry of the list with a key. -/
theorem get?_ofList [Std.TransOrd κ] [Std.LawfulEqOrd κ] [DecidableEq κ] (k : κ)
    (entries : List (κ × α)) : (ofList entries).get? k = last? k entries := by
  rw [ofList, get?_foldl_insert, get?_empty, Option.or_none]

/-- A map of the values that some keys have finds the value of each of these keys, and no other. -/
theorem get?_ofList_filterMap [Std.TransOrd κ] [Std.LawfulEqOrd κ] [DecidableEq κ]
    (value : κ → Option α) (keys : List κ) (k : κ) :
    (ofList (keys.filterMap fun key => (value key).map (key, ·))).get? k
      = if k ∈ keys then value k else none := by
  -- the entries of the list are just those keys that have a value, each with its own
  have hmem {e : κ × α} (he : e ∈ keys.filterMap fun key => (value key).map (key, ·)) :
      e.1 ∈ keys ∧ value e.1 = some e.2 := by
    obtain ⟨key, hkey, hvalue⟩ := List.mem_filterMap.1 he
    obtain ⟨v, hv, rfl⟩ := Option.map_eq_some_iff.1 hvalue
    exact ⟨hkey, hv⟩
  rw [get?_ofList]
  split
  next hk =>
    cases hvalue : value k with
    | none =>
      refine last?_eq_none_iff.2 fun e he heq => ?_
      have hsome := (hmem he).2
      rw [heq, hvalue] at hsome
      cases hsome
    | some v =>
      refine last?_eq_some (List.mem_filterMap.2 ⟨k, hk, by rw [hvalue]; rfl⟩) fun e he heq => ?_
      have hsome := (hmem he).2
      rw [heq, hvalue] at hsome
      exact (Option.some.inj hsome).symm
  next hk =>
    refine last?_eq_none_iff.2 fun e he heq => hk ?_
    rw [← heq]
    exact (hmem he).1

end SortedMap

end ProcessWatch
