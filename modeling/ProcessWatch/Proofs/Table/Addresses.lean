import ProcessWatch.Proofs.Table.Projection

/-!
# Addresses in a tree

A node of a tree has an address: the numbers of the children on the way down to it. The addresses of
a tree are its shape, and in their alphabetical order they go through it from the root down, a node
before those below it and those before its next sibling.

* **`ProcessNode.at?`** — the node at an address.
* **`ProcessNode.places`** — the nodes of a tree with their addresses, in the order of
  `ProcessNode.subtrees`.
* **`ProcessNode.mem_places_iff`**, **`ProcessNode.ascending_places`** — they are all there, in
  alphabetical order.
* **`ProcessNode.followed`** — whether a further sibling follows.
-/

namespace ProcessWatch

namespace ProcessNode

/-- The node at an address, if there is one. -/
def at? : List Nat → ProcessNode → Option ProcessNode
  | [], tree => some tree
  | i :: rest, tree => tree.children[i]?.bind (at? rest)

mutual

/-- The nodes of a tree with their addresses, a node before those below it. -/
def places : ProcessNode → List (List Nat × ProcessNode)
  | node pid attributes children => ([], node pid attributes children) :: placesOf 0 children

/-- The nodes of some siblings, one tree after the other. The first of them is the child with the
number `first`. -/
def placesOf (first : Nat) : List ProcessNode → List (List Nat × ProcessNode)
  | [] => []
  | child :: rest =>
    child.places.map (fun place => (first :: place.1, place.2)) ++ placesOf (first + 1) rest

end

/-- The places of a tree are its root and those of its children, each behind its number. -/
theorem places_eq (tree : ProcessNode) :
    tree.places = ([], tree) :: placesOf 0 tree.children := by
  obtain ⟨pid, attributes, children⟩ := tree
  rw [places, ProcessNode.children]

/-- An address that begins with the number of a child goes on in that child. -/
theorem at?_cons_of_some {i : Nat} {rest : List Nat} {tree child : ProcessNode}
    (h : tree.children[i]? = some child) : tree.at? (i :: rest) = child.at? rest := by
  rw [at?, h, Option.bind_some]

/-! ## All nodes, in order -/

mutual

/-- The places show all subtrees, in the order of the drawing. -/
theorem nodes_places : (tree : ProcessNode) → tree.places.map Prod.snd = tree.subtrees
  | node pid attributes children => by
    rw [places, List.map_cons, nodes_placesOf 0 children, subtrees]

theorem nodes_placesOf (first : Nat) :
    (trees : List ProcessNode) → (placesOf first trees).map Prod.snd = subtreesOf trees
  | [] => rfl
  | child :: rest => by
    rw [placesOf, List.map_append, List.map_map, nodes_placesOf (first + 1) rest, subtreesOf,
      ← nodes_places child]
    rfl

end

/-- The address of a node below some siblings begins with the number of one of them. -/
theorem of_mem_placesOf {first : Nat} {trees : List ProcessNode} {address : List Nat}
    {n : ProcessNode} (h : (address, n) ∈ placesOf first trees) :
    ∃ i rest child, address = (first + i) :: rest ∧ trees[i]? = some child ∧
      (rest, n) ∈ child.places := by
  induction trees generalizing first with
  | nil => cases h
  | cons child siblings ih =>
    rw [placesOf] at h
    rcases List.mem_append.1 h with hchild | hlater
    · obtain ⟨⟨rest, n'⟩, hmem, heq⟩ := List.mem_map.1 hchild
      cases heq
      exact ⟨0, rest, child, rfl, rfl, hmem⟩
    · obtain ⟨i, rest, c, rfl, hc, hmem⟩ := ih hlater
      exact ⟨i + 1, rest, c, by rw [Nat.add_right_comm, Nat.add_assoc], hc, hmem⟩

/-- A place of one of several trees is a place of all of them, behind the number of that tree. -/
theorem mem_placesOf (first : Nat) {i : Nat} {trees : List ProcessNode} {rest : List Nat}
    {child n : ProcessNode} (hchild : trees[i]? = some child) (h : (rest, n) ∈ child.places) :
    ((first + i) :: rest, n) ∈ placesOf first trees := by
  induction trees generalizing first i with
  | nil => cases hchild
  | cons head siblings ih =>
    rw [placesOf, List.mem_append]
    cases i with
    | zero =>
      cases hchild
      exact .inl (List.mem_map.2 ⟨(rest, n), h, rfl⟩)
    | succ i =>
      have hlater := ih (first + 1) hchild
      rw [Nat.add_right_comm] at hlater
      exact .inr hlater

/-- The places of a tree are the addresses at which it has a node. Induction on the address. -/
theorem mem_places_iff {tree n : ProcessNode} {address : List Nat} :
    (address, n) ∈ tree.places ↔ tree.at? address = some n := by
  -- one step down the tree for each number of the address
  induction address generalizing tree with
  | nil =>
    rw [places_eq, List.mem_cons, at?]
    constructor
    · rintro (heq | hbelow)
      · cases heq
        rfl
      · obtain ⟨_, _, _, heq, _⟩ := of_mem_placesOf hbelow
        cases heq
    · rintro ⟨⟩
      exact .inl rfl
  | cons i rest ih =>
    rw [places_eq, List.mem_cons, at?]
    constructor
    · rintro (heq | hbelow)
      · cases heq
      · obtain ⟨j, rest', child, heq, hchild, hmem⟩ := of_mem_placesOf hbelow
        cases heq
        rw [Nat.zero_add, hchild]
        exact ih.1 hmem
    · intro h
      obtain ⟨child, hchild, hat⟩ := Option.bind_eq_some_iff.1 h
      have hbelow := mem_placesOf 0 hchild (ih.2 hat)
      rw [Nat.zero_add] at hbelow
      exact .inr hbelow

mutual

/-- The addresses are in alphabetical order. -/
theorem ascending_places : (tree : ProcessNode) → (tree.places.map Prod.fst).Pairwise (· < ·)
  | node pid attributes children => by
    rw [places, List.map_cons, List.pairwise_cons]
    refine ⟨?_, ascending_placesOf 0 children⟩
    intro address haddress
    obtain ⟨⟨_, n⟩, hmem, rfl⟩ := List.mem_map.1 haddress
    obtain ⟨i, rest, _, heq, _⟩ := of_mem_placesOf hmem
    cases heq
    exact List.nil_lt_cons _ _

/-- The addresses of trees side by side ascend: each tree has its number in front. -/
theorem ascending_placesOf (first : Nat) :
    (trees : List ProcessNode) → ((placesOf first trees).map Prod.fst).Pairwise (· < ·)
  | [] => .nil
  | child :: rest => by
    rw [placesOf, List.map_append, List.map_map, List.pairwise_append]
    refine ⟨?_, ascending_placesOf (first + 1) rest, ?_⟩
    · have hbelow := ascending_places child
      rw [List.pairwise_map] at hbelow ⊢
      exact hbelow.imp fun hlt => List.cons_lt_cons_iff.2 (.inr ⟨rfl, hlt⟩)
    · -- what is below one sibling comes before what is below the next ones
      intro a ha b hb
      obtain ⟨_, _, rfl⟩ := List.mem_map.1 ha
      obtain ⟨⟨_, n⟩, hmem, rfl⟩ := List.mem_map.1 hb
      obtain ⟨i, rest', _, heq, _⟩ := of_mem_placesOf hmem
      cases heq
      exact List.cons_lt_cons_iff.2 (.inl (by omega))

end

/-! ## Siblings -/

/-- The address of the next sibling. -/
def later : List Nat → List Nat
  | [] => []
  | [i] => [i + 1]
  | i :: j :: rest => i :: later (j :: rest)

/-- A further sibling follows the node at an address. -/
def followed (tree : ProcessNode) (address : List Nat) : Bool := (tree.at? (later address)).isSome

/-- Whether something follows at a place deeper in a child is a matter of that child. -/
theorem followed_cons {i : Nat} {rest : List Nat} {tree child : ProcessNode}
    (hchild : tree.children[i]? = some child) (below : rest ≠ []) :
    tree.followed (i :: rest) = child.followed rest := by
  obtain ⟨j, rest, rfl⟩ := List.exists_cons_of_ne_nil below
  unfold followed
  rw [later, at?_cons_of_some hchild]

/-- The next sibling is one number further. -/
theorem later_concat (address : List Nat) (i : Nat) :
    later (address ++ [i]) = address ++ [i + 1] := by
  induction address with
  | nil => rfl
  | cons j rest ih =>
    cases rest with
    | nil => rfl
    | cons k rest => exact congrArg (j :: ·) ih

end ProcessNode

end ProcessWatch
