import Mathlib.Data.List.Chain
import ProcessWatch.Display.Guides
import ProcessWatch.Proofs.Table.Addresses

/-!
# What the guides of a tree say

A tree is drawn by a recursion that passes on what stands before the lines. Here the drawing is
compared with the tree itself: what stands before a line is told by the address of its process, and
the addresses are told by what stands before the lines.

## The architecture

* **`ProcessNode.indent`** — what stands before the line of a process: a guide for every process
  above it below the root, and a branch.
* **`Display.treeLines_eq`** — the lines of a tree, from the addresses of its nodes.
* **`Display.depthOf`**, **`Display.depthOf_placeLine`** — how deep a process is, read off its line:
  no character of a guide begins a process.
* **`Display.walk`**, **`Display.walk_of_isChain`** — addresses in alphabetical order are told by
  their lengths alone.
* **`Display.treeLines_encode`** — both directions.
-/

namespace ProcessWatch

namespace ProcessNode

/-- What stands before the line of the process at an address. Every process above it below the root,
from the outside in, has a bar if a sibling follows it and a blank otherwise; the process itself has
a tee or a corner. -/
def indent (tree : ProcessNode) : List Nat → String
  | [] => ""
  | i :: rest =>
    String.join ((List.range rest.length).map fun above =>
      if tree.followed ((i :: rest).take (above + 1)) then "│   " else "    ")
    ++ if tree.followed (i :: rest) then "├── " else "└── "

/-- Below the root there is just the branch. -/
theorem indent_singleton (tree : ProcessNode) (i : Nat) :
    tree.indent [i] = if tree.followed [i] then "├── " else "└── " := by
  rw [indent]
  exact String.empty_append

/-- Below a child the guide of that child comes first. -/
theorem indent_cons {i : Nat} {address : List Nat} {tree child : ProcessNode}
    (hchild : tree.children[i]? = some child) (below : address ≠ []) :
    tree.indent (i :: address)
      = (if tree.followed [i] then "│   " else "    ") ++ child.indent address := by
  obtain ⟨j, rest, rfl⟩ := List.exists_cons_of_ne_nil below
  have habove (above : Nat) : tree.followed ((i :: j :: rest).take (above + 1 + 1))
      = child.followed ((j :: rest).take (above + 1)) :=
    followed_cons hchild (List.cons_ne_nil _ _)
  rw [indent, indent, List.length_cons, List.range_succ_eq_map, List.map_cons, List.map_map,
    String.join_cons, String.append_assoc, followed_cons hchild below]
  congr 3
  exact List.map_congr_left fun above _ => by rw [Function.comp_apply, habove]

end ProcessNode

namespace Display

open ProcessNode (places placesOf)

/-! ## Lines from addresses -/

/-- The line of a node of a tree. -/
def placeLine (colored : Bool) (tree : ProcessNode) (place : List Nat × ProcessNode) : String :=
  tree.indent place.1 ++ nodeLine colored place.2

/-- The line of a node below a child, as the tree of the child has it and as the whole tree has
it. -/
theorem placeLine_cons (colored : Bool) {first : Nat} {tree child n : ProcessNode}
    {address : List Nat} (hchild : tree.children[first]? = some child) (below : address ≠ []) :
    placeLine colored tree (first :: address, n)
      = guide (!tree.followed [first]) ++ placeLine colored child (address, n) := by
  rw [placeLine, placeLine, ProcessNode.indent_cons hchild below, String.append_assoc, guide]
  cases tree.followed [first] <;> rfl

mutual

/-- The lines below a process, after `before`. -/
theorem linesBelow_eq (colored : Bool) (before : String) : (tree : ProcessNode) →
    linesBelow colored before tree
      = (placesOf 0 tree.children).map (fun place => before ++ placeLine colored tree place)
  | .node pid attributes children =>
    childLines_eq colored before (.node pid attributes children) 0 children fun i => by
      rw [Nat.zero_add]
      rfl

/-- The lines of some siblings, the last ones of the children of a process. -/
theorem childLines_eq (colored : Bool) (before : String) (tree : ProcessNode) (first : Nat) :
    (trees : List ProcessNode) → (∀ i, tree.children[first + i]? = trees[i]?) →
    childLines colored before trees
      = (placesOf first trees).map (fun place => before ++ placeLine colored tree place)
  | [], _ => rfl
  | child :: rest, last => by
    -- the line of the child itself, those below it, and those of its siblings behind it
    have hchild : tree.children[first]? = some child := last 0
    have hfollowed : tree.followed [first] = !rest.isEmpty := by
      have hnext : tree.at? [first + 1] = rest[0]? := by
        rw [ProcessNode.at?, last 1]
        cases rest <;> rfl
      rw [ProcessNode.followed, ProcessNode.later, hnext]
      cases rest <;> rfl
    have hhead : before ++ branch rest.isEmpty ++ nodeLine colored child
        = before ++ placeLine colored tree ([first], child) := by
      rw [placeLine, ProcessNode.indent_singleton, hfollowed, branch, String.append_assoc]
      cases rest <;> rfl
    have hbelow : linesBelow colored (before ++ guide rest.isEmpty) child
        = (placesOf 0 child.children).map fun place =>
          before ++ placeLine colored tree (first :: place.1, place.2) := by
      rw [linesBelow_eq colored _ child]
      refine List.map_congr_left fun place hplace => ?_
      obtain ⟨i, below, _, haddress, _⟩ := ProcessNode.of_mem_placesOf hplace
      have hne : place.1 ≠ [] := by simp [haddress]
      rw [placeLine_cons colored hchild hne, hfollowed, Bool.not_not, String.append_assoc]
    have hrest := childLines_eq colored before tree (first + 1) rest fun i => by
      rw [Nat.add_right_comm]
      exact last (i + 1)
    rw [childLines, hhead, hbelow, hrest, placesOf, ProcessNode.places_eq, List.map_append,
      List.map_cons, List.map_cons, List.map_map]
    rfl

end

/-- The lines of a tree are those of its nodes. -/
theorem treeLines_eq (colored : Bool) (tree : ProcessNode) :
    treeLines colored tree = tree.places.map (placeLine colored tree) := by
  have hroot : placeLine colored tree ([], tree) = nodeLine colored tree := String.empty_append
  rw [treeLines, linesBelow_eq, ProcessNode.places_eq, List.map_cons, hroot]
  simp

/-! ## Addresses from lines

Only the length of an address can be read off a line. In alphabetical order this is enough: an
address is followed by its first child, or by the next sibling of one of its beginnings, and its
length tells of which. -/

/-- A character that guides and branches are made of. -/
def inGuide (c : Char) : Bool := [' ', '│', '├', '└', '─'].contains c

/-- No digit is part of a guide. -/
theorem inGuide_of_isDigit {c : Char} (h : c.isDigit = true) : inGuide c = false := by
  refine Bool.eq_false_iff.2 fun hguide => ?_
  have hmem : c = ' ' ∨ c = '│' ∨ c = '├' ∨ c = '└' ∨ c = '─' := by simpa [inGuide] using hguide
  rcases hmem with rfl | rfl | rfl | rfl | rfl <;> exact absurd h (by decide)

/-- A piece of what stands before a line. -/
def IsGuide (piece : String) : Prop :=
  piece.toList.length = 4 ∧ ∀ c ∈ piece.toList, inGuide c = true

/-- What stands below a process on the way is a guide, with a line or without one. -/
theorem isGuide_followed (followed : Bool) : IsGuide (if followed then "│   " else "    ") := by
  cases followed <;> exact ⟨by decide, List.all_eq_true.1 (by decide)⟩

theorem isGuide_branch (followed : Bool) : IsGuide (if followed then "├── " else "└── ") := by
  cases followed <;> exact ⟨by decide, List.all_eq_true.1 (by decide)⟩

/-- Pieces in a row. -/
theorem length_join {pieces : List String} (h : ∀ piece ∈ pieces, IsGuide piece) :
    (String.join pieces).toList.length = 4 * pieces.length ∧
      ∀ c ∈ (String.join pieces).toList, inGuide c = true := by
  induction pieces with
  | nil => exact ⟨rfl, nofun⟩
  | cons piece rest ih =>
    obtain ⟨hwide, hpiece⟩ := h piece List.mem_cons_self
    obtain ⟨hlength, hrest⟩ := ih fun piece hmem => h piece (List.mem_cons_of_mem _ hmem)
    rw [String.join_cons, String.toList_append]
    refine ⟨?_, ?_⟩
    · rw [List.length_append, hwide, hlength, List.length_cons]
      omega
    · intro c hc
      exact (List.mem_append.1 hc).elim (hpiece c) (hrest c)

/-- Before the line of a process stands a piece for every process above it, and one for itself. The
root has none. -/
theorem length_indent (tree : ProcessNode) (address : List Nat) :
    (tree.indent address).toList.length = 4 * address.length ∧
      ∀ c ∈ (tree.indent address).toList, inGuide c = true := by
  cases address with
  | nil => exact ⟨rfl, nofun⟩
  | cons i rest =>
    -- all pieces above the last one are as long as each other
    have hguides : ∀ piece ∈ (List.range rest.length).map (fun above =>
        if tree.followed ((i :: rest).take (above + 1)) then "│   " else "    "), IsGuide piece := by
      intro piece hpiece
      obtain ⟨above, _, rfl⟩ := List.mem_map.1 hpiece
      exact isGuide_followed _
    obtain ⟨habove, hall⟩ := length_join hguides
    obtain ⟨hbranch, hlast⟩ := isGuide_branch (tree.followed (i :: rest))
    rw [ProcessNode.indent, String.toList_append]
    refine ⟨?_, ?_⟩
    · rw [List.length_append, habove, hbranch, List.length_map, List.length_range, List.length_cons]
      omega
    · intro c hc
      exact (List.mem_append.1 hc).elim (hall c) (hlast c)

/-- The text of a process begins with a digit, or with the sequence that makes it bold. -/
theorem nodeLine_begins (colored : Bool) (node : ProcessNode) :
    ∃ c rest, (nodeLine colored node).toList = c :: rest ∧ inGuide c = false := by
  -- a coloured pid begins with an escape, and one without colours with a digit
  have hpid : ∃ c rest, (Ink.bold.paint colored (toString node.pid)).toList = c :: rest ∧
      inGuide c = false := by
    cases colored with
    | true =>
      rw [Ink.paint, if_pos rfl, String.append_assoc, String.toList_append]
      exact ⟨'\x1b', _, rfl, by decide⟩
    | false =>
      have hdigits : (toString node.pid).toList = Nat.toDigits 10 node.pid.toNat := Nat.toList_repr
      obtain ⟨c, rest, hne⟩ := List.exists_cons_of_ne_nil
        (Nat.toDigits_ne_nil (n := node.pid.toNat) (b := 10))
      have hdigit : c.isDigit = true :=
        Nat.isDigit_of_mem_toDigits (by decide) (by decide) (hne ▸ List.mem_cons_self)
      exact ⟨c, rest, hdigits.trans hne, inGuide_of_isDigit hdigit⟩
  obtain ⟨c, rest, hpid, hc⟩ := hpid
  rw [nodeLine, words, String.toList_intercalate, List.map_cons, hpid]
  cases (fieldTexts colored node.attributes.entries).map String.toList with
  | nil => exact ⟨c, rest, by simp, hc⟩
  | cons text texts => exact ⟨c, _, by rw [List.intercalate_cons_cons]; rfl, hc⟩

/-- How deep the process of a line is. A guide and a branch are four characters wide. -/
def depthOf (line : String) : Nat := (line.toList.takeWhile inGuide).length / 4

/-- The depth of a place is read off its line. -/
theorem depthOf_placeLine (colored : Bool) (tree : ProcessNode) (place : List Nat × ProcessNode) :
    depthOf (placeLine colored tree place) = place.1.length := by
  obtain ⟨hlength, hall⟩ := length_indent tree place.1
  obtain ⟨c, rest, hline, hc⟩ := nodeLine_begins colored place.2
  rw [depthOf, placeLine, String.toList_append, List.takeWhile_append_of_pos hall, hline,
    List.takeWhile_cons_of_neg (by simp [hc]), List.append_nil, hlength,
    Nat.mul_div_cancel_left _ (by decide)]

/-- The address after another one, if that of the next process is as long as this. It is a first
child if it is longer, and otherwise the next sibling of the process that is as deep. -/
def follow (previous : List Nat) (depth : Nat) : List Nat :=
  if previous.length < depth then previous ++ [0] else ProcessNode.later (previous.take depth)

/-- Addresses of these lengths, each after the one before. -/
def walk : List Nat → List Nat → List (List Nat)
  | _, [] => []
  | previous, depth :: rest => follow previous depth :: walk (follow previous depth) rest

/-- The addresses of the processes of some lines. -/
def readAddresses (lines : List String) : List (List Nat) := walk [] (lines.map depthOf)

/-- Addresses that follow one another are found again from their lengths alone. -/
theorem walk_of_isChain {previous : List Nat} {addresses : List (List Nat)}
    (h : (previous :: addresses).IsChain fun a b => follow a b.length = b) :
    walk previous (addresses.map List.length) = addresses := by
  induction addresses generalizing previous with
  | nil => rfl
  | cons address rest ih =>
    obtain ⟨hfollow, hrest⟩ := List.isChain_cons_cons.1 h
    rw [List.map_cons, walk, hfollow, ih hrest]

/-- After everything below a process comes its next sibling. -/
theorem follow_below (above : List Nat) (i : Nat) (below : List Nat) :
    follow (above ++ i :: below) (above.length + 1) = above ++ [i + 1] := by
  have hdeep : ¬ (above ++ i :: below).length < above.length + 1 := by simp
  have htake : (above ++ i :: below).take (above.length + 1) = above ++ [i] := by
    rw [List.take_length_add_append]
    rfl
  rw [follow, if_neg hdeep, htake, ProcessNode.later_concat]

mutual

/-- The addresses in a tree follow each other, if that of its root follows what comes before. -/
theorem isChain_places (above previous : List Nat) : (tree : ProcessNode) →
    follow previous above.length = above →
    (previous :: tree.places.map (above ++ ·.1)).IsChain fun a b => follow a b.length = b
  | .node pid attributes children, h => by
    have hfirst : follow above (above.length + 1) = above ++ [0] := if_pos (Nat.lt_succ_self _)
    have hbelow := isChain_placesOf above above 0 children hfirst
    rw [places, List.map_cons, List.append_nil]
    exact List.isChain_cons_cons.2 ⟨h, hbelow⟩

/-- The addresses of trees side by side follow one another, behind whatever leads to the first of
them. -/
theorem isChain_placesOf (above previous : List Nat) (first : Nat) : (trees : List ProcessNode) →
    follow previous (above.length + 1) = above ++ [first] →
    (previous :: (placesOf first trees).map (above ++ ·.1)).IsChain fun a b => follow a b.length = b
  | [], _ => .singleton previous
  | child :: rest, h => by
    have hchild := isChain_places (above ++ [first]) previous child (by
      rw [List.length_append]
      exact h)
    have hrest (below : List Nat) :=
      isChain_placesOf above (above ++ first :: below) (first + 1) rest
      (follow_below above first below)
    have hplaces : (placesOf first (child :: rest)).map (above ++ ·.1)
        = child.places.map (above ++ [first] ++ ·.1)
          ++ (placesOf (first + 1) rest).map (above ++ ·.1) := by
      rw [placesOf, List.map_append, List.map_map]
      simp
    rw [hplaces, ← List.cons_append, List.isChain_append]
    refine ⟨hchild, (List.isChain_cons.1 (hrest [])).2, ?_⟩
    -- the next sibling follows whatever is the last one below this child
    intro last hlast next hnext
    have hbelow : last ∈ child.places.map (above ++ [first] ++ ·.1) := by
      rw [ProcessNode.places_eq, List.map_cons] at hlast ⊢
      rw [Option.mem_def, List.getLast?_cons_cons] at hlast
      exact List.mem_of_getLast? hlast
    obtain ⟨place, _, rfl⟩ := List.mem_map.1 hbelow
    rw [List.append_assoc, List.singleton_append]
    exact (List.isChain_cons.1 (hrest place.1)).1 next hnext

end

/-- The lines of a tree tell the addresses of its processes. -/
theorem readAddresses_treeLines (colored : Bool) (tree : ProcessNode) :
    readAddresses (treeLines colored tree) = tree.places.map Prod.fst := by
  have hdepths : (treeLines colored tree).map depthOf
      = (tree.places.map Prod.fst).map List.length := by
    rw [treeLines_eq, List.map_map, List.map_map]
    exact List.map_congr_left fun place _ => depthOf_placeLine colored tree place
  rw [readAddresses, hdepths]
  exact walk_of_isChain (isChain_places [] [] tree rfl)

/-- The lines of a tree are its processes, one line for each, from the root down. What stands before
a line is told by the address of the process, and the addresses are told by what stands before the
lines: they are all addresses in the tree, in alphabetical order. -/
theorem treeLines_encode (colored : Bool) (tree : ProcessNode) :
    (treeLines colored tree).length = tree.size ∧
    treeLines colored tree
      = tree.places.map (fun place => tree.indent place.1 ++ nodeLine colored place.2) ∧
    tree.places.map Prod.snd = tree.subtrees ∧
    (∀ address node, (address, node) ∈ tree.places ↔ tree.at? address = some node) ∧
    (tree.places.map Prod.fst).Pairwise (· < ·) ∧
    readAddresses (treeLines colored tree) = tree.places.map Prod.fst := by
  refine ⟨?_, treeLines_eq colored tree, ProcessNode.nodes_places tree,
    fun _ _ => ProcessNode.mem_places_iff, ProcessNode.ascending_places tree,
    readAddresses_treeLines colored tree⟩
  rw [treeLines_eq, List.length_map, ← ProcessNode.length_subtrees, ← ProcessNode.nodes_places,
    List.length_map]

example :
    let leaf (pid : Pid) : ProcessNode := .node pid .empty []
    treeLines false (.node 1 .empty [.node 2 .empty [leaf 4], leaf 3])
      = ["1", "├── 2", "│   └── 4", "└── 3"] := by decide +kernel

end Display

end ProcessWatch
