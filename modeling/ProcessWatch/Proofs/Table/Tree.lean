import ProcessWatch.Proofs.Order.SortedMap
import ProcessWatch.Table.Tree

/-!
# The shape of the tree

Which processes a tree holds, and where, does not depend on the fields that it shows. It follows
from three fields of the records alone.

* **`ProcessNode.bare`** — a tree without the fields that it shows.
* **`ProcessRecord.outline`** — the fields of a record that the shape depends on.
* **`ProcessTable.bare_project`** — the shape, drawn from the outlines of a table;
  `bare_project_congr` for tables whose outlines are the same.
* **`ProcessTable.project_eq_none_iff`**, **`flagged_of_project`** — there is a tree exactly if a
  record is flagged, and its root is such a record.
-/

namespace ProcessWatch

namespace ProcessNode

mutual

/-- The tree without the fields that it shows. -/
def bare : ProcessNode → ProcessNode
  | node pid _ children => node pid .empty (bares children)

/-- Several trees without the fields that they show. -/
def bares : List ProcessNode → List ProcessNode
  | [] => []
  | first :: rest => bare first :: bares rest

end

/-- Trees side by side are bared one by one. -/
theorem bares_eq_map (trees : List ProcessNode) : bares trees = trees.map bare := by
  induction trees with
  | nil => rfl
  | cons first rest ih => rw [bares, List.map_cons, ih]

end ProcessNode

/-- What the shape of a tree depends on in a record. -/
structure Outline where
  pid : Pid
  parent : Option Pid
  isMaster : Bool
deriving DecidableEq

/-- The outline of a record. -/
def ProcessRecord.outline (p : ProcessRecord) : Outline := ⟨p.pid, p.parent, p.isMaster⟩

namespace ProcessTable

/-- The outlines of all records, in the order of the pids. -/
def outlines (table : ProcessTable) : List Outline := table.values.map (·.outline)

/-- The bare tree of a process, drawn from outlines alone. -/
def bareBelow (outlines : List Outline) (root : Pid) : Nat → Outline → ProcessNode
  | 0, o => .node o.pid .empty []
  | depth + 1, o =>
    let children := (outlines.filter fun child => child.parent == some o.pid).filter fun child =>
      child.pid != root
    .node o.pid .empty (children.map (bareBelow outlines root depth))

/-- A drawing without its attributes only depends on the outlines of the records. -/
theorem bare_treeBelow (table : ProcessTable) (keys : List String) (root : Pid) (depth : Nat)
    (p : ProcessRecord) :
    (table.treeBelow keys root depth p).bare = bareBelow table.outlines root depth p.outline := by
  induction depth generalizing p with
  | zero => rfl
  | succ depth ih =>
    have hbelow : ProcessNode.bare ∘ table.treeBelow keys root depth
        = bareBelow table.outlines root depth ∘ ProcessRecord.outline := by
      funext child
      exact ih child
    rw [treeBelow, ProcessNode.bare, ProcessNode.bares_eq_map, List.map_map, hbelow, bareBelow]
    unfold outlines childrenOf
    rw [List.filter_map, List.filter_map, List.map_map]
    rfl

/-- The shape of the tree of a table depends on the outlines of its records alone. -/
theorem bare_project (table : ProcessTable) (keys : List String) :
    (table.project keys).map ProcessNode.bare =
      (table.outlines.find? (·.isMaster)).map fun o =>
        bareBelow table.outlines o.pid table.outlines.length o := by
  have hlength : table.outlines.length = table.size := by
    unfold outlines SortedMap.values SortedMap.size
    rw [List.length_map, List.length_map]
  have hmaster : table.outlines.find? (·.isMaster) = table.master?.map (·.outline) := by
    unfold outlines master?
    rw [List.find?_map]
    rfl
  rw [hmaster, hlength, project, Option.map_map, Option.map_map]
  congr 1
  funext master
  exact bare_treeBelow table keys master.pid table.size master

/-- So tables with the same outlines are drawn alike but for the attributes. -/
theorem outlines_congr {table table' : ProcessTable}
    (h : ∀ pid, (table.get? pid).map (·.outline) = (table'.get? pid).map (·.outline)) :
    table.outlines = table'.outlines := by
  have hmap : table.mapValues (·.outline) = table'.mapValues (·.outline) := by
    apply SortedMap.ext_get?
    intro pid
    rw [SortedMap.get?_mapValues, SortedMap.get?_mapValues]
    exact h pid
  have hvalues (table : ProcessTable) : table.outlines = (table.mapValues (·.outline)).values := by
    unfold outlines SortedMap.values SortedMap.mapValues
    rw [List.map_map, List.map_map]
    rfl
  rw [hvalues, hvalues, hmap]

/-- Two tables with the same outlines have trees of the same shape. -/
theorem bare_project_congr {table table' : ProcessTable} (keys : List String)
    (h : ∀ pid, (table.get? pid).map (·.outline) = (table'.get? pid).map (·.outline)) :
    (table.project keys).map ProcessNode.bare = (table'.project keys).map ProcessNode.bare := by
  rw [bare_project, bare_project, outlines_congr h]

/-! ## The root -/

/-- There is no tree exactly if no record is flagged. -/
theorem project_eq_none_iff {table : ProcessTable} {keys : List String} :
    table.project keys = none ↔ ∀ pid p, table.get? pid = some p → p.isMaster = false := by
  unfold project master?
  rw [Option.map_eq_none_iff, List.find?_eq_none]
  constructor
  · intro h pid p hp
    exact Bool.eq_false_iff.2 (h p (SortedMap.mem_values_iff.2 ⟨pid, hp⟩))
  · intro h p hp
    obtain ⟨pid, hpid⟩ := SortedMap.mem_values_iff.1 hp
    exact Bool.eq_false_iff.1 (h pid p hpid)

/-- The root of the tree is a process whose record is flagged. -/
theorem flagged_of_project {table : ProcessTable} {keys : List String} {root : ProcessNode}
    (h : table.project keys = some root) :
    ∃ pid p, table.get? pid = some p ∧ p.isMaster = true ∧ root.pid = p.pid := by
  obtain ⟨p, hmaster, rfl⟩ := Option.map_eq_some_iff.1 h
  obtain ⟨pid, hpid⟩ := SortedMap.mem_values_iff.1 (List.mem_of_find?_eq_some hmaster)
  refine ⟨pid, p, hpid, List.find?_some hmaster, ?_⟩
  cases table.size <;> rfl

end ProcessTable

end ProcessWatch
