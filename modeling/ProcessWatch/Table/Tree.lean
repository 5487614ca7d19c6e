import ProcessWatch.Table.Family

/-!
# The tree below the master process

A tree shows selected fields of the master process and, below every process, its children. A parent
cycle through the master is cut at the master, so every process of its family has one place.
-/

namespace ProcessWatch

/-- A process and its children, with some of its fields. -/
inductive ProcessNode where
  | node (pid : Pid) (attributes : SortedMap String Json) (children : List ProcessNode)

instance : Inhabited ProcessNode := ⟨.node 0 .empty []⟩

namespace ProcessNode

def pid : ProcessNode → Pid
  | node pid _ _ => pid

def attributes : ProcessNode → SortedMap String Json
  | node _ attributes _ => attributes

def children : ProcessNode → List ProcessNode
  | node _ _ children => children

mutual

def size : ProcessNode → Nat
  | node _ _ children => 1 + sizes children

def sizes : List ProcessNode → Nat
  | [] => 0
  | first :: rest => size first + sizes rest

end

mutual

/-- Writes a tree; a process without children has no field for them. -/
def toJson : ProcessNode → Json
  | node pid attributes [] => .object (("pid", .ofWord32 pid) :: attributes.entries)
  | node pid attributes (first :: rest) =>
    .object (("pid", .ofWord32 pid) :: attributes.entries
      ++ [("children", .array (toJsons (first :: rest)))])

def toJsons : List ProcessNode → List Json
  | [] => []
  | first :: rest => toJson first :: toJsons rest

end

end ProcessNode

namespace ProcessTable

/-- The selected fields of a process that have a value. The pid and the children have places of
their own in a tree. -/
def selected (keys : List String) (p : ProcessRecord) : SortedMap String Json :=
  let keys := keys.filter fun key => key ≠ "pid" ∧ key ≠ "children"
  .ofList (keys.filterMap fun key => (p.field key).map (key, ·))

/-- The tree of a process, `depth` levels deep. The process `root` is nobody's child in it. -/
def treeBelow (table : ProcessTable) (keys : List String) (root : Pid) :
    Nat → ProcessRecord → ProcessNode
  | 0, p => .node p.pid (selected keys p) []
  | depth + 1, p =>
    -- a cycle of parents through the root would repeat it
    let children := (table.childrenOf p.pid).filter fun child => child.pid != root
    .node p.pid (selected keys p) (children.map (table.treeBelow keys root depth))

/-- The record of the master process: the one that is flagged. -/
def master? (table : ProcessTable) : Option ProcessRecord := table.values.find? (·.isMaster)

/-- The tree of the master process, once it is tracked. No branch is longer than the table. -/
def project (table : ProcessTable) (keys : List String) : Option ProcessNode :=
  table.master?.map fun master => table.treeBelow keys master.pid table.size master

end ProcessTable

end ProcessWatch
