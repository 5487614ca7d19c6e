import ProcessWatch.Proofs.Table.Culling
import ProcessWatch.Table.Tree

/-!
# The processes of a tree

The tree of the master holds its whole family, each process once. A tree is drawn from the master
down and only so deep, while a family is what walks along parents lead to; the two meet in the
number of steps after which the walk from a process comes to the master for the first time. That
number is the level of the process in the tree, so no process stands in two places, and none is too
deep.

## The architecture

* **`ProcessNode.subtrees`**, **`ProcessNode.pids`** — the nodes of a tree, from the root down.
* **`mem_pids_treeBelow`** — the processes of a tree of some depth, by their walks to its root.
* **`arrives_of_mem_pids`**, **`nodup_pids_treeBelow`** — the level of a process, and why it has one
  place.
* **`Drawn`** — what a node shows and has below it, read off the table.
* **`descend`** — the descent that remembers where it was, and `descend_eq`: it ends, with the same
  tree.
* **`project_family`** — the tree of the master process.
-/

namespace ProcessWatch

/-! ## The nodes of a tree -/

namespace ProcessNode

mutual

/-- The nodes of a tree, each with all that is below it, a node before those below it. -/
def subtrees : ProcessNode → List ProcessNode
  | node pid attributes children => node pid attributes children :: subtreesOf children

/-- The nodes of several trees, one tree after the other. -/
def subtreesOf : List ProcessNode → List ProcessNode
  | [] => []
  | first :: rest => subtrees first ++ subtreesOf rest

end

/-- The processes of a tree, in the order of its nodes. -/
def pids (tree : ProcessNode) : List Pid := tree.subtrees.map pid

/-- The subtrees of several trees are those of each in turn. -/
theorem subtreesOf_eq_flatMap (trees : List ProcessNode) :
    subtreesOf trees = trees.flatMap subtrees := by
  induction trees with
  | nil => rfl
  | cons first rest ih => rw [subtreesOf, List.flatMap_cons, ih]

/-- A tree is its own first subtree, and the others are those of its children. -/
theorem subtrees_eq (tree : ProcessNode) :
    tree.subtrees = tree :: tree.children.flatMap subtrees := by
  obtain ⟨pid, attributes, children⟩ := tree
  rw [subtrees, subtreesOf_eq_flatMap, ProcessNode.children]

/-- The pid of a tree comes first, before those below it. -/
theorem pids_eq (tree : ProcessNode) :
    tree.pids = tree.pid :: tree.children.flatMap pids := by
  unfold pids
  rw [subtrees_eq, List.map_cons, List.map_flatMap]

mutual

/-- A tree has as many subtrees as nodes. -/
theorem length_subtrees : (tree : ProcessNode) → tree.subtrees.length = tree.size
  | node _ _ children => by
    rw [subtrees, List.length_cons, size, length_subtreesOf children, Nat.add_comm]

theorem length_subtreesOf : (trees : List ProcessNode) → (subtreesOf trees).length = sizes trees
  | [] => rfl
  | first :: rest => by
    rw [subtreesOf, List.length_append, sizes, length_subtrees first, length_subtreesOf rest]

end

mutual

/-- Every node but the root is a child of a node. -/
theorem root_or_child : (tree : ProcessNode) → ∀ n ∈ tree.subtrees,
    n = tree ∨ ∃ parent ∈ tree.subtrees, n ∈ parent.children
  | node pid attributes children, n, hn => by
    rw [subtrees] at hn ⊢
    rcases List.mem_cons.1 hn with hroot | hbelow
    · exact .inl hroot
    · rcases root_or_child_of children n hbelow with hchild | ⟨parent, hparent, hchild⟩
      · exact .inr ⟨_, List.mem_cons_self, hchild⟩
      · exact .inr ⟨parent, List.mem_cons_of_mem _ hparent, hchild⟩

/-- A subtree is one of the trees itself or a child of another subtree. -/
theorem root_or_child_of : (trees : List ProcessNode) → ∀ n ∈ subtreesOf trees,
    n ∈ trees ∨ ∃ parent ∈ subtreesOf trees, n ∈ parent.children
  | [], _, hn => absurd hn List.not_mem_nil
  | first :: rest, n, hn => by
    rw [subtreesOf] at hn ⊢
    rcases List.mem_append.1 hn with hfirst | hrest
    · rcases root_or_child first n hfirst with rfl | ⟨parent, hparent, hchild⟩
      · exact .inl List.mem_cons_self
      · exact .inr ⟨parent, List.mem_append_left _ hparent, hchild⟩
    · rcases root_or_child_of rest n hrest with hroot | ⟨parent, hparent, hchild⟩
      · exact .inl (List.mem_cons_of_mem _ hroot)
      · exact .inr ⟨parent, List.mem_append_right _ hparent, hchild⟩

end

end ProcessNode

namespace ProcessTable

variable {table : ProcessTable} {keys : List String} {root pid : Pid} {p : ProcessRecord}
  {depth : Nat}

/-! ## One node -/

/-- The fields of a process that a tree shows: those that are asked for and have a value. -/
theorem get?_selected (keys : List String) (p : ProcessRecord) (key : String) :
    (selected keys p).get? key
      = if key ∈ keys ∧ key ≠ "pid" ∧ key ≠ "children" then p.field key else none := by
  unfold selected
  rw [SortedMap.get?_ofList_filterMap]
  simp only [List.mem_filter, decide_eq_true_eq]

/-- The children of a process as its node has them: all but the root of the tree. -/
def kids (table : ProcessTable) (root : Pid) (pid : Pid) : List ProcessRecord :=
  (table.childrenOf pid).filter fun child => child.pid != root

/-- One level of the drawing: the record itself, and below it its kids with a level less to go. -/
theorem treeBelow_succ (table : ProcessTable) (keys : List String) (root : Pid) (depth : Nat)
    (p : ProcessRecord) :
    table.treeBelow keys root (depth + 1) p = .node p.pid (selected keys p)
      ((table.kids root p.pid).map (table.treeBelow keys root depth)) :=
  rfl

@[simp] theorem pid_treeBelow (depth : Nat) (p : ProcessRecord) :
    (table.treeBelow keys root depth p).pid = p.pid := by
  cases depth <;> rfl

/-- The kids of a process are its tracked children but for the root of the whole tree. -/
theorem mem_kids_iff (keyed : table.Keyed) {child : ProcessRecord} :
    child ∈ table.kids root pid ↔
      table.get? child.pid = some child ∧ child.parent = some pid ∧ child.pid ≠ root := by
  unfold kids childrenOf
  rw [List.mem_filter, List.mem_filter, SortedMap.mem_values_iff, beq_iff_eq, bne_iff_ne,
    and_assoc]
  refine and_congr_left fun _ => ⟨?_, fun h => ⟨_, h⟩⟩
  rintro ⟨k, hk⟩
  rw [keyed k child hk]
  exact hk

/-- The records of a table ascend by their pids. -/
theorem ascending_values (keyed : table.Keyed) :
    table.values.Pairwise fun a b => a.pid < b.pid := by
  refine List.pairwise_map.1 ?_
  rw [SortedMap.map_values_eq_keys keyed]
  exact ascending_pids table

theorem ascending_kids (keyed : table.Keyed) (root pid : Pid) :
    (table.kids root pid).Pairwise fun a b => a.pid < b.pid :=
  ((ascending_values keyed).filter _).filter _

/-- A process of a tree, with the processes below it, as the table has them. -/
structure Drawn (table : ProcessTable) (keys : List String) (node : ProcessNode)
    (p : ProcessRecord) : Prop where
  record : table.get? node.pid = some p
  attributes : ∀ key, node.attributes.get? key
    = if key ∈ keys ∧ key ≠ "pid" ∧ key ≠ "children" then p.field key else none
  ascending : node.children.Pairwise fun a b => a.pid < b.pid
  parents : ∀ child ∈ node.children, table.parent? child.pid = some node.pid

/-- A drawing stands for its record: it has the selected attributes, and its children are children
of the record, in the order of their pids. -/
theorem drawn_treeBelow (keyed : table.Keyed) (hp : table.get? p.pid = some p) (root : Pid)
    (depth : Nat) : table.Drawn keys (table.treeBelow keys root depth p) p := by
  have hattributes := get?_selected keys p
  cases depth with
  | zero => exact ⟨hp, hattributes, .nil, nofun⟩
  | succ depth =>
    refine ⟨hp, hattributes, ?_, ?_⟩
    · refine List.pairwise_map.2 ((ascending_kids keyed root p.pid).imp fun {a b} hlt => ?_)
      rwa [pid_treeBelow, pid_treeBelow]
    · intro child hchild
      obtain ⟨c, hc, rfl⟩ := List.mem_map.1 hchild
      obtain ⟨hget, hparent, _⟩ := (mem_kids_iff keyed).1 hc
      rw [pid_treeBelow, parent?_of_get? hget, hparent]
      rfl

/-- Every node of a tree is drawn from the record of its process. -/
theorem drawn_of_mem_subtrees (keyed : table.Keyed) (hp : table.get? p.pid = some p)
    {node : ProcessNode} (h : node ∈ (table.treeBelow keys root depth p).subtrees) :
    ∃ q, table.Drawn keys node q := by
  induction depth generalizing p with
  | zero =>
    obtain rfl := List.mem_singleton.1 h
    exact ⟨p, drawn_treeBelow keyed hp root 0⟩
  | succ depth ih =>
    rw [ProcessNode.subtrees_eq, treeBelow_succ] at h
    rcases List.mem_cons.1 h with rfl | hbelow
    · exact ⟨p, drawn_treeBelow keyed hp root (depth + 1)⟩
    · obtain ⟨child, hchild, hnode⟩ := List.mem_flatMap.1 hbelow
      obtain ⟨c, hc, rfl⟩ := List.mem_map.1 hchild
      exact ih ((mem_kids_iff keyed).1 hc).1 hnode

/-! ## All processes of a tree

A tree is drawn from the root down to a depth. The level of a process is that of its first arrival
at the root, so no process is drawn on two levels, and below the number of records there is nothing
left to draw. -/

/-- The pids of a drawing with a level to go. -/
theorem pids_treeBelow_succ (depth : Nat) (p : ProcessRecord) :
    (table.treeBelow keys root (depth + 1) p).pids = p.pid ::
      (table.kids root p.pid).flatMap fun child =>
        (table.treeBelow keys root depth child).pids := by
  rw [ProcessNode.pids_eq, treeBelow_succ, ProcessNode.children, List.flatMap_map]
  rfl

/-- A tree of some depth holds the tracked processes whose walks come to its top within as many
steps, without meeting the root of the whole tree on the way. -/
theorem mem_pids_treeBelow (keyed : table.Keyed) (hp : table.get? p.pid = some p) :
    pid ∈ (table.treeBelow keys root depth p).pids ↔ pid ∈ table.keys ∧ ∃ n ≤ depth,
      table.ancestor? n pid = some p.pid ∧ ∀ k < n, table.ancestor? k pid ≠ some root := by
  induction depth generalizing p with
  | zero =>
    have hpids : (table.treeBelow keys root 0 p).pids = [p.pid] := rfl
    rw [hpids, List.mem_singleton]
    constructor
    · rintro rfl
      exact ⟨SortedMap.mem_keys_of_get? hp, 0, Nat.le_refl 0, rfl, nofun⟩
    · rintro ⟨_, n, hn, harrives, _⟩
      obtain rfl := Nat.le_zero.1 hn
      exact Option.some.inj harrives
  | succ depth ih =>
    rw [pids_treeBelow_succ, List.mem_cons, List.mem_flatMap]
    constructor
    · rintro (rfl | ⟨c, hc, hmem⟩)
      · exact ⟨SortedMap.mem_keys_of_get? hp, 0, Nat.zero_le _, rfl, nofun⟩
      · -- one step more than to the child, which is not the root
        obtain ⟨hget, hparent, hroot⟩ := (mem_kids_iff keyed).1 hc
        obtain ⟨hpid, n, hn, harrives, hbefore⟩ := (ih hget).1 hmem
        refine ⟨hpid, n + 1, Nat.succ_le_succ hn, ?_, ?_⟩
        · rw [ancestor?_succ, harrives, Option.bind_some, parent?_of_get? hget, hparent]
        · intro k hk
          rcases Nat.lt_succ_iff_lt_or_eq.1 hk with hlt | rfl
          · exact hbefore k hlt
          · rw [harrives]
            exact fun heq => hroot (Option.some.inj heq)
    · rintro ⟨hpid, n, hn, harrives, hbefore⟩
      cases n with
      | zero => exact .inl (Option.some.inj harrives)
      | succ n =>
        -- the last step is from a child
        rw [ancestor?_succ] at harrives
        obtain ⟨child, hchild, hparent⟩ := Option.bind_eq_some_iff.1 harrives
        obtain ⟨c, hget, hcparent⟩ := Option.bind_eq_some_iff.1 hparent
        obtain rfl := keyed child c hget
        have hroot : c.pid ≠ root := by
          rintro rfl
          exact hbefore n (Nat.lt_succ_self n) hchild
        have hc : c ∈ table.kids root p.pid := (mem_kids_iff keyed).2 ⟨hget, hcparent, hroot⟩
        refine .inr ⟨c, hc, (ih hget).2 ⟨hpid, n, ?_, hchild, ?_⟩⟩
        · exact Nat.le_of_succ_le_succ hn
        · exact fun k hk => hbefore k (Nat.lt_succ_of_lt hk)

/-- The level of a process below the top of a tree is what its walk needs more than that of the top
to come to the root. -/
theorem arrives_of_mem_pids (keyed : table.Keyed) (hp : table.get? p.pid = some p) {r : Nat}
    (htop : table.Arrives [root] r p.pid)
    (h : pid ∈ (table.treeBelow keys root depth p).pids) :
    ∃ n, table.ancestor? n pid = some p.pid ∧ table.Arrives [root] (n + r) pid := by
  obtain ⟨_, n, _, harrives, hbefore⟩ := (mem_pids_treeBelow keyed hp).1 h
  refine ⟨n, harrives, htop.below harrives fun k hk root' hroot' => ?_⟩
  rw [List.mem_singleton.1 hroot']
  exact hbefore k hk

/-- The walk from a child takes one step more. -/
theorem arrives_of_mem_kids (keyed : table.Keyed) {r : Nat} (htop : table.Arrives [root] r pid)
    {child : ProcessRecord} (hchild : child ∈ table.kids root pid) :
    table.Arrives [root] (r + 1) child.pid := by
  obtain ⟨hget, hparent, hroot⟩ := (mem_kids_iff keyed).1 hchild
  rw [Nat.add_comm]
  refine htop.below ?_ ?_
  · rw [ancestor?, parent?_of_get? hget, hparent]
    rfl
  · intro k hk root' hroot'
    rw [Nat.lt_one_iff.1 hk, List.mem_singleton.1 hroot']
    exact fun heq => hroot (Option.some.inj heq)

/-- No process stands twice in a tree whose top comes from the root: its level would be two
different ones, or it would come from two children on one level. -/
theorem nodup_pids_treeBelow (keyed : table.Keyed) (hp : table.get? p.pid = some p) {r : Nat}
    (htop : table.Arrives [root] r p.pid) : (table.treeBelow keys root depth p).pids.Nodup := by
  -- level by level; `Arrives` tells the level of every pid, so none can occur on two of them
  induction depth generalizing p r with
  | zero => exact List.pairwise_singleton _ p.pid
  | succ depth ih =>
    have hget {c : ProcessRecord} (hc : c ∈ table.kids root p.pid) : table.get? c.pid = some c :=
      ((mem_kids_iff keyed).1 hc).1
    rw [pids_treeBelow_succ, List.nodup_cons]
    refine ⟨?_, List.pairwise_flatMap.2 ⟨?_, ?_⟩⟩
    · -- the top is above all its children
      intro hmem
      obtain ⟨c, hc, hmem⟩ := List.mem_flatMap.1 hmem
      obtain ⟨n, _, harrives⟩ :=
        arrives_of_mem_pids keyed (hget hc) (arrives_of_mem_kids keyed htop hc) hmem
      have hlevel := harrives.unique htop
      omega
    · exact fun c hc => ih (hget hc) (arrives_of_mem_kids keyed htop hc)
    · -- below two children of one level
      refine (ascending_kids keyed root p.pid).imp_of_mem ?_
      intro c c' hc hc' hlt pid hmem _ hmem' heq
      subst heq
      obtain ⟨n, hancestor, harrives⟩ :=
        arrives_of_mem_pids keyed (hget hc) (arrives_of_mem_kids keyed htop hc) hmem
      obtain ⟨n', hancestor', harrives'⟩ :=
        arrives_of_mem_pids keyed (hget hc') (arrives_of_mem_kids keyed htop hc') hmem'
      obtain rfl : n = n' := Nat.add_right_cancel (harrives.unique harrives')
      rw [hancestor] at hancestor'
      rw [Option.some.inj hancestor'] at hlt
      exact absurd hlt (UInt32.lt_irrefl _)

/-! ## The descent that remembers where it was

The descent knows no levels and skips what it has visited. It draws the same tree: only the root can
be met again, since nothing else has two ways to it. -/

/-- Visits the processes of a list one after the other, but none that was visited before. -/
def visitEach (visit : List Pid → ProcessRecord → Option (ProcessNode × List Pid)) :
    List ProcessRecord → List Pid → Option (List ProcessNode × List Pid)
  | [], visited => some ([], visited)
  | p :: rest, visited =>
    if p.pid ∈ visited then visitEach visit rest visited
    else do
      let (node, visited) ← visit visited p
      let (nodes, visited) ← visitEach visit rest visited
      some (node :: nodes, visited)

/-- The tree of a process by a descent that goes to every child it has not visited yet. It has no
result if it would be deeper than `depth`. -/
def descend (table : ProcessTable) (keys : List String) :
    Nat → List Pid → ProcessRecord → Option (ProcessNode × List Pid)
  | 0, _, _ => none
  | depth + 1, visited, p => do
    let (children, visited) ←
      visitEach (table.descend keys depth) (table.childrenOf p.pid) (visited ++ [p.pid])
    some (.node p.pid (selected keys p) children, visited)

/-- Where the trees of some processes have no process in common and none that was visited, only the
root is passed over. -/
theorem visitEach_eq {visit : List Pid → ProcessRecord → Option (ProcessNode × List Pid)}
    {draw : ProcessRecord → ProcessNode} (hdraw : ∀ p, (draw p).pid = p.pid)
    {ps : List ProcessRecord} {visited : List Pid} (hroot : root ∈ visited)
    (hnodup : (visited ++ (ps.filter (·.pid != root)).flatMap fun p => (draw p).pids).Nodup)
    (hvisit : ∀ p ∈ ps.filter (·.pid != root), ∀ visited, root ∈ visited →
      (visited ++ (draw p).pids).Nodup →
        visit visited p = some (draw p, visited ++ (draw p).pids)) :
    visitEach visit ps visited = some ((ps.filter (·.pid != root)).map draw,
      visited ++ (ps.filter (·.pid != root)).flatMap fun p => (draw p).pids) := by
  -- along the siblings; each is visited with what those before it have visited
  induction ps generalizing visited with
  | nil =>
    rw [visitEach, List.filter_nil, List.flatMap_nil, List.append_nil]
    rfl
  | cons p rest ih =>
    by_cases hp : p.pid = root
    · -- the root was visited first, so a child with its pid is passed over
      have hskip : (p :: rest).filter (·.pid != root) = rest.filter (·.pid != root) :=
        List.filter_cons_of_neg (by simpa using hp)
      rw [hskip] at hnodup hvisit ⊢
      rw [visitEach, if_pos (hp ▸ hroot)]
      exact ih hroot hnodup hvisit
    · -- any other sibling is new, because no pid is drawn twice
      have hkeep : (p :: rest).filter (·.pid != root) = p :: rest.filter (·.pid != root) :=
        List.filter_cons_of_pos (by simpa using hp)
      rw [hkeep] at hnodup hvisit ⊢
      rw [List.flatMap_cons, ← List.append_assoc] at hnodup ⊢
      have hhead : (visited ++ (draw p).pids).Nodup := (List.nodup_append.1 hnodup).1
      have hnew : p.pid ∉ visited := by
        intro hmem
        have hpids : p.pid ∈ (draw p).pids := by
          rw [ProcessNode.pids_eq, hdraw]
          exact List.mem_cons_self
        exact (List.nodup_append.1 hhead).2.2 p.pid hmem p.pid hpids rfl
      have hrest := ih (List.mem_append_left _ hroot) hnodup
        fun q hq => hvisit q (List.mem_cons_of_mem _ hq)
      rw [visitEach, if_neg hnew, hvisit p List.mem_cons_self visited hroot hhead]
      simp only [Option.bind_eq_bind, Option.bind_some, hrest, List.map_cons]

/-- A tree that is deep enough for the walks of all records is the same one level deeper. -/
theorem treeBelow_deeper (keyed : table.Keyed) {r : Nat} (htop : table.Arrives [root] r p.pid)
    (hdeep : table.size ≤ r + depth) :
    table.treeBelow keys root (depth + 1) p = table.treeBelow keys root depth p := by
  induction depth generalizing p r with
  | zero =>
    -- a path that is as long as the table has no room for another record
    have hkids : table.kids root p.pid = [] := by
      refine List.eq_nil_iff_forall_not_mem.2 fun child hchild => ?_
      have hlevel := (arrives_of_mem_kids keyed htop hchild).le_size
      omega
    rw [treeBelow_succ, hkids]
    rfl
  | succ depth ih =>
    rw [treeBelow_succ, treeBelow_succ table keys root depth]
    congr 1
    refine List.map_congr_left fun child hchild => ?_
    exact ih (arrives_of_mem_kids keyed htop hchild) (by omega)

/-- The descent ends if it may be deeper than all walks of records, and draws the tree. -/
theorem descend_eq (keyed : table.Keyed) {r : Nat} (htop : table.Arrives [root] r p.pid)
    (hdeep : table.size < r + depth) {visited : List Pid} (hroot : root ∈ visited ++ [p.pid])
    (hnodup : (visited ++ (table.treeBelow keys root depth p).pids).Nodup) :
    table.descend keys depth visited p =
      some (table.treeBelow keys root depth p,
        visited ++ (table.treeBelow keys root depth p).pids) := by
  induction depth generalizing p r visited with
  | zero => exact absurd htop.le_size (Nat.not_le_of_lt hdeep)
  | succ depth ih =>
    rw [pids_treeBelow_succ, List.append_cons] at hnodup ⊢
    have hchildren := visitEach_eq (fun child => pid_treeBelow depth child) hroot hnodup
      fun child hchild visited hmem =>
        ih (arrives_of_mem_kids keyed htop hchild) (by omega) (List.mem_append_left _ hmem)
    rw [descend, hchildren]
    rfl

/-! ## The tree of the master process -/

/-- The master process is the first one that is flagged. -/
theorem master?_eq_some (keyed : table.Keyed) (hp : table.get? pid = some p)
    (flagged : p.isMaster = true)
    (lowest : ∀ other q, table.get? other = some q → q.isMaster = true → pid ≤ other) :
    table.master? = some p := by
  unfold master?
  have hmem : p ∈ table.values := SortedMap.mem_values_iff.2 ⟨pid, hp⟩
  cases hfind : table.values.find? (·.isMaster) with
  | none => exact absurd flagged (List.find?_eq_none.1 hfind p hmem)
  | some q =>
    obtain ⟨hflagged, before, after, hvalues, hbefore⟩ := List.find?_eq_some_iff_append.1 hfind
    rw [hvalues, List.mem_append, List.mem_cons] at hmem
    -- the flagged record stands before the one that is found, is that one, or comes after it
    rcases hmem with hearlier | rfl | hlater
    · have hunflagged := hbefore p hearlier
      rw [flagged] at hunflagged
      cases hunflagged
    · rfl
    · -- the record that is found would have a lower pid
      have hascending := ascending_values keyed
      rw [hvalues] at hascending
      have hlt := (List.pairwise_cons.1 (List.pairwise_append.1 hascending).2.1).1 p hlater
      rw [keyed pid p hp] at hlt
      have hq : q ∈ table.values := List.mem_of_find?_eq_some hfind
      obtain ⟨other, hother⟩ := SortedMap.mem_values_iff.1 hq
      have hle := lowest other q hother hflagged
      rw [keyed other q hother] at hlt
      exact absurd hlt (UInt32.not_lt.2 hle)

/-- A tree below a process that is as deep as the table is large holds its whole family. -/
theorem mem_pids_iff_mem_family (keyed : table.Keyed) (hp : table.get? p.pid = some p) :
    pid ∈ (table.treeBelow keys p.pid table.size p).pids ↔ pid ∈ table.family [p.pid] := by
  rw [mem_pids_treeBelow keyed hp, mem_family_iff_ancestor?]
  refine and_congr_right fun _ => ?_
  constructor
  · rintro ⟨n, _, harrives, _⟩
    exact ⟨n, p.pid, List.mem_singleton_self p.pid, harrives⟩
  · rintro ⟨n, root, hroot, harrives⟩
    obtain rfl := List.mem_singleton.1 hroot
    obtain ⟨k, _, hfirst⟩ := arrives_of_ancestor? hroot harrives
    obtain ⟨root', hroot', hk⟩ := hfirst.arrives
    obtain rfl := List.mem_singleton.1 hroot'
    exact ⟨k, hfirst.le_size, hk, fun i hi => hfirst.not_before i hi _ hroot⟩

/-- The tree of the first flagged process, whatever the parents in the table are: it holds the
family of that process, each member once, and every node below the top is a child of the node of its
parent. Each node shows the fields asked for of its process, and has its children in ascending
order. The marking of the family and the descent that remembers where it was find the same, and
end. -/
theorem project_family (keyed : table.Keyed) {m : Pid} (hm : table.get? m = some p)
    (flagged : p.isMaster = true)
    (lowest : ∀ pid q, table.get? pid = some q → q.isMaster = true → m ≤ pid)
    (keys : List String) :
    ∃ tree, table.project keys = some tree ∧ tree.pid = m ∧
      tree.pids.Nodup ∧ tree.pids.Perm (table.family [m]) ∧
      (∀ pid, pid ∈ tree.pids ↔ table.Tracks pid ∧ (pid = m ∨ table.Descends pid m)) ∧
      (∀ pid, pid ∈ tree.pids ↔ pid ∈ (Marking.ofRoots table [m]).marked) ∧
      tree.size = tree.pids.length ∧
      (∀ node ∈ tree.subtrees, ∃ q, table.Drawn keys node q) ∧
      (∀ node ∈ tree.subtrees, node = tree ∨
        ∃ above ∈ tree.subtrees, node ∈ above.children ∧
          table.parent? node.pid = some above.pid) ∧
      (Marking.ofRoots table [m]).pending = [] ∧
      table.descend keys (table.size + 1) [] p = some (tree, tree.pids) := by
  have hmaster := master?_eq_some keyed hm flagged lowest
  obtain rfl := keyed m p hm
  have htop : table.Arrives [p.pid] 0 p.pid :=
    ⟨⟨p.pid, List.mem_singleton_self p.pid, rfl⟩, nofun⟩
  have tracked : ∀ root ∈ [p.pid], root ∈ table.keys := by
    intro root hroot
    rw [List.mem_singleton.1 hroot]
    exact SortedMap.mem_keys_of_get? hm
  obtain ⟨done, hmarked⟩ := Marking.mem_marked_ofRoots keyed [p.pid]
  let tree := table.treeBelow keys p.pid table.size p
  have hnodup : tree.pids.Nodup := nodup_pids_treeBelow keyed hm htop
  have hfamily : ∀ pid, pid ∈ tree.pids ↔ pid ∈ table.family [p.pid] := fun pid =>
    mem_pids_iff_mem_family keyed hm
  have hdescends : ∀ pid, pid ∈ tree.pids ↔
      table.Tracks pid ∧ (pid = p.pid ∨ table.Descends pid p.pid) := by
    intro pid
    rw [hfamily, mem_family_iff, SortedMap.mem_keys_iff]
    simp only [List.mem_singleton, exists_eq_left, Tracks]
  have hdrawn : ∀ node ∈ tree.subtrees, ∃ q, table.Drawn keys node q := fun node =>
    drawn_of_mem_subtrees keyed hm
  have hascending : (table.family [p.pid]).Nodup :=
    ((ascending_pids table).filter _).imp UInt32.ne_of_lt
  -- the descent that marks what it visited draws the same tree, since it visits nothing twice
  have hdescent : table.descend keys (table.size + 1) [] p = some (tree, tree.pids) := by
    have hdeeper : table.treeBelow keys p.pid (table.size + 1) p = tree :=
      treeBelow_deeper keyed htop (Nat.le_add_left _ _)
    rw [descend_eq keyed htop (by omega) List.mem_cons_self (by rwa [hdeeper]), hdeeper]
    rfl
  refine ⟨tree, by rw [project, hmaster]; rfl, pid_treeBelow _ p, hnodup,
    (List.perm_ext_iff_of_nodup hnodup hascending).2 hfamily, hdescends, fun pid => ?_, ?_, hdrawn,
    fun node hnode => ?_, done, hdescent⟩
  · rw [hfamily, hmarked, mem_family_iff, and_iff_right_of_imp]
    exact tracked_of_root_or_descends tracked
  · rw [ProcessNode.pids, List.length_map, ProcessNode.length_subtrees]
  · refine (ProcessNode.root_or_child tree node hnode).imp_right ?_
    rintro ⟨above, habove, hchild⟩
    obtain ⟨q, hq⟩ := hdrawn above habove
    exact ⟨above, habove, hchild, hq.parents node hchild⟩

/-- The first flagged process and its parent are the parents of each other. A second flagged process
is below them, and one is its own parent. -/
def knotted : ProcessTable :=
  .ofList [(1, kin 1 (some 3)), (2, { kin 2 (some 3) with isMaster := true }), (3, kin 3 (some 2)),
    (4, kin 4 (some 4)), (5, kin 5 (some 9)), (6, { kin 6 (some 1) with isMaster := true })]

/-- The master process 2 has a parent below itself. The tree starts at 2 all the same, and the cycle
is cut there. -/
theorem project_family_knotted :
    ∃ tree, knotted.project ["pid", "parent_pid", "name"] = some tree ∧ tree.pid = 2 ∧
      tree.pids = [2, 3, 1, 6] ∧ tree.pids.Perm (knotted.family [2]) ∧
      (∀ node ∈ tree.subtrees, ∃ q, knotted.Drawn ["pid", "parent_pid", "name"] node q) ∧
      knotted.descend ["pid", "parent_pid", "name"] 7 [] { kin 2 (some 3) with isMaster := true }
        = some (tree, tree.pids) := by
  have entries : ∀ e ∈ knotted.entries, e.2.pid = e.1 ∧ (e.2.isMaster = true → 2 ≤ e.1) := by decide
  have keyed : knotted.Keyed := fun pid p hp =>
    (entries (pid, p) (SortedMap.mem_entries_iff.2 hp)).1
  have lowest : ∀ pid q, knotted.get? pid = some q → q.isMaster = true → 2 ≤ pid := fun pid q hq =>
    (entries (pid, q) (SortedMap.mem_entries_iff.2 hq)).2
  obtain ⟨tree, hproject, hroot, _, hfamily, _, _, _, hdrawn, _, _, hdescent⟩ :=
    project_family keyed rfl rfl lowest ["pid", "parent_pid", "name"]
  have hpids : (knotted.project ["pid", "parent_pid", "name"]).map ProcessNode.pids
      = some [2, 3, 1, 6] := by decide
  rw [hproject, Option.map_some] at hpids
  exact ⟨tree, hproject, hroot, Option.some.inj hpids, hfamily, hdrawn, hdescent⟩

end ProcessTable

end ProcessWatch
