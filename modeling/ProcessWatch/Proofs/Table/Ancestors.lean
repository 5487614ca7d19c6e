import Mathlib.Data.List.Perm.Subperm
import Mathlib.Data.Nat.Find
import ProcessWatch.Proofs.Table.Liveness

/-!
# Walks along parents

Where the walk from a process to its parent, the parent of that, and so on comes after some steps.
Parents may form cycles, so a walk may go on for ever; but one that comes to a process does so for
the first time within as many steps as there are records, because it has not met a record twice by
then. This is why a bounded walk finds all of a family.

* **`ancestor?`** — the process some generations above another one.
* **`Arrives`** — a walk comes to one of some processes after some steps, and not before.
* **`Arrives.le_size`** — the bound on these steps.
* **`mem_family_iff`** — a family holds the tracked processes that are roots or descend from one.
-/

namespace ProcessWatch

namespace ProcessTable

variable {table : ProcessTable} {roots : List Pid} {pid root : Pid} {n : Nat}

/-- The process `n` generations above `pid`, if all those below it are tracked. -/
def ancestor? (table : ProcessTable) : Nat → Pid → Option Pid
  | 0, pid => some pid
  | n + 1, pid => (table.parent? pid).bind (table.ancestor? n)

/-- Steps up the tree add up. -/
theorem ancestor?_add (table : ProcessTable) (m n : Nat) (pid : Pid) :
    table.ancestor? (m + n) pid = (table.ancestor? m pid).bind (table.ancestor? n) := by
  induction m generalizing pid with
  | zero => rw [Nat.zero_add, ancestor?, Option.bind_some]
  | succ m ih =>
    rw [Nat.succ_add, ancestor?, ancestor?, Option.bind_assoc]
    congr 1
    funext parent
    exact ih parent

/-- One generation further up is the parent of the last one. -/
theorem ancestor?_succ (table : ProcessTable) (n : Nat) (pid : Pid) :
    table.ancestor? (n + 1) pid = (table.ancestor? n pid).bind table.parent? := by
  rw [ancestor?_add]
  congr 1
  funext ancestor
  rw [ancestor?]
  cases table.parent? ancestor <;> rfl

/-- A process that has a parent is tracked. -/
theorem mem_keys_of_parent? {parent : Pid} (h : table.parent? pid = some parent) :
    pid ∈ table.keys := by
  obtain ⟨p, hp, _⟩ := Option.bind_eq_some_iff.1 h
  exact SortedMap.mem_keys_of_get? hp

/-- The parent that a table tells is that of the record. -/
theorem parent?_of_get? {p : ProcessRecord} (h : table.get? pid = some p) :
    table.parent? pid = p.parent := by
  unfold parent?
  rw [h, Option.bind_some]

/-- The children of a process are the tracked processes whose parent it is, ascending. -/
theorem map_pid_childrenOf (keyed : table.Keyed) (pid : Pid) :
    (table.childrenOf pid).map (·.pid)
      = table.keys.filter fun child => table.parent? child == some pid := by
  unfold childrenOf SortedMap.values SortedMap.keys
  rw [List.filter_map, List.filter_map, List.map_map]
  have hsame : ∀ e ∈ table.entries,
      (e.2.parent == some pid) = (table.parent? e.1 == some pid) := by
    rintro ⟨child, p⟩ he
    rw [parent?_of_get? (SortedMap.mem_entries_iff.1 he)]
  refine (congrArg (List.map _) (List.filter_congr hsame)).trans (List.map_congr_left ?_)
  rintro ⟨child, p⟩ he
  exact keyed child p (SortedMap.mem_entries_iff.1 (List.mem_filter.1 he).1)

/-- A process descends from another one exactly if that is an ancestor of it, by at least a step. -/
theorem descends_iff :
    table.Descends pid root ↔ ∃ n, table.ancestor? (n + 1) pid = some root := by
  constructor
  · -- one step of descent is one step up the tree
    intro h
    induction h with
    | child h => exact ⟨0, by rw [ancestor?, h]; rfl⟩
    | step h _ ih =>
      obtain ⟨n, hn⟩ := ih
      exact ⟨n + 1, by rw [ancestor?, h]; exact hn⟩
  · rintro ⟨n, hn⟩
    induction n generalizing pid with
    | zero =>
      obtain ⟨parent, hparent, heq⟩ := Option.bind_eq_some_iff.1 hn
      exact .child (hparent.trans heq)
    | succ n ih =>
      obtain ⟨parent, hparent, hrest⟩ := Option.bind_eq_some_iff.1 hn
      exact .step hparent (ih hrest)

/-- A bounded walk arrives exactly if some generation within the bound is a root. -/
theorem leadsTo_iff {steps : Nat} : table.leadsTo roots steps pid = true ↔
    ∃ n ≤ steps, ∃ root ∈ roots, table.ancestor? n pid = some root := by
  -- each step either stands at a root already or goes on from the parent
  induction steps generalizing pid with
  | zero =>
    constructor
    · intro h
      exact ⟨0, Nat.le_refl 0, pid, List.contains_iff_mem.1 h, rfl⟩
    · rintro ⟨n, hn, root, hroot, harrives⟩
      obtain rfl := Nat.le_zero.1 hn
      cases harrives
      exact leadsTo_of_mem hroot 0
  | succ steps ih =>
    constructor
    · intro h
      rw [leadsTo, Bool.or_eq_true] at h
      rcases h with hroot | hparent
      · exact ⟨0, Nat.zero_le _, pid, List.contains_iff_mem.1 hroot, rfl⟩
      · split at hparent
        next parent hp =>
          obtain ⟨n, hn, root, hroot, harrives⟩ := ih.1 hparent
          refine ⟨n + 1, Nat.succ_le_succ hn, root, hroot, ?_⟩
          rw [ancestor?, hp]
          exact harrives
        next => cases hparent
    · rintro ⟨n, hn, root, hroot, harrives⟩
      cases n with
      | zero =>
        cases harrives
        exact leadsTo_of_mem hroot _
      | succ n =>
        obtain ⟨parent, hp, harrives⟩ := Option.bind_eq_some_iff.1 harrives
        have hparent : table.leadsTo roots steps parent = true :=
          ih.2 ⟨n, Nat.le_of_succ_le_succ hn, root, hroot, harrives⟩
        rw [leadsTo, hp, Bool.or_eq_true]
        exact .inr hparent

/-! ## The first arrival

Parents may go round in a circle, so a walk up the tree can arrive at a root more than once. The
first arrival is unique and takes no more steps than there are records, and it gives each process
its level. -/

/-- The walk from a process comes to one of some roots after `n` steps, and not before. -/
structure Arrives (table : ProcessTable) (roots : List Pid) (n : Nat) (pid : Pid) : Prop where
  arrives : ∃ root ∈ roots, table.ancestor? n pid = some root
  not_before : ∀ k < n, ∀ root ∈ roots, table.ancestor? k pid ≠ some root

/-- A walk that comes to a root does so for the first time at some point. -/
theorem arrives_of_ancestor? (hroot : root ∈ roots) (h : table.ancestor? n pid = some root) :
    ∃ k ≤ n, table.Arrives roots k pid := by
  classical
  have hexists : ∃ k, ∃ root ∈ roots, table.ancestor? k pid = some root := ⟨n, root, hroot, h⟩
  refine ⟨Nat.find hexists, Nat.find_min' hexists ⟨root, hroot, h⟩, Nat.find_spec hexists, ?_⟩
  intro k hk root' hroot' heq
  exact Nat.find_min hexists hk ⟨root', hroot', heq⟩

/-- Before the first arrival a walk meets no process twice. -/
theorem Arrives.ne_of_lt (h : table.Arrives roots n pid) {i j : Nat} (hij : i < j) (hjn : j < n) :
    table.ancestor? i pid ≠ table.ancestor? j pid := by
  intro heq
  obtain ⟨root, hroot, harrives⟩ := h.arrives
  -- from the second meeting on the walk goes as from the first, so it had arrived earlier
  have hsplit : table.ancestor? (j + (n - j)) pid = table.ancestor? (i + (n - j)) pid := by
    rw [ancestor?_add, ancestor?_add, heq]
  rw [Nat.add_sub_of_le (Nat.le_of_lt hjn), harrives] at hsplit
  exact h.not_before (i + (n - j)) (by omega) root hroot hsplit.symm

/-- The number of steps to the first root on the way is determined. -/
theorem Arrives.unique {n' : Nat} (h : table.Arrives roots n pid)
    (h' : table.Arrives roots n' pid) : n = n' := by
  obtain ⟨root, hroot, harrives⟩ := h.arrives
  obtain ⟨root', hroot', harrives'⟩ := h'.arrives
  rcases Nat.lt_trichotomy n n' with hlt | heq | hgt
  · exact absurd harrives (h'.not_before n hlt root hroot)
  · exact heq
  · exact absurd harrives' (h.not_before n' hgt root' hroot')

/-- A walk that meets no root on its way to a process arrives as many steps later as that one. -/
theorem Arrives.below {r : Nat} {ancestor : Pid} (h : table.Arrives roots r ancestor)
    (hancestor : table.ancestor? n pid = some ancestor)
    (before : ∀ k < n, ∀ root ∈ roots, table.ancestor? k pid ≠ some root) :
    table.Arrives roots (n + r) pid := by
  have hsplit (k : Nat) : table.ancestor? (n + k) pid = table.ancestor? k ancestor := by
    rw [ancestor?_add, hancestor, Option.bind_some]
  obtain ⟨root, hroot, harrives⟩ := h.arrives
  refine ⟨⟨root, hroot, (hsplit r).trans harrives⟩, ?_⟩
  intro k hk root' hroot'
  by_cases hbefore : k < n
  · exact before k hbefore root' hroot'
  · obtain ⟨e, rfl⟩ := Nat.exists_eq_add_of_le (Nat.le_of_not_lt hbefore)
    rw [hsplit]
    exact h.not_before e (by omega) root' hroot'

/-- All processes that a walk meets before its end are tracked. -/
theorem tracked_of_ancestor? (h : table.ancestor? n pid = some root) {k : Nat} (hk : k < n) :
    ∃ ancestor ∈ table.keys, table.ancestor? k pid = some ancestor := by
  have hsplit : table.ancestor? (k + (n - k)) pid = some root := by
    rw [Nat.add_sub_of_le (Nat.le_of_lt hk), h]
  obtain ⟨m, hm⟩ := Nat.exists_eq_succ_of_ne_zero (Nat.sub_ne_zero_of_lt hk)
  rw [ancestor?_add, hm] at hsplit
  obtain ⟨ancestor, hancestor, hrest⟩ := Option.bind_eq_some_iff.1 hsplit
  obtain ⟨parent, hparent, _⟩ := Option.bind_eq_some_iff.1 hrest
  exact ⟨ancestor, mem_keys_of_parent? hparent, hancestor⟩

/-- A walk comes to a root for the first time within as many steps as there are records. -/
theorem Arrives.le_size (h : table.Arrives roots n pid) : n ≤ table.size := by
  obtain ⟨root, _, harrives⟩ := h.arrives
  -- the processes on the way are distinct and tracked, so there are no more of them than records
  let met (k : Nat) : Pid := (table.ancestor? k pid).getD pid
  have hmet {k : Nat} (hk : k < n) : met k ∈ table.keys ∧ table.ancestor? k pid = some (met k) := by
    obtain ⟨ancestor, htracked, hancestor⟩ := tracked_of_ancestor? harrives hk
    have heq : met k = ancestor := by
      show (table.ancestor? k pid).getD pid = ancestor
      rw [hancestor]
      rfl
    exact ⟨heq ▸ htracked, heq ▸ hancestor⟩
  have hnodup : ((List.range n).map met).Nodup := by
    refine List.pairwise_map.2 (List.pairwise_lt_range.imp_of_mem ?_)
    intro i j hi hj hlt heq
    rw [List.mem_range] at hi hj
    exact h.ne_of_lt hlt hj (by rw [(hmet hi).2, (hmet hj).2, heq])
  have hsubset : (List.range n).map met ⊆ table.keys := by
    intro q hq
    obtain ⟨k, hk, rfl⟩ := List.mem_map.1 hq
    exact (hmet (List.mem_range.1 hk)).1
  have hle := (hnodup.subperm hsubset).length_le
  have hsize : table.keys.length = table.size := List.length_map ..
  rwa [List.length_map, List.length_range, hsize] at hle

/-- The bound of a family does not cut off any walk. -/
theorem leadsTo_size_iff : table.leadsTo roots table.size pid = true ↔
    ∃ n, ∃ root ∈ roots, table.ancestor? n pid = some root := by
  rw [leadsTo_iff]
  constructor
  · rintro ⟨n, _, h⟩
    exact ⟨n, h⟩
  · rintro ⟨n, root, hroot, h⟩
    obtain ⟨k, _, harrives⟩ := arrives_of_ancestor? hroot h
    exact ⟨k, harrives.le_size, harrives.arrives⟩

/-! ## Families -/

/-- A process is in the family of some roots exactly if it is tracked and one of them is an ancestor
of it or itself. -/
theorem mem_family_iff_ancestor? : pid ∈ table.family roots ↔
    pid ∈ table.keys ∧ ∃ n, ∃ root ∈ roots, table.ancestor? n pid = some root := by
  unfold family
  rw [List.mem_filter, leadsTo_size_iff]

/-- A family holds the tracked processes that are roots or descend from one. -/
theorem mem_family_iff : pid ∈ table.family roots ↔
    pid ∈ table.keys ∧ ∃ root ∈ roots, pid = root ∨ table.Descends pid root := by
  rw [mem_family_iff_ancestor?]
  refine and_congr_right fun _ => ?_
  constructor
  · rintro ⟨n, root, hroot, h⟩
    cases n with
    | zero => exact ⟨root, hroot, .inl (Option.some.inj h)⟩
    | succ n => exact ⟨root, hroot, .inr (descends_iff.2 ⟨n, h⟩)⟩
  · rintro ⟨root, hroot, rfl | h⟩
    · exact ⟨0, pid, hroot, rfl⟩
    · obtain ⟨n, hn⟩ := descends_iff.1 h
      exact ⟨n + 1, root, hroot, hn⟩

/-- A tracked process whose parent belongs to a family belongs to it too. -/
theorem mem_family_of_parent? {parent : Pid} (h : table.parent? pid = some parent)
    (hparent : parent ∈ table.family roots) : pid ∈ table.family roots := by
  obtain ⟨_, n, root, hroot, harrives⟩ := mem_family_iff_ancestor?.1 hparent
  refine mem_family_iff_ancestor?.2 ⟨mem_keys_of_parent? h, n + 1, root, hroot, ?_⟩
  rw [ancestor?, h]
  exact harrives

end ProcessTable

end ProcessWatch
