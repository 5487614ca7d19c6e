import ProcessWatch.Record.Process

/-!
# Families of processes

A table holds the record of every tracked process under its pid. The family of some processes are
they and all whose parents, followed through tracked records, lead to one of them. Parents may form
cycles and may be untracked, so a walk along parents takes at most as many steps as there are
records.
-/

namespace ProcessWatch

/-- The tracked processes. -/
abbrev ProcessTable := SortedMap Pid ProcessRecord

namespace ProcessTable

/-- The parent of a tracked process, if it is known. -/
def parent? (table : ProcessTable) (pid : Pid) : Option Pid := (table.get? pid).bind (·.parent)

/-- Whether at most `steps` steps from `pid` to its parent, the parent of that, and so on lead to
one of `roots`. -/
def leadsTo (table : ProcessTable) (roots : List Pid) : Nat → Pid → Bool
  | 0, pid => roots.contains pid
  | steps + 1, pid =>
    roots.contains pid ||
      match table.parent? pid with
      | some parent => table.leadsTo roots steps parent
      | none => false

/-- The tracked pids of the family of `roots`, ascending. -/
def family (table : ProcessTable) (roots : List Pid) : List Pid :=
  table.keys.filter (table.leadsTo roots table.size)

/-- The records whose parent is `pid`, in the order of their own pids. -/
def childrenOf (table : ProcessTable) (pid : Pid) : List ProcessRecord :=
  table.values.filter fun p => p.parent == some pid

end ProcessTable

end ProcessWatch
