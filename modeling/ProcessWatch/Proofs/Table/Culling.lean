import Mathlib.Logic.Function.Iterate
import ProcessWatch.Proofs.Table.Ancestors
import ProcessWatch.Proofs.Table.Changes

/-!
# Which processes are culled

A status removes the families of the processes that it lets expire, and nothing else. A family can
be found from above as well: mark the roots, and then again and again the children of what was
marked. Such a marking ends on any table, since every step takes up a process that was marked and
marks each at most once, and it marks the family.

## The architecture

* **`Marking`**, **`Marking.step`** — what is marked, and what is still to be taken up.
* **`Marking.Valid`** — the invariant: what is marked belongs to the family, and the children of
  what was taken up are marked.
* **`Marking.work`** — the steps that are left; `pending_iterate_step` for the end of the marking.
* **`ProcessRecord.Expires`** — a status lets a process expire.
* **`culls_expired_families`** — what is culled, what stays, and how it is found.
-/

namespace ProcessWatch

open ProcessTable (parent?_of_get? map_pid_childrenOf mem_keys_of_parent? mem_family_iff)

/-! ## Marking families from above -/

/-- A walk from some processes down to their families. -/
structure Marking where
  marked : List Pid
  /-- What was marked and not yet taken up, the latest first. -/
  pending : List Pid

namespace Marking

variable {table : ProcessTable} {roots : List Pid} {m : Marking} {pid child : Pid}

def start (roots : List Pid) : Marking := ⟨roots, roots.reverse⟩

/-- The children of a process that are not marked yet. -/
def fresh (table : ProcessTable) (marked : List Pid) (pid : Pid) : List Pid :=
  ((table.childrenOf pid).map (·.pid)).filter fun child => !marked.contains child

/-- Takes up the process that was marked last, and marks its children. -/
def step (table : ProcessTable) (m : Marking) : Marking :=
  match m.pending with
  | [] => m
  | pid :: rest =>
    ⟨m.marked ++ fresh table m.marked pid, (fresh table m.marked pid).reverse ++ rest⟩

/-- The marking of a family, with a step for every root and every record. -/
def ofRoots (table : ProcessTable) (roots : List Pid) : Marking :=
  (step table)^[roots.length + table.size] (start roots)

/-- What is marked anew for a process are its children that are not marked already. -/
theorem mem_fresh (keyed : table.Keyed) {marked : List Pid} :
    child ∈ fresh table marked pid ↔ table.parent? child = some pid ∧ child ∉ marked := by
  unfold fresh
  rw [map_pid_childrenOf keyed, List.mem_filter, List.mem_filter]
  simp only [beq_iff_eq, Bool.not_eq_eq_eq_not, Bool.not_true, List.contains_eq_mem,
    decide_eq_false_iff_not]
  exact and_congr_left fun _ => and_iff_right_of_imp mem_keys_of_parent?

/-- What is marked belongs to the family of the roots, and so do the children of all that was taken
up. -/
structure Valid (table : ProcessTable) (roots : List Pid) (m : Marking) : Prop where
  roots_marked : ∀ root ∈ roots, root ∈ m.marked
  sound : ∀ pid ∈ m.marked, ∃ root ∈ roots, pid = root ∨ table.Descends pid root
  pending_marked : ∀ pid ∈ m.pending, pid ∈ m.marked
  closed : ∀ parent ∈ m.marked, parent ∈ m.pending ∨
    ∀ child, table.parent? child = some parent → child ∈ m.marked

/-- At the start the roots are marked and all of them are still to be taken up. -/
theorem valid_start (table : ProcessTable) (roots : List Pid) :
    (start roots).Valid table roots where
  roots_marked := fun _ hroot => hroot
  sound := fun pid hpid => ⟨pid, hpid, .inl rfl⟩
  pending_marked := fun _ hpid => List.mem_reverse.1 hpid
  closed := fun _ hparent => .inl (List.mem_reverse.2 hparent)

/-- A step keeps the invariant. Only the process that is taken up leaves the pending ones, and its
children are marked in the same step. -/
theorem Valid.step (h : m.Valid table roots) (keyed : table.Keyed) :
    (m.step table).Valid table roots := by
  obtain ⟨marked, pending⟩ := m
  cases pending with
  | nil => exact h
  | cons pid rest =>
    have hpid : pid ∈ marked := h.pending_marked pid List.mem_cons_self
    -- the roots, soundness, the pending ones, closure
    refine ⟨?_, ?_, ?_, ?_⟩
    · intro root hroot
      exact List.mem_append_left _ (h.roots_marked root hroot)
    · intro child hchild
      rcases List.mem_append.1 hchild with hbefore | hfresh
      · exact h.sound child hbefore
      · -- a child of a root, or of what descends from one, descends from it
        have hparent := ((mem_fresh keyed).1 hfresh).1
        obtain ⟨root, hroot, rfl | hdescends⟩ := h.sound pid hpid
        · exact ⟨pid, hroot, .inr (.child hparent)⟩
        · exact ⟨root, hroot, .inr (.step hparent hdescends)⟩
    · intro q hq
      rcases List.mem_append.1 hq with hfresh | hrest
      · exact List.mem_append_right _ (List.mem_reverse.1 hfresh)
      · exact List.mem_append_left _ (h.pending_marked q (List.mem_cons_of_mem _ hrest))
    · intro parent hparent
      rcases List.mem_append.1 hparent with hbefore | hfresh
      · -- closure asks most: what was marked may be taken up just now, be pending still, or have
        -- been taken up before
        by_cases htaken : parent = pid
        · -- the children of what is taken up are marked now, if they were not before
          subst htaken
          refine .inr fun child hchild => List.mem_append.2 ?_
          by_cases hmarked : child ∈ marked
          · exact .inl hmarked
          · exact .inr ((mem_fresh keyed).2 ⟨hchild, hmarked⟩)
        · rcases h.closed parent hbefore with hpending | hchildren
          · have hrest := (List.mem_cons.1 hpending).resolve_left htaken
            exact .inl (List.mem_append_right _ hrest)
          · exact .inr fun child hchild => List.mem_append_left _ (hchildren child hchild)
      · exact .inl (List.mem_append_left _ (List.mem_reverse.2 hfresh))

/-- So every number of steps keeps it. -/
theorem valid_iterate_step (keyed : table.Keyed) (h : m.Valid table roots) (n : Nat) :
    ((Marking.step table)^[n] m).Valid table roots := by
  induction n generalizing m with
  | zero => exact h
  | succ n ih => exact ih (h.step keyed)

/-- Once nothing is left to be taken up, all that descends from a root is marked. -/
theorem Valid.mem_marked_iff (h : m.Valid table roots) (done : m.pending = []) :
    pid ∈ m.marked ↔ ∃ root ∈ roots, pid = root ∨ table.Descends pid root := by
  have hclosed {parent child : Pid} (hparent : parent ∈ m.marked)
      (hchild : table.parent? child = some parent) : child ∈ m.marked := by
    rcases h.closed parent hparent with hpending | hchildren
    · rw [done] at hpending
      cases hpending
    · exact hchildren child hchild
  refine ⟨h.sound pid, ?_⟩
  rintro ⟨root, hroot, rfl | hdescends⟩
  · exact h.roots_marked pid hroot
  · -- down from the root, parent by parent
    have hmarked := h.roots_marked root hroot
    induction hdescends with
    | child hparent => exact hclosed hmarked hparent
    | step hparent _ ih => exact hclosed (ih hroot hmarked) hparent

/-! ## The end of a marking

A step takes up one pending process and marks some that were not marked. Both are paid for by what
is left: a process is pending once at most, as it is marked only once. -/

/-- The steps that a marking has left: what is pending is taken up, and what is not marked may be
marked and taken up later. -/
def work (table : ProcessTable) (m : Marking) : Nat :=
  m.pending.length + table.keys.countP fun pid => !m.marked.contains pid

/-- At first there is at most a step for every root and every record to do. -/
theorem work_start_le (table : ProcessTable) (roots : List Pid) :
    (start roots).work table ≤ roots.length + table.size := by
  have hkeys : table.keys.length = table.size := List.length_map ..
  have hunmarked := List.countP_le_length (p := fun pid => !roots.contains pid) (l := table.keys)
  show roots.reverse.length + _ ≤ _
  rw [List.length_reverse, ← hkeys]
  exact Nat.add_le_add_left hunmarked _

/-- Each process that a step marks is one that was not marked before it. -/
theorem countP_step (keyed : table.Keyed) (marked : List Pid) (pid : Pid) :
    (fresh table marked pid).length
        + table.keys.countP (fun child => !(marked ++ fresh table marked pid).contains child)
      = table.keys.countP fun child => !marked.contains child := by
  -- the unmarked pids are split by whether they are children of the process
  have hsplit := List.length_eq_countP_add_countP (fun child => table.parent? child == some pid)
    (l := table.keys.filter fun child => !marked.contains child)
  have hfresh : (fresh table marked pid).length = (table.keys.filter fun child =>
      !marked.contains child).countP fun child => table.parent? child == some pid := by
    unfold fresh
    rw [map_pid_childrenOf keyed, List.countP_eq_length_filter, List.filter_comm]
  have hrest : (table.keys.countP fun child =>
      !(marked ++ fresh table marked pid).contains child) = (table.keys.filter fun child =>
        !marked.contains child).countP fun child => decide ¬(table.parent? child == some pid) := by
    rw [List.countP_filter]
    refine List.countP_congr fun child _ => ?_
    simp [mem_fresh keyed]
    grind
  rw [hfresh, hrest, ← hsplit, List.countP_eq_length_filter]

/-- Each step does one of them. -/
theorem work_step (keyed : table.Keyed) (h : m.pending ≠ []) :
    (m.step table).work table + 1 = m.work table := by
  obtain ⟨marked, pending⟩ := m
  cases pending with
  | nil => exact absurd rfl h
  | cons pid rest =>
    have hcount := countP_step keyed marked pid
    simp only [work, step, List.length_append, List.length_reverse, List.length_cons]
    omega

/-- A marking ends when its work is done. -/
theorem pending_iterate_step (keyed : table.Keyed) {n : Nat} (h : m.work table ≤ n) :
    ((Marking.step table)^[n] m).pending = [] := by
  induction n generalizing m with
  | zero =>
    have hlength : m.pending.length = 0 := by
      unfold work at h
      omega
    exact List.length_eq_zero_iff.1 hlength
  | succ n ih =>
    rw [Function.iterate_succ_apply]
    cases hpending : m.pending with
    | nil =>
      -- nothing happens any more
      have hstays : m.step table = m := by
        unfold step
        rw [hpending]
      have hrest : ((Marking.step table)^[n] m) = m := Function.iterate_fixed hstays n
      rw [hstays, hrest, hpending]
    | cons pid rest =>
      have hwork := work_step keyed (m := m) (by rw [hpending]; exact List.cons_ne_nil _ _)
      exact ih (by omega)

/-- A marking ends, and marks what is a root or descends from one. -/
theorem mem_marked_ofRoots (keyed : table.Keyed) (roots : List Pid) :
    (ofRoots table roots).pending = [] ∧ ∀ pid, pid ∈ (ofRoots table roots).marked ↔
      ∃ root ∈ roots, pid = root ∨ table.Descends pid root := by
  have done : (ofRoots table roots).pending = [] :=
    pending_iterate_step keyed (work_start_le table roots)
  have valid : (ofRoots table roots).Valid table roots :=
    valid_iterate_step keyed (valid_start table roots) _
  exact ⟨done, fun pid => valid.mem_marked_iff done⟩

end Marking

/-! ## Expiry -/

namespace ProcessRecord

variable {limit : UInt32} {reported : ReportedFiles} {p : ProcessRecord}

/-- The number of cycles that a process has been stopped for, with one more that leaves it out. -/
def cyclesGone (p : ProcessRecord) : Nat :=
  match p.age with
  | some age => age.toNat + 1
  | none => 1

/-- After a status that reports these files a process does not run, and it has been stopped for more
cycles than the limit. -/
structure Expires (limit : UInt32) (reported : ReportedFiles) (p : ProcessRecord) : Prop where
  stopped : p.isRunning = true → reported.get? p.pid = none
  old : limit.toNat < p.cyclesGone

/-- The age of a process is not the greatest one. -/
def Young (p : ProcessRecord) : Prop := ∀ age, p.age = some age → age < 4294967295

/-- The age that a stopped process gets next is the number of cycles it is gone, as long as its age
has not reached the greatest one. -/
theorem toNat_nextAge (young : p.Young) : p.nextAge.toNat = p.cyclesGone := by
  unfold nextAge cyclesGone
  cases hage : p.age with
  | none => rfl
  | some age => exact toNat_succ_age (young age hage)

/-- A record is called expired after it was settled exactly if the status lets it expire. -/
theorem isExpired_settle_iff (young : p.Young) :
    (p.settle reported).isExpired limit = true ↔ p.Expires limit reported := by
  -- it does not run any more: it was stopped before, or the status leaves it out
  have hstopped : (p.isRunning && reported.contains p.pid) = false ↔
      (p.isRunning = true → reported.get? p.pid = none) := by
    cases p.isRunning <;> simp [SortedMap.contains]
  rw [isExpired, settle_isRunning, settle_age]
  constructor
  · intro h
    obtain ⟨hgone, hage⟩ := Bool.and_eq_true_iff.1 h
    rw [Bool.not_eq_true'] at hgone
    rw [hgone] at hage
    refine ⟨hstopped.1 hgone, ?_⟩
    rw [← toNat_nextAge young, ← UInt32.lt_iff_toNat_lt]
    exact of_decide_eq_true hage
  · rintro ⟨hgone, hold⟩
    rw [← toNat_nextAge young, ← UInt32.lt_iff_toNat_lt] at hold
    rw [hstopped.2 hgone]
    simpa using hold

end ProcessRecord

/-! ## What is culled -/

namespace ProcessTable

variable {table : ProcessTable} {limit : UInt32} {reported : ReportedFiles} {pid root : Pid}

theorem parent?_settled (table : ProcessTable) (reported : ReportedFiles) :
    (table.settled reported).parent? = table.parent? := by
  funext pid
  unfold parent?
  rw [get?_settled]
  cases table.get? pid with
  | none => rfl
  | some p => exact ProcessRecord.settle_parent reported p

/-- What a status leaves out changes no parents. -/
theorem descends_settled_iff :
    (table.settled reported).Descends pid root ↔ table.Descends pid root := by
  have hparents := parent?_settled table reported
  constructor
  · intro h
    induction h with
    | child h => exact .child (hparents ▸ h)
    | step h _ ih => exact .step (hparents ▸ h) ih
  · intro h
    induction h with
    | child h => exact .child (hparents ▸ h)
    | step h _ ih => exact .step (hparents ▸ h) ih

/-- The expired records of the settled table are those that the status lets expire. -/
theorem mem_expired_settled_iff (keyed : table.Keyed)
    (young : ∀ pid p, table.get? pid = some p → p.Young) :
    root ∈ (table.settled reported).expired limit ↔
      ∃ p, table.get? root = some p ∧ p.Expires limit reported := by
  rw [mem_expired_iff (keyed.settled reported), get?_settled]
  constructor
  · rintro ⟨_, hp, hexpired⟩
    obtain ⟨p, hbefore, rfl⟩ := Option.map_eq_some_iff.1 hp
    exact ⟨p, hbefore, (ProcessRecord.isExpired_settle_iff (young root p hbefore)).1 hexpired⟩
  · rintro ⟨p, hp, hexpires⟩
    refine ⟨p.settle reported, by rw [hp]; rfl, ?_⟩
    exact (ProcessRecord.isExpired_settle_iff (young root p hp)).2 hexpires

/-- The marking of all that a status lets expire. -/
def marking (table : ProcessTable) (limit : UInt32) (reported : ReportedFiles) : Marking :=
  .ofRoots (table.settled reported) ((table.settled reported).expired limit)

/-- What comes down to a tracked root is tracked. -/
theorem tracked_of_root_or_descends {roots : List Pid} (tracked : ∀ root ∈ roots, root ∈ table.keys)
    (h : ∃ root ∈ roots, pid = root ∨ table.Descends pid root) : pid ∈ table.keys := by
  obtain ⟨root, hroot, rfl | hdescends⟩ := h
  · exact tracked pid hroot
  · cases hdescends with
    | child hparent => exact mem_keys_of_parent? hparent
    | step hparent _ => exact mem_keys_of_parent? hparent

/-- The settled table tracks the same processes. -/
theorem mem_keys_settled_iff : pid ∈ (table.settled reported).keys ↔ table.Tracks pid := by
  rw [SortedMap.mem_keys_iff, get?_settled, Option.isSome_map]
  exact Iff.rfl

/-- What is culled is what comes down to a process that expires. -/
theorem mem_culled_iff (keyed : table.Keyed) (young : ∀ pid p, table.get? pid = some p → p.Young) :
    pid ∈ table.culled limit reported ↔ table.Tracks pid ∧ ∃ root p,
      (pid = root ∨ table.Descends pid root) ∧ table.get? root = some p ∧
        p.Expires limit reported := by
  unfold culled
  rw [mem_family_iff, mem_keys_settled_iff]
  refine and_congr_right fun _ => ?_
  constructor
  · rintro ⟨root, hroot, hbelow⟩
    obtain ⟨p, hp, hexpires⟩ := (mem_expired_settled_iff keyed young).1 hroot
    exact ⟨root, p, hbelow.imp_right descends_settled_iff.1, hp, hexpires⟩
  · rintro ⟨root, p, hbelow, hp, hexpires⟩
    have hroot : root ∈ (table.settled reported).expired limit :=
      (mem_expired_settled_iff keyed young).2 ⟨p, hp, hexpires⟩
    exact ⟨root, hroot, hbelow.imp_right descends_settled_iff.2⟩

/-- A process that stays has no parent that is culled: it would have gone with it. -/
theorem parent_not_culled {p : ProcessRecord} {parent : Pid}
    (hp : (table.reconcile limit reported).1.get? pid = some p) (hparent : p.parent = some parent) :
    parent ∉ table.culled limit reported := by
  intro hculled
  rw [get?_reconcile] at hp
  split at hp
  next => cases hp
  next hkept =>
    obtain ⟨before, hbefore, rfl⟩ := Option.map_eq_some_iff.1 hp
    rw [ProcessRecord.settle_parent] at hparent
    have hsettled : (table.settled reported).parent? pid = some parent := by
      rw [parent?_settled, parent?_of_get? hbefore, hparent]
    exact hkept (mem_family_of_parent? hsettled hculled)

/-- What a status removes from a table, whatever the parents in it are: the processes that it lets
expire, and those from which steps to parents, through tracked records, lead to one of them. They
are named in ascending order, no other record is removed, and none that stays has a parent that was.
The marking of their families from above ends, and finds the same. -/
theorem culls_expired_families (keyed : table.Keyed)
    (young : ∀ pid p, table.get? pid = some p → p.Young) {after : ProcessTable} {changes : Changes}
    (h : table.reconcile limit reported = (after, changes)) :
    (∀ pid, pid ∈ changes.culled ↔ table.Tracks pid ∧ ∃ root p,
      (pid = root ∨ table.Descends pid root) ∧ table.get? root = some p ∧
        p.Expires limit reported) ∧
    changes.culled.Pairwise (· < ·) ∧
    (∀ pid, after.Tracks pid ↔ table.Tracks pid ∧ pid ∉ changes.culled) ∧
    (∀ pid p parent, after.get? pid = some p → p.parent = some parent →
      parent ∉ changes.culled) ∧
    (table.marking limit reported).pending = [] ∧
    (∀ pid, pid ∈ (table.marking limit reported).marked ↔ pid ∈ changes.culled) := by
  obtain rfl : (table.reconcile limit reported).1 = after := congrArg Prod.fst h
  obtain rfl : (table.reconcile limit reported).2 = changes := congrArg Prod.snd h
  have keyed' := keyed.settled reported
  obtain ⟨done, hmarked⟩ :=
    Marking.mem_marked_ofRoots keyed' ((table.settled reported).expired limit)
  -- the marking does not look whether its roots are tracked, the family does
  have tracked : ∀ root ∈ (table.settled reported).expired limit,
      root ∈ (table.settled reported).keys := by
    intro root hroot
    obtain ⟨p, hp, _⟩ := (mem_expired_iff keyed').1 hroot
    exact SortedMap.mem_keys_of_get? hp
  refine ⟨fun pid => mem_culled_iff keyed young, ascending_culled table limit reported,
    fun pid => tracks_reconcile, fun pid p parent => parent_not_culled, done, fun pid => ?_⟩
  have hfamily : pid ∈ (table.reconcile limit reported).2.culled ↔
      pid ∈ (table.settled reported).keys ∧ ∃ root ∈ (table.settled reported).expired limit,
        pid = root ∨ (table.settled reported).Descends pid root := mem_family_iff
  rw [hfamily, marking, hmarked, and_iff_right_of_imp]
  exact tracked_of_root_or_descends tracked

/-- The record of a process that runs. -/
def kin (pid : Pid) (parent : Option Pid) : ProcessRecord :=
  ⟨pid, parent, false, true, none, none, [], .empty ⟨1, Nat.one_pos⟩, .empty⟩

/-- Two generations below a process that has stopped, two processes that are the parents of each
other, one that is its own parent, and one with an untracked parent. -/
def tangled : ProcessTable :=
  .ofList [(1, { kin 1 none with isRunning := false, age := some 2 }), (2, kin 2 (some 1)),
    (3, kin 3 (some 2)), (4, kin 4 (some 5)), (5, kin 5 (some 4)), (6, kin 6 (some 6)),
    (7, kin 7 (some 9))]

/-- Process 1 expires and takes 2 and 3 with it, which run. Process 4 is on a cycle of parents of
its own and stays. -/
theorem culls_expired_families_tangled :
    let reported : ReportedFiles := .ofList ([2, 3, 4, 5, 6, 7].map fun pid => (pid, []))
    let changes := (tangled.reconcile 2 reported).2
    changes.culled = [1, 2, 3] ∧
      (∃ root p, (3 = root ∨ tangled.Descends 3 root) ∧ tangled.get? root = some p ∧
        p.Expires 2 reported) ∧
      ¬ (∃ root p, (4 = root ∨ tangled.Descends 4 root) ∧ tangled.get? root = some p ∧
        p.Expires 2 reported) := by
  intro reported changes
  have entries : ∀ e ∈ tangled.entries,
      e.2.pid = e.1 ∧ (e.2.age = none ∨ e.2.age = some 2) := by decide
  have keyed : tangled.Keyed := fun pid p hp =>
    (entries (pid, p) (SortedMap.mem_entries_iff.2 hp)).1
  -- ages are none or 2, so none of them is the greatest one
  have young : ∀ pid p, tangled.get? pid = some p → p.Young := by
    intro pid p hp age hage
    rcases (entries (pid, p) (SortedMap.mem_entries_iff.2 hp)).2 with hnone | hsome
    · rw [hnone] at hage
      cases hage
    · rw [hsome] at hage
      cases hage
      decide
  -- what the run culls is evaluated; what that means for 3 and 4 comes of the theorem
  have hculled : changes.culled = [1, 2, 3] := by decide
  have hreconcile : tangled.reconcile 2 reported = ((tangled.reconcile 2 reported).1, changes) :=
    rfl
  obtain ⟨culled_iff, _⟩ := culls_expired_families keyed young hreconcile
  refine ⟨hculled, ((culled_iff 3).1 ?_).2, fun h => ?_⟩
  · show 3 ∈ changes.culled
    rw [hculled]
    decide
  · have htracked : tangled.Tracks 4 := by
      show (tangled.get? 4).isSome = true
      decide
    have hmem : 4 ∈ changes.culled := (culled_iff 4).2 ⟨htracked, h⟩
    rw [hculled] at hmem
    revert hmem
    decide

end ProcessTable

end ProcessWatch
