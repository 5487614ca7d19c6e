import Mathlib.Data.List.Induction
import ProcessWatch.Proofs.Polling.Retention
import ProcessWatch.Proofs.Polling.Rounds
import ProcessWatch.Proofs.Tracker.KnownParent

/-!
# Which identities are asked for

A run of cycles asks for the master process in every cycle until an answer tells it, and never
again. It asks for another process where a status has an entry of it without a parent and the
tracker does not know the parent either. So an answer that told the parent is enough until that is
lost again.

* **`Tracker.count_none_questions`**, **`Tracker.master_polls`** — the question for the master
  process, and the cycles that ask it.
* **`Tracker.mem_questions_iff`** — the other questions of a cycle.
* **`Applied.Learns`**, **`Applied.Forgets`** — a status that makes a parent known, and one that
  loses it. Between the two it stays known (`Tracker.Cycles.knowsParent`).
* **`Tracker.identities_asked`** — the questions of a run.
-/

namespace ProcessWatch

namespace Applied

/-- An answer that tells the parent was merged: it is the identity of a process that was asked for
on behalf of one of its entries. -/
def Learns (settings : Settings) (pid : Pid) (a : Applied) : Prop :=
  ∃ s ∈ (Entries.ofStatus a.status).snapshots, ∃ identity : Identity,
    a.tracker.request? s = some pid ∧ .ok identity ∈ a.answers ∧ identity.parent.isSome = true ∧
      (s.withIdentity identity, Fate.merged) ∈ a.tracker.fates settings a.entries

/-- A process stops, is culled, or is reported to have no parent. The report is that of an entry as
it is merged, with its gaps filled: one that an answer told the parent of reports that parent. -/
def Forgets (settings : Settings) (pid : Pid) (a : Applied) : Prop :=
  pid ∈ (a.tracker.apply settings a.entries).2.1.changes.stopped ∨
    pid ∈ (a.tracker.apply settings a.entries).2.1.changes.culled ∨
    ∃ s ∈ a.entries.snapshots, s.pid = some pid ∧ s.parent = .null

variable {a : Applied} {settings : Settings} {pid : Pid}

/-- A status that does not lose the parent has no filled entry that clears it. -/
theorem spared_of_not_forgets (h : ¬ a.Forgets settings pid) :
    ∀ s ∈ a.entries.snapshots, s.pid = some pid → s.parent ≠ .null :=
  fun s hs hpid hnull => h (.inr (.inr ⟨s, hs, hpid, hnull⟩))

end Applied

namespace Tracker

variable {σ : Type} {env : Environment (StateM σ)} {settings : Settings} {t t' : Tracker} {s : σ}
  {pid : Pid}

/-! ## The question for the master process -/

/-- The master process is asked for once in a cycle, or not at all if it is known. -/
theorem count_none_questions :
    (t.questions env settings s).count none = if t.master.isSome then 0 else 1 := by
  have hmaster : (t.masterQuestion.filterMap Sight.asked?).count none
      = if t.master.isSome then 0 else 1 := by
    unfold masterQuestion
    cases t.master <;> rfl
  have hothers (pids : List Pid) : (pids.map some).count none = 0 :=
    List.count_eq_zero.2 (by simp)
  cases htold : (t.told env s).1 with
  | error failure => rw [questions_of_failed htold, hmaster]
  | ok status => rw [questions_of_told htold, List.count_append, hmaster, hothers, Nat.add_zero]

/-- It is known after the question if it was known before or the answer told it. -/
theorem master_resolved :
    (t.resolved env s).1.master.isSome = (t.master.isSome || (toldMaster env s).isOk) := by
  cases hmaster : t.master with
  | some master =>
    rw [resolved_of_known hmaster, hmaster]
    rfl
  | none =>
    rw [resolved_of_unknown hmaster]
    cases toldMaster env s with
    | ok master => rfl
    | error failure =>
      dsimp only
      rw [hmaster]
      rfl

/-- The master process is known once some answer told it. -/
theorem master_polls (env : Environment (StateM σ)) (settings : Settings) (sources : List σ) :
    (polls env settings sources).master.isSome
      = sources.any fun s => (toldMaster env s).isOk := by
  induction sources using List.reverseRecOn with
  | nil => rfl
  | append_singleton sources s ih =>
    rw [polls_concat, master_poll, master_resolved, ih, List.any_append, List.any_cons,
      List.any_nil,
      Bool.or_false]

/-! ## The questions for the others -/

/-- A process is asked for on behalf of an entry of it without a parent, unless it is the master
process or its parent is known. -/
theorem mem_requests_iff {snapshots : List ProcessSnapshot} :
    pid ∈ t.requests snapshots ↔
      t.masterPid ≠ some pid ∧ ¬ t.processes.KnowsParent pid ∧
        ∃ s ∈ snapshots, s.pid = some pid ∧ s.parent.value? = none := by
  unfold requests
  rw [List.mem_filterMap]
  constructor
  · rintro ⟨s, hs, h⟩
    obtain ⟨⟨hpid, hparent, hunknown⟩, hother⟩ := request?_eq_some_iff.1 h
    exact ⟨hother, hunknown, s, hs, hpid, hparent⟩
  · rintro ⟨hother, hunknown, s, hs, hpid, hparent⟩
    exact ⟨s, hs, request?_eq_some_iff.2 ⟨⟨hpid, hparent, hunknown⟩, hother⟩⟩

/-- The question for the master process changes no record. -/
theorem processes_resolved (env : Environment (StateM σ)) (t : Tracker) (s : σ) :
    (t.resolved env s).1.processes = t.processes := by
  rcases resolved_cases env t s with h | ⟨master, h⟩ <;> rw [h]
  rfl

/-- The same for the questions of a whole cycle: there has to be a status, and the records are those
from before the cycle. -/
theorem mem_questions_iff :
    some pid ∈ t.questions env settings s ↔
      ∃ status, (t.told env s).1 = .ok status ∧ (t.resolved env s).1.masterPid ≠ some pid ∧
        ¬ t.processes.KnowsParent pid ∧
        ∃ r ∈ (Entries.ofStatus status).snapshots, r.pid = some pid ∧ r.parent.value? = none := by
  have hmaster : some pid ∉ t.masterQuestion.filterMap Sight.asked? := by
    unfold masterQuestion
    cases t.master <;> simp [Sight.asked?]
  cases htold : (t.told env s).1 with
  | error failure =>
    rw [questions_of_failed htold]
    exact iff_of_false hmaster nofun
  | ok status =>
    rw [questions_of_told htold, List.mem_append, List.mem_map]
    simp only [hmaster, false_or, Except.ok.injEq, exists_eq_left', Option.some.injEq,
      exists_eq_right, mem_requests_iff, processes_resolved]

/-! ## From one answer to the next

Once a parent was merged, the tracker knows it until the process stops, is culled or is reported to
have none. Each of these is told by a single status, so the statuses between two questions can be
asked one by one whether they are to blame. -/

/-- Within the cycle that merges an answer with a parent, the parent becomes known. -/
theorem knowsParent_of_learns {a : Applied} (h : a.Learns settings pid)
    (remembers : ¬ a.Forgets settings pid) :
    (a.tracker.joined settings a.entries).KnowsParent pid := by
  obtain ⟨s, _, identity, hrequest, _, hparent, hmerged⟩ := h
  obtain ⟨hpid, hnone, _⟩ := orphan?_eq_some_iff.1 (Option.filter_eq_some_iff.1 hrequest).1
  obtain ⟨parent, hparent⟩ := Option.isSome_iff_exists.1 hparent
  exact Tracking.knowsParent_foldl_of_merged (t := a.tracker.tracking a.entries) hmerged hpid
    (ProcessSnapshot.parent_withIdentity hnone hparent) (Applied.spared_of_not_forgets remembers)

/-- A status that does not lose the parent of a process keeps it. -/
theorem knowsParent_applied {a : Applied} (wellFormed : a.tracker.WellFormed)
    (h : (a.tracker.joined settings a.entries).KnowsParent pid)
    (remembers : ¬ a.Forgets settings pid) :
    (a.tracker.apply settings a.entries).1.processes.KnowsParent pid :=
  knowsParent_apply wellFormed a.received_entries h (fun hstops => remembers (.inl hstops))
    fun hculled => remembers (.inr (.inl hculled))

/-- Cycles that do not lose the parent of a process keep it. -/
theorem Cycles.knowsParent {statuses : List Applied} (run : Cycles env settings t statuses t')
    (wellFormed : t.WellFormed) (h : t.processes.KnowsParent pid)
    (remembers : ∀ a ∈ statuses, ¬ a.Forgets settings pid) : t'.processes.KnowsParent pid := by
  -- along the cycles; only a status can forget, and none of these does
  induction run with
  | start => exact h
  | failed before hfailed ih =>
    rw [poll_of_failed hfailed, processes_resolved]
    exact ih remembers
  | @told statuses t' s status before htold ih =>
    have hbefore := ih fun a ha => remembers a (List.mem_append_left _ ha)
    have hlast := remembers _ List.mem_concat_self
    have hresolved : (t'.resolved env s).1.processes.KnowsParent pid := by
      rw [processes_resolved]
      exact hbefore
    rw [poll_of_told htold]
    exact knowsParent_applied ((before.wellFormed wellFormed).resolved env s)
      (Tracking.knowsParent_foldl hresolved (Applied.spared_of_not_forgets hlast)) hlast

/-- Cycles from nothing, whatever the outside was in each of them, are cycles in the sense of
`Cycles`. -/
theorem cycles_polls (env : Environment (StateM σ)) (settings : Settings) (sources : List σ) :
    ∃ statuses, Cycles env settings .empty statuses (polls env settings sources) := by
  induction sources using List.reverseRecOn with
  | nil => exact ⟨[], .start⟩
  | append_singleton sources s ih =>
    obtain ⟨statuses, run⟩ := ih
    rw [polls_concat]
    cases htold : ((polls env settings sources).told env s).1 with
    | error failure => exact ⟨_, run.failed htold⟩
    | ok status => exact ⟨_, run.told htold⟩

/-- So all of their records are well-formed. -/
theorem wellFormed_polls (env : Environment (StateM σ)) (settings : Settings) (sources : List σ) :
    (polls env settings sources).WellFormed := by
  obtain ⟨_, run⟩ := cycles_polls env settings sources
  have hempty : Tracker.empty.WellFormed := wellFormed_after (List.forall_mem_nil _)
  exact run.wellFormed hempty

/-- The identities that a cycle asks for, after any cycles that started from nothing. The master
process is asked for once as long as no answer told it, and then no more. Another process is asked
for exactly if the status has a readable entry of it that tells no parent, and it was not running
with a known parent before. After an answer that told its parent was merged, a process is only asked
for again if, by that status or since then, it stopped, was culled or was reported to have no
parent. -/
theorem identities_asked (env : Environment (StateM σ)) (settings : Settings) (before : List σ)
    (s : σ) :
    let t := polls env settings before
    ((t.questions env settings s).count none
      = if before.any fun s => (toldMaster env s).isOk then 0 else 1) ∧
    (∀ pid, some pid ∈ t.questions env settings s ↔
      ∃ status, (t.told env s).1 = .ok status ∧ (t.resolved env s).1.masterPid ≠ some pid ∧
        ¬ t.processes.KnowsParent pid ∧
        ∃ r ∈ (Entries.ofStatus status).snapshots, r.pid = some pid ∧ r.parent.value? = none) ∧
    (∀ pid status, (t.told env s).1 = .ok status → (t.applied env s status).Learns settings pid →
      ∀ more t' s', Cycles env settings (t.poll env settings s) more t' →
        some pid ∈ t'.questions env settings s' →
        ∃ a ∈ t.applied env s status :: more, a.Forgets settings pid) := by
  intro t
  refine ⟨?_, fun pid => mem_questions_iff, ?_⟩
  · rw [count_none_questions, master_polls]
  · intro pid status htold learns more t' s' run asked
    -- if no status in between loses the parent, it is known in the later cycle, which then has no
    -- reason to ask
    refine Classical.byContradiction fun hnone => ?_
    have remembers : ∀ a ∈ t.applied env s status :: more, ¬ a.Forgets settings pid :=
      fun a ha hforgets => hnone ⟨a, ha, hforgets⟩
    obtain ⟨hfirst, hmore⟩ := List.forall_mem_cons.1 remembers
    have wellFormed : t.WellFormed := wellFormed_polls env settings before
    have hlearned : (t.poll env settings s).processes.KnowsParent pid := by
      rw [poll_of_told htold]
      exact knowsParent_applied (wellFormed.resolved env s)
        (knowsParent_of_learns learns hfirst) hfirst
    obtain ⟨_, _, _, hunknown, _⟩ := mem_questions_iff.1 asked
    exact hunknown
      (run.knowsParent ((Cycles.start.told htold).wellFormed wellFormed) hlearned hmore)

/-- A status with one entry, of process 2. -/
def childStatus (entry : Fields) : Status := .byPid [("2", .object entry)]

/-- An outside that serves it. -/
def childScript (entry : Fields) : Script := .family [childStatus entry]

/-- The parent of process 2 is asked for, and asked for again after an entry has cleared it. -/
theorem identities_asked_disowned :
    let t := polls scripted .default [childScript []]
    let disowned := childScript [("parent_pid", .null)]
    ∃ a b, Cycles scripted .default .empty [a, b] (t.poll scripted .default disowned) ∧
      a.Learns .default 2 ∧
      some 2 ∈ (t.poll scripted .default disowned).questions scripted .default (childScript []) ∧
      ∃ c ∈ [a, b], c.Forgets .default 2 := by
  intro t disowned
  have first : Cycles scripted .default .empty _ t := Cycles.told .start rfl
  have later : Cycles scripted .default t _ (t.poll scripted .default disowned) :=
    Cycles.told .start rfl
  -- the entry without a parent is asked for, and the answer is merged
  have learns : (applied scripted .empty (childScript []) (childStatus [])).Learns .default 2 := by
    refine ⟨{ ProcessSnapshot.empty with pid := some 2 }, ?_, ⟨2, some 1, none, none, []⟩,
      by decide,
      ?_, rfl, ?_⟩
    · exact List.mem_singleton.2 rfl
    · exact List.mem_singleton.2 rfl
    · exact List.mem_singleton.2 rfl
  have asked : some 2 ∈
      (t.poll scripted .default disowned).questions scripted .default (childScript []) := by
    decide
  refine ⟨_, _, first.told rfl, learns, asked, ?_⟩
  exact (identities_asked scripted .default [] (childScript [])).2.2
    2 _ rfl learns _ _ _ later asked

end Tracker

end ProcessWatch
