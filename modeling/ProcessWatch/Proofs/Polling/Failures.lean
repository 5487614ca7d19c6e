import ProcessWatch.Proofs.Polling.Master
import ProcessWatch.Proofs.Polling.Rounds

/-!
# Cycles without a status

A cycle whose status cannot be had asks for the master process, if that is not known yet, and does
nothing else. Once the master process is known, such cycles make no difference: a run with any
number of them put in anywhere ends with the same tracker, gives the same reports with the same
numbers and asks for the same identities.

* **`Interspersed`** — a list with further items put in.
* **`Tracker.along_of_interspersed`** — a run with failing cycles put in, from a tracker that knows
  the master process.
* **`Tracker.unseen_failures`** — failing cycles in a run, and the numbers of the reports.
-/

namespace ProcessWatch

/-- The second list holds the items of the first one in their order, and before, between and after
them any number of further items, each with a property. -/
inductive Interspersed {α : Type} (p : α → Prop) : List α → List α → Prop where
  | nil : Interspersed p [] []
  | kept (a : α) {items more : List α} (rest : Interspersed p items more) :
      Interspersed p (a :: items) (a :: more)
  | inserted {a : α} {items more : List α} (h : p a) (rest : Interspersed p items more) :
      Interspersed p items (a :: more)

variable {σ : Type}

/-- From this state of the outside no status can be had. -/
def Environment.Fails (env : Environment (StateM σ)) (s : σ) : Prop :=
  ∃ failure, (env.status.run s).1 = .error failure

namespace Tracker

variable {env : Environment (StateM σ)} {settings : Settings} {t : Tracker} {s : σ}

/-- A known master process is not asked for, so the status is all that a cycle begins with. -/
theorem told_of_known (known : t.master.isSome = true) :
    (t.told env s).1 = (env.status.run s).1 := by
  obtain ⟨master, hmaster⟩ := Option.isSome_iff_exists.1 known
  unfold told resolved ensureMaster
  rw [hmaster]
  rfl

/-- The master process stays the one that is known, whatever a cycle is told. -/
theorem master_poll_of_known (known : t.master.isSome = true) :
    (t.poll env settings s).master = t.master := by
  obtain ⟨master, hmaster⟩ := Option.isSome_iff_exists.1 known
  rw [master_poll, resolved_of_known hmaster]

/-- A failing cycle leaves a tracker that knows the master process as it is. -/
theorem poll_of_fails (known : t.master.isSome = true) (h : env.Fails s) :
    t.poll env settings s = t := by
  obtain ⟨failure, hfailure⟩ := h
  obtain ⟨master, hmaster⟩ := Option.isSome_iff_exists.1 known
  rw [poll_of_failed ((told_of_known known).trans hfailure), resolved_of_known hmaster]

theorem report?_of_fails (known : t.master.isSome = true) (h : env.Fails s) :
    t.report? env settings s = none := by
  obtain ⟨failure, hfailure⟩ := h
  exact report?_of_failed ((told_of_known known).trans hfailure)

theorem questions_of_fails (known : t.master.isSome = true) (h : env.Fails s) :
    t.questions env settings s = [] := by
  obtain ⟨failure, hfailure⟩ := h
  obtain ⟨master, hmaster⟩ := Option.isSome_iff_exists.1 known
  rw [questions_of_failed ((told_of_known known).trans hfailure), masterQuestion, hmaster]
  rfl

/-- Failing cycles in a run make no difference, if nothing is seen of them. -/
theorem along_of_interspersed {β : Type} (settings : Settings) (look : Tracker → σ → List β)
    (unseen : ∀ t s, t.master.isSome = true → env.Fails s → look t s = [])
    {sources more : List σ} (h : Interspersed env.Fails sources more)
    (known : t.master.isSome = true) :
    t.pollAll env settings more = t.pollAll env settings sources ∧
      along env settings look t more = along env settings look t sources := by
  induction h generalizing t with
  | nil => exact ⟨rfl, rfl⟩
  | kept s rest ih =>
    have hknown : (t.poll env settings s).master.isSome = true := by
      rw [master_poll_of_known known]
      exact known
    obtain ⟨hlast, hseen⟩ := ih hknown
    rw [pollAll_cons, pollAll_cons, along, along, hseen]
    exact ⟨hlast, rfl⟩
  -- an inserted failure leaves the tracker as it is, so the rest goes on as before
  | inserted hfails rest ih =>
    rw [pollAll_cons, along, unseen t _ known hfails, poll_of_fails known hfails]
    exact ih known

/-- Cycles whose status cannot be had go unseen. Put in anywhere into a run of cycles from a tracker
that knows the master process, any number of them leaves the last tracker, the reports of the other
cycles and the questions for identities as they are. The reports of a run from nothing are numbered
from zero on without a gap. As long as the master process is unknown, such a cycle makes that known
at most, and changes nothing else. -/
theorem unseen_failures (env : Environment (StateM σ)) (settings : Settings) :
    (∀ (t : Tracker) (sources more : List σ), t.master.isSome = true →
      Interspersed env.Fails sources more →
      t.pollAll env settings more = t.pollAll env settings sources ∧
        t.reports env settings more = t.reports env settings sources ∧
        t.asked env settings more = t.asked env settings sources) ∧
    (∀ sources : List σ,
      (reports env settings .empty sources).map (·.index)
          = List.range (reports env settings .empty sources).length ∧
        (polls env settings sources).cycles = (reports env settings .empty sources).length) ∧
    (∀ (t : Tracker) (s : σ) (failure : Failure), t.master = none →
      (t.told env s).1 = .error failure →
      t.report? env settings s = none ∧
        (t.poll env settings s = t ∨
          ∃ master, toldMaster env s = .ok master ∧
            t.poll env settings s = t.setMaster master)) := by
  refine ⟨?_, ?_, ?_⟩
  · -- what is seen of a failing cycle is nothing, for the reports and for the questions
    intro t sources more known inserted
    obtain ⟨hlast, hreports⟩ := along_of_interspersed settings
      (fun t s => (t.report? env settings s).toList)
      (fun t s known hfails => by rw [report?_of_fails known hfails]; rfl) inserted known
    obtain ⟨_, hasked⟩ := along_of_interspersed settings (questions env settings)
      (fun t s known hfails => questions_of_fails known hfails) inserted known
    exact ⟨hlast, hreports, hasked⟩
  · intro sources
    obtain ⟨hindices, hcycles⟩ := reports_numbered env settings .empty sources
    rw [List.range_eq_range', hindices]
    exact ⟨rfl, hcycles.trans (Nat.zero_add _)⟩
  · intro t s failure unknown hfailed
    refine ⟨report?_of_failed hfailed, ?_⟩
    rw [poll_of_failed hfailed, resolved_of_unknown unknown]
    cases toldMaster env s with
    | ok master => exact .inr ⟨master, rfl, rfl⟩
    | error failure => exact .inl rfl

/-- Two statuses that process 1 is asked for after, and three failures around them. -/
theorem unseen_failures_patchy :
    let t := polls scripted .default [sole (.ok ⟨7, none, none, none, []⟩) (.nat 0)]
    let first := sole (.error ⟨"unreachable"⟩) (.nat 1)
    let second := sole (.error ⟨"unreachable"⟩) (.nat 2)
    let silent := Script.anonymous []
    let more := [silent, first, silent, silent, second]
    t.pollAll scripted .default more = t.pollAll scripted .default [first, second] ∧
      (t.reports scripted .default more).map (·.index) = [1, 2] ∧
      t.asked scripted .default more = [some 1, some 1] := by
  intro t first second silent more
  have hsilent : scripted.Fails silent := ⟨_, rfl⟩
  -- three failing cycles, before the first status and between the two
  have inserted : Interspersed scripted.Fails [first, second] more :=
    .inserted hsilent (.kept first (.inserted hsilent (.inserted hsilent (.kept second .nil))))
  obtain ⟨hlast, hreports, hasked⟩ := (unseen_failures scripted .default).1 t _ more
    (by decide) inserted
  refine ⟨hlast, ?_, ?_⟩
  · rw [hreports]
    decide
  · rw [hasked]
    decide

end Tracker

end ProcessWatch
