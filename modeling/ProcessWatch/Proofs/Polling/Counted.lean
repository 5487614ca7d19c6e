import Mathlib.Logic.Function.Iterate
import ProcessWatch.Proofs.Polling.Master
import ProcessWatch.Proofs.Polling.Transcript

/-!
# The number of cycles of a run

A run is told after how many cycles it stops, and whether these are enough is only asked after a
cycle. So a run has as many cycles as it is told, but one at least. The observer is called once for
each of them, with what that cycle left behind.

## The architecture

* **`Turn`**, **`Turn.next`** — what one cycle leaves behind, and the cycle that follows on it.
* **`Tracker.turnAfter`** — the cycles one after the other. This knows nothing of a run and of when
  it stops.
* **`Tracker.calls`** — what the observer of a run is shown, call by call.
* **`Tracker.runCycles_recorded`** — the calls and the end of a run, by induction on the cycles that
  are left.
* **`Tracker.run_counted`** — how many cycles a run has; `not_counted_of_none` is the run that is
  told to have none.
-/

namespace ProcessWatch

variable {σ α : Type}

/-! ## Cycle by cycle

The loop tests its bound after a cycle and pauses only before another one. So the induction is on
the cycles that are left after the first, and the first one stands apart. -/

/-- What a cycle leaves behind: the tracker, how the cycle ended, and the outside. -/
structure Turn (σ : Type) where
  tracker : Tracker
  outcome : CycleOutcome
  outside : σ

/-- A cycle, from a tracker and an outside. -/
def Tracker.turn (env : Environment (StateM σ)) (settings : Settings) (t : Tracker) (s : σ) :
    Turn σ :=
  let ended := (t.cycle env settings).run s
  ⟨ended.1.1, ended.1.2, ended.2⟩

namespace Turn

variable (env : Environment (StateM σ)) (settings : Settings)
  (observe : Tracker → CycleOutcome → StateM σ Unit) (turn : Turn σ)

/-- What an observer is shown of a cycle. -/
def shown : Tracker × CycleOutcome := (turn.tracker, turn.outcome)

/-- The outside once the observer has seen the cycle. -/
def observed : σ := ((observe turn.tracker turn.outcome).run turn.outside).2

/-- The next cycle, after the observer and a pause. -/
def next : Turn σ := turn.tracker.turn env settings (env.pause.run (turn.observed observe)).2

end Turn

/-! ## Calls of the observer

An observer may do anything to the outside, so its calls are counted on a transcript beside the
outside, where it cannot reach. -/

/-- The end of a cycle, if it is one. -/
def Sight.ended? : Sight → Option (Tracker × CycleOutcome)
  | asked _ => none
  | ended t outcome => some (t, outcome)

/-- An observer that does what it did, and puts every call of it into a transcript. -/
def recorded (observe : Tracker → CycleOutcome → StateM σ Unit) (t : Tracker)
    (outcome : CycleOutcome) : StateM (σ × List Sight) Unit :=
  jot (observe t outcome) [.ended t outcome]

/-- An outside beside a transcript of these ends of cycles, and whatever was asked. -/
def Recorded (calls : List (Tracker × CycleOutcome)) (s : σ × List Sight) (s' : σ) : Prop :=
  s.1 = s' ∧ s.2.filterMap Sight.ended? = calls

/-- Whatever is jotted down, only the ends of cycles count as calls, so a program that jots none of
them down adds no call. -/
theorem inStep_jot_recorded (calls : List (Tracker × CycleOutcome)) (x : StateM σ α)
    {seen : List Sight} (h : seen.filterMap Sight.ended? = []) :
    InStep (Recorded calls) Eq (jot x seen) x := by
  rintro ⟨s, log⟩ _ ⟨rfl, hlog⟩
  refine ⟨rfl, rfl, ?_⟩
  show (log ++ seen).filterMap Sight.ended? = calls
  rw [List.filterMap_append, h, List.append_nil]
  exact hlog

/-- Only the observer puts the end of a cycle into the transcript. -/
theorem Environment.matches_recorded (env : Environment (StateM σ))
    (calls : List (Tracker × CycleOutcome)) : env.watched.Matches (Recorded calls) env where
  identity pid := inStep_jot_recorded calls (env.identity pid) rfl
  status := by
    intro s s' hs
    have hunseen : ([] : List Sight).filterMap Sight.ended? = [] := rfl
    obtain ⟨hresult, hstate⟩ := inStep_jot_recorded calls env.status hunseen s s' hs
    exact ⟨congrArg _ hresult, hstate⟩
  note notice := inStep_jot_recorded calls (env.note notice) rfl
  pause := inStep_jot_recorded calls env.pause rfl

namespace Tracker

section

variable (env : Environment (StateM σ)) (settings : Settings)
  (observe : Tracker → CycleOutcome → StateM σ Unit)

/-- The cycle that runs after `count` others, from a tracker and an outside at the start. -/
def turnAfter (count : Nat) (t : Tracker) (s : σ) : Turn σ :=
  (Turn.next env settings observe)^[count] (t.turn env settings s)

/-- What the observer is shown by cycles that run until `count` of them ran, call by call. -/
def calls (count : Nat) (t : Tracker) (s : σ) : List (Tracker × CycleOutcome) :=
  ((t.run env.watched settings (recorded observe) count).run (s, [])).2.2.filterMap Sight.ended?

/-- As many cycles one after the other, with nothing in between. -/
def successive : Nat → Tracker → StateM σ Tracker
  | 0, t => return t
  | more + 1, t => do
    let (t, _) ← t.cycle env settings
    successive more t

end

variable {env : Environment (StateM σ)} {settings : Settings}
  {observe : Tracker → CycleOutcome → StateM σ Unit}

/-- A cycle that is recorded does what it does otherwise, and adds no call. -/
theorem cycle_recorded (env : Environment (StateM σ)) (settings : Settings) (t : Tracker) (s : σ)
    (log : List Sight) :
    ∃ log', (t.cycle env.watched settings).run (s, log)
        = ((t.turn env settings s).shown, (t.turn env settings s).outside, log') ∧
      log'.filterMap Sight.ended? = log.filterMap Sight.ended? := by
  obtain ⟨hshown, houtside, hlog⟩ := inStep_cycle
    (env.matches_recorded (log.filterMap Sight.ended?)) settings t (s, log) s ⟨rfl, rfl⟩
  exact ⟨_, Prod.ext hshown (Prod.ext houtside rfl), hlog⟩

/-- All turns but the first are those of a run that starts where the first one ended and the outside
paused. -/
theorem turnAfter_succ (more : Nat) (t : Tracker) (s : σ) :
    let turn := t.turn env settings s
    turnAfter env settings observe (more + 1) t s
      = turnAfter env settings observe more turn.tracker
        (env.pause.run (turn.observed observe)).2 :=
  Function.iterate_succ_apply _ more _

/-- What a run leaves behind, and the calls that it adds. Induction on the cycles after the first
one: they start from what the first one, its observer and a pause left. -/
theorem runCycles_recorded (env : Environment (StateM σ)) (settings : Settings)
    (observe : Tracker → CycleOutcome → StateM σ Unit) (more : Nat) (t : Tracker) (s : σ)
    (log : List Sight) :
    let ended := (runCycles env.watched settings (recorded observe) more t).run (s, log)
    let last := turnAfter env settings observe more t s
    ended.1 = last.tracker ∧ ended.2.1 = last.observed observe ∧
      ended.2.2.filterMap Sight.ended? = log.filterMap Sight.ended? ++
        (List.range (more + 1)).map fun k => (turnAfter env settings observe k t s).shown := by
  induction more generalizing t s log with
  | zero =>
    obtain ⟨log', hcycle, hlog⟩ := cycle_recorded env settings t s log
    unfold runCycles
    rw [run_bind, hcycle]
    refine ⟨rfl, rfl, ?_⟩
    show (log' ++ [Sight.ended _ _]).filterMap Sight.ended? = _
    rw [List.filterMap_append, hlog]
    rfl
  | succ more ih =>
    obtain ⟨log', hcycle, hlog⟩ := cycle_recorded env settings t s log
    let turn := t.turn env settings s
    let noted := log' ++ [Sight.ended turn.tracker turn.outcome]
    -- the turns behind the first one are shifted by one, which is what `List.range` does at its
    -- head
    obtain ⟨htracker, houtside, hcalls⟩ := ih turn.tracker
      (env.pause.run (turn.observed observe)).2 (noted ++ [])
    unfold runCycles
    rw [run_bind, hcycle, run_bind, run_bind, turnAfter_succ]
    refine ⟨htracker, houtside, hcalls.trans ?_⟩
    have hnoted : (noted ++ []).filterMap Sight.ended?
        = log.filterMap Sight.ended? ++ [turn.shown] := by
      rw [List.append_nil, List.filterMap_append, hlog]
      rfl
    rw [hnoted, List.append_assoc, List.range_succ_eq_map (n := more + 1), List.map_cons,
      List.map_map]
    congr 2

/-- Where neither the observer nor a pause matters to the outside, a run is its cycles. -/
theorem runCycles_eq_successive (pauses : ∀ s, (env.pause.run s).2 = s)
    (observes : ∀ t outcome s, ((observe t outcome).run s).2 = s) (more : Nat) (t : Tracker)
    (s : σ) :
    (runCycles env settings observe more t).run s
      = (successive env settings (more + 1) t).run s := by
  induction more generalizing t s with
  | zero =>
    unfold runCycles
    rw [run_bind, run_bind, observes]
    rfl
  | succ more ih =>
    unfold runCycles successive
    rw [run_bind, run_bind, run_bind, run_bind, observes, pauses]
    exact ih _ _

/-- A run has the cycles that it is told to have, one after the other, but one at least. The
observer is called once after each, with what that cycle left behind, and the run ends where the
last one did. If neither the observer nor a pause matters to the outside, that is where as many
cycles with nothing in between end. -/
theorem run_counted (env : Environment (StateM σ)) (settings : Settings)
    (observe : Tracker → CycleOutcome → StateM σ Unit) (count : Nat) (t : Tracker) (s : σ) :
    let turn (k : Nat) : Turn σ := turnAfter env settings observe k t s
    t.calls env settings observe count s
        = (List.range (max count 1)).map (fun k => (turn k).shown) ∧
      (t.run env settings observe count).run s
        = ((turn (max count 1 - 1)).tracker, (turn (max count 1 - 1)).observed observe) ∧
      ((∀ s, (env.pause.run s).2 = s) → (∀ t outcome s, ((observe t outcome).run s).2 = s) →
        (t.run env settings observe count).run s
          = (successive env settings (max count 1) t).run s) := by
  intro turn
  have hcount : max count 1 = count - 1 + 1 := by omega
  obtain ⟨htracker, houtside, hcalls⟩ :=
    runCycles_recorded env settings observe (count - 1) t s []
  -- recording changes nothing, so the run itself ends where the recorded one does
  obtain ⟨hresult, hstate⟩ := inStep_runCycles env.matches_watched settings
    (fun t outcome => inStep_jot_self (observe t outcome) [.ended t outcome]) (count - 1) t
    (s, []) s
    rfl
  rw [hcount]
  refine ⟨hcalls, ?_, ?_⟩
  · rw [Nat.add_sub_cancel]
    exact Prod.ext (hresult.symm.trans htracker) (hstate.symm.trans houtside)
  · intro pauses observes
    exact runCycles_eq_successive pauses observes (count - 1) t s

/-- Three cycles, each with a status of its own. -/
theorem run_counted_thrice :
    let outside := Script.family [.list [], .byPid [("1", .object [])], .list []]
    let observe : Tracker → CycleOutcome → StateM _ Unit := fun _ _ => return
    (calls scripted .default observe 3 .empty outside).map (·.1.cycles) = [1, 2, 3] ∧
      (run scripted .default observe 3 .empty).run outside
        = (successive scripted .default 3 .empty).run outside := by
  intro outside observe
  obtain ⟨hcalls, _, hsuccessive⟩ := run_counted scripted .default observe 3 .empty outside
  refine ⟨?_, hsuccessive (fun _ => rfl) fun _ _ _ => rfl⟩
  rw [hcalls]
  decide

/-- A run that is told to have no cycles has one: the observer is called, and the tracker is not
where no cycle leaves it. -/
theorem not_counted_of_none :
    ¬ ∀ (σ : Type) (env : Environment (StateM σ)) (settings : Settings)
      (observe : Tracker → CycleOutcome → StateM σ Unit) (count : Nat) (t : Tracker) (s : σ),
      (t.calls env settings observe count s).length = count ∧
        ((t.run env settings observe count).run s).1.cycles
          = ((successive env settings count t).run s).1.cycles := by
  intro counted
  have hcalls := (counted _ scripted .default (fun _ _ => return) 0 .empty (.family [])).1
  exact absurd hcalls (by decide)

end Tracker

end ProcessWatch
