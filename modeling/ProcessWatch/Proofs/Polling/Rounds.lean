import ProcessWatch.Proofs.Polling.Steady
import ProcessWatch.Proofs.Polling.Transcript

/-!
# Cycle after cycle

Cycles that run one after the other, each from its own state of the outside: between two of them the
outside may become anything. A run goes by what can be seen of its cycles, which are the reports and
the questions for identities, and by the tracker that is left in the end.

* **`Tracker.report?`**, **`Tracker.questions`** — the report of one cycle, if it ends with one, and
  the identities that it asks for, both taken from the run of the cycle itself.
* **`Tracker.questions_of_failed`**, **`Tracker.questions_of_told`** — what is asked without a
  status and with one.
* **`Tracker.pollAll`**, **`Tracker.along`** — the tracker after a run, and what is seen on the way.
-/

namespace ProcessWatch

/-- The report, if the cycle ended with one. -/
def CycleOutcome.report? : CycleOutcome → Option CycleReport
  | updated report => some report
  | failed _ => none

variable {σ α β : Type}

/-! ## What a program adds to the transcript

A watched program is the program itself with a second part of the state that it only appends to.
What it appends is put together along its steps. -/

/-- A watched program does what it does without being watched, and adds to the transcript. -/
def Shows (x : StateM σ α) (watched : StateM (σ × List Sight) α) (s : σ) (seen : List Sight) :
    Prop :=
  ∀ log, watched.run (s, log) = ((x.run s).1, (x.run s).2, log ++ seen)

theorem shows_jot (x : StateM σ α) (seen : List Sight) (s : σ) : Shows x (jot x seen) s seen :=
  fun _ => rfl

namespace Shows

variable {x : StateM σ α} {y : StateM (σ × List Sight) α} {s : σ} {seen more : List Sight}

/-- To return something shows nothing. -/
theorem pure (a : α) (s : σ) :
    Shows (Pure.pure a : StateM σ α) (Pure.pure a : StateM (σ × List Sight) α) s [] := by
  intro log
  rw [List.append_nil]
  rfl

/-- Two programs one after the other show first what the one shows and then what the other does. -/
theorem bind {f : α → StateM σ β} {g : α → StateM (σ × List Sight) β} (first : Shows x y s seen)
    (rest : Shows (f (x.run s).1) (g (x.run s).1) (x.run s).2 more) :
    Shows (x >>= f) (y >>= g) s (seen ++ more) := by
  intro log
  show (g (y.run (s, log)).1).run (y.run (s, log)).2 = _
  rw [first log, ← List.append_assoc]
  exact rest (log ++ seen)

/-- Where the rest is not seen, what is seen is that of the first program. -/
theorem bind_unseen {f : α → StateM σ β} {g : α → StateM (σ × List Sight) β}
    (first : Shows x y s seen)
    (rest : Shows (f (x.run s).1) (g (x.run s).1) (x.run s).2 []) :
    Shows (x >>= f) (y >>= g) s seen := by
  rw [← List.append_nil seen]
  exact first.bind rest

end Shows

/-- Notices leave no trace. -/
theorem shows_notices (env : Environment (StateM σ)) (notices : List Notice) (s : σ) :
    Shows (notices.forM env.note) (notices.forM env.watched.note) s [] := by
  induction notices generalizing s with
  | nil => exact .pure () s
  | cons notice rest ih => exact (shows_jot (env.note notice) [] s).bind (ih _)

theorem shows_requests (env : Environment (StateM σ)) (pids : List Pid) (s : σ) :
    Shows (pids.mapM fun pid => env.identity (some pid))
      (pids.mapM fun pid => env.watched.identity (some pid)) s
      (pids.map fun pid => .asked (some pid)) := by
  induction pids generalizing s with
  | nil => exact .pure [] s
  | cons pid rest ih =>
    rw [List.mapM_cons, List.mapM_cons]
    exact (shows_jot (env.identity (some pid)) [.asked (some pid)] s).bind
      ((ih _).bind_unseen (.pure _ _))

namespace Tracker

/-! ## What is seen of one cycle -/

section

variable (env : Environment (StateM σ)) (settings : Settings) (t : Tracker) (s : σ)

/-- The report of a cycle, if it ends with one. -/
def report? : Option CycleReport := ((t.cycle env settings).run s).1.2.report?

/-- The identities that a cycle asks for, in their order. -/
def questions : List (Option Pid) :=
  ((t.cycle env.watched settings).run (s, [])).2.2.filterMap Sight.asked?

end

variable {env : Environment (StateM σ)} {settings : Settings} {t : Tracker} {s : σ}

theorem report?_of_failed {failure : Failure} (h : (t.told env s).1 = .error failure) :
    t.report? env settings s = none := by
  rw [report?, cycle_of_failed h]
  rfl

/-- A cycle with one reports what applying it told. -/
theorem report?_of_told {status : Status} (h : (t.told env s).1 = .ok status) :
    t.report? env settings s =
      some ((t.applied env s status).tracker.apply settings
        (t.applied env s status).entries).2.1 := by
  rw [report?, cycle_of_told h]
  rfl

/-- A status changes nothing about the master process. -/
theorem master_poll (env : Environment (StateM σ)) (settings : Settings) (t : Tracker) (s : σ) :
    (t.poll env settings s).master = (t.resolved env s).1.master := by
  cases htold : (t.told env s).1 with
  | error failure => rw [poll_of_failed htold]
  | ok status =>
    rw [poll_of_told htold]
    rfl

/-! ## The questions of a cycle -/

/-- The question for the master process, which is asked as long as that is not known. -/
def masterQuestion (t : Tracker) : List Sight :=
  match t.master with
  | some _ => []
  | none => [.asked none]

/-- The first step of a cycle shows the question for the master process, if that is unknown, and
nothing of what it notes. -/
theorem shows_ensureMaster (env : Environment (StateM σ)) (t : Tracker) (s : σ) :
    Shows (t.ensureMaster env) (t.ensureMaster env.watched) s t.masterQuestion := by
  unfold ensureMaster masterQuestion
  -- the master process is only asked for while it is unknown
  cases t.master with
  | some master => exact .pure t s
  | none =>
    unfold resolveMaster
    -- the question comes first; the notices about its answer are not seen
    refine Shows.bind_unseen ?_ ?_
    · refine (shows_jot _ [] s).bind (.bind_unseen (shows_jot _ _ _) ?_)
      refine (shows_jot _ [] _).bind_unseen ?_
      split
      · exact .pure _ _
      · exact (shows_jot _ [] _).bind_unseen (.pure _ _)
    · split
      · exact .pure _ _
      · exact (shows_jot _ [] _).bind_unseen (.pure _ _)

/-- Filling the snapshots shows one question for each request. -/
theorem shows_askIdentities (env : Environment (StateM σ)) (t : Tracker)
    (snapshots : List ProcessSnapshot) (s : σ) :
    Shows (t.askIdentities env snapshots) (t.askIdentities env.watched snapshots) s
      ((t.requests snapshots).map fun pid => .asked (some pid)) := by
  -- the same program whether or not the count of the requests was noted before
  have hasked (s : σ) : Shows
      (do
        let answers ← (t.requests snapshots).mapM fun pid => env.identity (some pid)
        (identityNotices (t.requests snapshots) answers).forM env.note
        return t.enrich snapshots answers)
      (do
        let answers ← (t.requests snapshots).mapM fun pid => env.watched.identity (some pid)
        (identityNotices (t.requests snapshots) answers).forM env.watched.note
        return t.enrich snapshots answers) s
      ((t.requests snapshots).map fun pid => .asked (some pid)) :=
    (shows_requests env _ s).bind_unseen ((shows_notices env _ _).bind_unseen (.pure _ _))
  unfold askIdentities
  dsimp only
  split
  · exact (shows_jot _ [] s).bind (hasked _)
  · exact hasked s

/-- Without a status nothing but the master process was asked for. -/
theorem questions_of_failed {failure : Failure} (h : (t.told env s).1 = .error failure) :
    t.questions env settings s = t.masterQuestion.filterMap Sight.asked? := by
  have hcycle : Shows (t.cycle env settings) (t.cycle env.watched settings) s
      t.masterQuestion := by
    unfold told resolved at h
    unfold cycle
    refine (shows_ensureMaster env t s).bind_unseen ((shows_jot env.status [] _).bind_unseen ?_)
    rw [h]
    exact (shows_jot _ [] _).bind_unseen (.pure _ _)
  rw [questions, hcycle [], List.nil_append]

/-- With one, every process whose identity is missing was asked for after it. -/
theorem questions_of_told {status : Status} (h : (t.told env s).1 = .ok status) :
    t.questions env settings s =
      t.masterQuestion.filterMap Sight.asked?
        ++ ((t.resolved env s).1.requests (Entries.ofStatus status).snapshots).map some := by
  have hcycle : Shows (t.cycle env settings) (t.cycle env.watched settings) s
      (t.masterQuestion
        ++ ((t.resolved env s).1.requests (Entries.ofStatus status).snapshots).map
          fun pid => .asked (some pid)) := by
    unfold told resolved at h
    unfold cycle
    refine (shows_ensureMaster env t s).bind (Shows.bind (shows_jot env.status [] _) ?_)
    rw [h]
    exact (shows_askIdentities env _ _ _).bind_unseen
      ((shows_notices env _ _).bind_unseen ((shows_jot _ [] _).bind_unseen (.pure _ _)))
  rw [questions, hcycle [], List.nil_append, List.filterMap_append, List.filterMap_map,
    ← List.filterMap_eq_map]
  rfl

/-! ## Runs -/

section

variable (env : Environment (StateM σ)) (settings : Settings)

/-- The tracker after cycles, one for each of some states of the outside. -/
def pollAll (t : Tracker) (sources : List σ) : Tracker := sources.foldl (poll env settings) t

/-- What is seen of cycles one after the other, if `look` is what is seen of one. -/
def along (look : Tracker → σ → List β) (t : Tracker) : List σ → List β
  | [] => []
  | s :: rest => look t s ++ along look (t.poll env settings s) rest

/-- The reports of cycles, of those that end with one. -/
def reports (t : Tracker) (sources : List σ) : List CycleReport :=
  along env settings (fun t s => (t.report? env settings s).toList) t sources

/-- The identities that cycles ask for. -/
def asked (t : Tracker) (sources : List σ) : List (Option Pid) :=
  along env settings (questions env settings) t sources

end

theorem polls_concat (sources : List σ) (s : σ) :
    polls env settings (sources ++ [s]) = (polls env settings sources).poll env settings s := by
  rw [polls, List.foldl_append]
  rfl

theorem pollAll_cons (t : Tracker) (s : σ) (rest : List σ) :
    t.pollAll env settings (s :: rest) = (t.poll env settings s).pollAll env settings rest := rfl

theorem reports_cons (t : Tracker) (s : σ) (rest : List σ) :
    t.reports env settings (s :: rest)
      = (t.report? env settings s).toList ++ (t.poll env settings s).reports env settings rest :=
  rfl

/-- Every report has the number of its cycle, where only those with a status count. -/
theorem reports_numbered (env : Environment (StateM σ)) (settings : Settings) (t : Tracker)
    (sources : List σ) :
    (t.reports env settings sources).map (·.index)
        = List.range' t.cycles (t.reports env settings sources).length ∧
      (t.pollAll env settings sources).cycles
        = t.cycles + (t.reports env settings sources).length := by
  induction sources generalizing t with
  | nil => exact ⟨rfl, rfl⟩
  | cons s rest ih =>
    obtain ⟨hindices, hcycles⟩ := ih (t.poll env settings s)
    rw [reports_cons, pollAll_cons]
    -- the count only goes up with a status; the question for the master process leaves it alone
    have hresolved : (t.resolved env s).1.cycles = t.cycles := by
      rcases resolved_cases env t s with h | ⟨master, h⟩ <;> rw [h]
      rfl
    cases htold : (t.told env s).1 with
    | error failure =>
      have hpoll : (t.poll env settings s).cycles = t.cycles := by
        rw [poll_of_failed htold, hresolved]
      rw [report?_of_failed htold]
      rw [hpoll] at hindices hcycles
      exact ⟨hindices, hcycles⟩
    | ok status =>
      have hpoll : (t.poll env settings s).cycles = t.cycles + 1 := by
        rw [poll_of_told htold, tracker_apply]
        exact congrArg (· + 1) hresolved
      have hindex : ((t.applied env s status).tracker.apply settings
          (t.applied env s status).entries).2.1.index = t.cycles := hresolved
      rw [report?_of_told htold]
      rw [hpoll] at hindices hcycles
      rw [Option.toList_some, List.singleton_append, List.map_cons, List.length_cons,
        List.range'_succ, hindices, hindex, hcycles]
      exact ⟨rfl, by omega⟩

end Tracker

end ProcessWatch
