import ProcessWatch.Polling
import ProcessWatch.Proofs.Enrichment
import ProcessWatch.Proofs.Tracker.Run

/-!
# What a cycle does to the tracker

A cycle is a program over an environment. Here the environment is any one with a state of its own:
asking and telling may change that state in any way, and every answer may depend on it. Of all this
the tracker only sees the answers, so a cycle is taken apart into what it is told.

## The architecture

* **`Tracker.resolved`**, **`Tracker.told`**, **`Tracker.answered`** — what is known of the master
  process after the first step, the answer to the question for the status, and the answers to the
  questions for identities.
* **`Applied`** — a status with the tracker and the answers that it meets.
* **`Tracker.cycle_of_failed`**, **`Tracker.cycle_of_told`** — the tracker after a cycle and how the
  cycle ended; `poll_of_failed` and `poll_of_told` for the tracker alone.
* **`Tracker.Cycles`** — cycles one after the other. Between two of them the outside may become
  anything. A run of cycles is a run of events (`Cycles.events`).
* **`scripted`** — an outside that answers from a `Script`.
-/

namespace ProcessWatch

/-- A status that was applied, with the tracker that it met and the answers to its requests. -/
structure Applied where
  tracker : Tracker
  status : Status
  answers : List (Except Failure Identity)

namespace Applied

/-- The entries of the status, filled with the answers. -/
def entries (a : Applied) : Entries :=
  { Entries.ofStatus a.status with
    snapshots := a.tracker.enrich (Entries.ofStatus a.status).snapshots a.answers }

/-- The entries of a status came from a monitor, and filling them keeps them so. -/
theorem received_entries (a : Applied) : ∀ s ∈ a.entries.snapshots, s.Received :=
  Tracker.received_enrich (Entries.received_ofStatus a.status)

/-- Filling changes nothing about whose entries there are. -/
theorem pids_entries (a : Applied) : a.entries.pids = (Entries.ofStatus a.status).pids := by
  have hsame := a.tracker.pids_enrich (Entries.ofStatus a.status).snapshots a.answers
  have hfilter (snapshots : List ProcessSnapshot) :
      snapshots.filterMap (·.pid) = (snapshots.map (·.pid)).filterMap id := by
    rw [List.filterMap_map]
    rfl
  unfold Entries.pids
  rw [hfilter, hfilter, ← hsame]
  rfl

end Applied

namespace Tracker

variable {σ : Type}

/-! ## The steps of a cycle -/

/-- Two programs one after the other: the second starts from the state that the first leaves. -/
theorem run_bind {α β : Type} (x : StateM σ α) (f : α → StateM σ β) (s : σ) :
    (x >>= f).run s = (f (x.run s).1).run (x.run s).2 := rfl

section

variable (env : Environment (StateM σ)) (settings : Settings)

/-- The answer to the question for the master process. -/
def toldMaster (s : σ) : Except Failure Identity :=
  ((env.identity none).run ((env.note .resolving).run s).2).1

/-- The tracker after the question for the master process, if that was necessary, and the
outside. -/
def resolved (t : Tracker) (s : σ) : Tracker × σ := (t.ensureMaster env).run s

/-- The answer to the question for the status, and the outside. -/
def told (t : Tracker) (s : σ) : Except Failure Status × σ := env.status.run (t.resolved env s).2

/-- The answers to the requests for identities. -/
def answered (t : Tracker) (s : σ) (snapshots : List ProcessSnapshot) :
    List (Except Failure Identity) :=
  let requests := (t.resolved env s).1.requests snapshots
  let s := (t.told env s).2
  let s := if requests.isEmpty then s
    else ((env.note (.fetchingIdentities requests.length)).run s).2
  ((requests.mapM fun pid => env.identity (some pid)).run s).1

/-- A status as a cycle applies it. -/
def applied (t : Tracker) (s : σ) (status : Status) : Applied :=
  ⟨(t.resolved env s).1, status, t.answered env s (Entries.ofStatus status).snapshots⟩

/-- The tracker after a cycle. -/
def poll (t : Tracker) (s : σ) : Tracker := ((t.cycle env settings).run s).1.1

end

variable {env : Environment (StateM σ)} {settings : Settings} {t : Tracker} {s : σ}

/-- A master process that is known is not asked for. -/
theorem resolved_of_known {master : Identity} (h : t.master = some master) :
    (t.resolved env s).1 = t := by
  unfold resolved ensureMaster
  rw [h]
  rfl

/-- Otherwise it is asked for, and becomes known if the answer tells it. -/
theorem resolved_of_unknown (h : t.master = none) :
    (t.resolved env s).1 =
      match toldMaster env s with
      | .ok master => t.setMaster master
      | .error _ => t := by
  unfold resolved ensureMaster
  rw [h]
  dsimp only
  unfold resolveMaster toldMaster
  rw [run_bind, run_bind, run_bind, run_bind]
  cases ((env.identity none).run ((env.note .resolving).run s).2).1 <;> rfl

/-- At most the master process becomes known. -/
theorem resolved_cases (env : Environment (StateM σ)) (t : Tracker) (s : σ) :
    (t.resolved env s).1 = t ∨ ∃ master, (t.resolved env s).1 = t.setMaster master := by
  cases hmaster : t.master with
  | some master => exact .inl (resolved_of_known hmaster)
  | none =>
    rw [resolved_of_unknown hmaster]
    cases toldMaster env s with
    | ok master => exact .inr ⟨master, rfl⟩
    | error failure => exact .inl rfl

/-- What becomes of the snapshots of a status only depends on the answers to the requests, and not
on what else the outside goes through. -/
theorem run_askIdentities (env : Environment (StateM σ)) (t : Tracker) (s : σ)
    (snapshots : List ProcessSnapshot) :
    (((t.resolved env s).1.askIdentities env snapshots).run (t.told env s).2).1
      = (t.resolved env s).1.enrich snapshots (t.answered env s snapshots) := by
  unfold askIdentities answered
  dsimp only
  -- without a request nothing is noted down before the questions, so the outside is another one
  by_cases hempty : ((t.resolved env s).1.requests snapshots).isEmpty = true
  · rw [if_pos hempty, if_neg (by simp [hempty])]
    rfl
  · rw [if_neg hempty, if_pos (by simp [hempty])]
    rfl

/-- How a cycle ends without a status. -/
theorem cycle_of_failed {failure : Failure} (h : (t.told env s).1 = .error failure) :
    ((t.cycle env settings).run s).1 = ((t.resolved env s).1, .failed failure) := by
  unfold told resolved at h
  unfold cycle
  rw [run_bind, run_bind, h]
  rfl

/-- How it ends with one. -/
theorem cycle_of_told {status : Status} (h : (t.told env s).1 = .ok status) :
    ((t.cycle env settings).run s).1 =
      let a := t.applied env s status
      ((a.tracker.apply settings a.entries).1,
        .updated (a.tracker.apply settings a.entries).2.1) := by
  have hfilled := run_askIdentities env t s (Entries.ofStatus status).snapshots
  unfold Applied.entries applied
  dsimp only
  rw [← hfilled]
  unfold told resolved at h
  unfold cycle
  rw [run_bind, run_bind, h]
  rfl

/-- Without a status nothing changes but what is known of the master process. -/
theorem poll_of_failed {failure : Failure} (h : (t.told env s).1 = .error failure) :
    t.poll env settings s = (t.resolved env s).1 := by
  rw [poll, cycle_of_failed h]

/-- A status that could be had is applied. -/
theorem poll_of_told {status : Status} (h : (t.told env s).1 = .ok status) :
    t.poll env settings s =
      ((t.applied env s status).tracker.apply settings (t.applied env s status).entries).1 := by
  rw [poll, cycle_of_told h]

/-! ## Cycles one after the other

A run of cycles is a relation, not a function: between two cycles the outside may become anything.
The statuses that were told along the way are kept with it, each with the tracker that it met. -/

/-- Some cycles lead from one tracker to another one. The list holds the statuses that were applied
on the way; a cycle without a status leaves no trace there. -/
inductive Cycles (env : Environment (StateM σ)) (settings : Settings) (t : Tracker) :
    List Applied → Tracker → Prop where
  | start : Cycles env settings t [] t
  | failed {statuses : List Applied} {t' : Tracker} {s : σ} {failure : Failure}
      (before : Cycles env settings t statuses t') (h : (t'.told env s).1 = .error failure) :
      Cycles env settings t statuses (t'.poll env settings s)
  | told {statuses : List Applied} {t' : Tracker} {s : σ} {status : Status}
      (before : Cycles env settings t statuses t') (h : (t'.told env s).1 = .ok status) :
      Cycles env settings t (statuses ++ [t'.applied env s status]) (t'.poll env settings s)

/-- What the question for the master process does is an event, or nothing. -/
theorem resolved_events (env : Environment (StateM σ)) (t : Tracker) (s : σ) :
    ∃ events : List Event, (∀ e ∈ events, e.Received ∧ e.limit? = none) ∧
      (t.resolved env s).1 = events.foldl handle t := by
  rcases resolved_cases env t s with h | ⟨master, h⟩
  · exact ⟨[], nofun, h⟩
  · refine ⟨[.identified master], ?_, h⟩
    intro e he
    rw [List.mem_singleton.1 he]
    exact ⟨trivial, rfl⟩

/-- Cycles are events, and the limits of these are those of the settings. -/
theorem Cycles.events {statuses : List Applied} {t' : Tracker}
    (h : Cycles env settings t statuses t') :
    ∃ events : List Event,
      (∀ e ∈ events, e.Received ∧ ∀ most, e.limit? = some most → most = settings.keepDeadFor) ∧
        t' = events.foldl handle t := by
  induction h with
  | start => exact ⟨[], nofun, rfl⟩
  | @failed statuses t' s failure _ h ih =>
    obtain ⟨events, hevents, rfl⟩ := ih
    obtain ⟨more, hmore, heq⟩ := resolved_events env (events.foldl handle t) s
    refine ⟨events ++ more, ?_, ?_⟩
    · intro e he
      rcases List.mem_append.1 he with hbefore | hnew
      · exact hevents e hbefore
      · obtain ⟨hreceived, hlimit⟩ := hmore e hnew
        rw [hlimit]
        exact ⟨hreceived, nofun⟩
    · rw [poll_of_failed h, heq, List.foldl_append]
  | @told statuses t' s status _ h ih =>
    obtain ⟨events, hevents, rfl⟩ := ih
    obtain ⟨more, hmore, heq⟩ := resolved_events env (events.foldl handle t) s
    -- first the master process may become known, and then the status is applied
    let a := (events.foldl handle t).applied env s status
    refine ⟨events ++ (more ++ [.applied settings a.entries]), ?_, ?_⟩
    · intro e he
      rcases List.mem_append.1 he with hbefore | hnew
      · exact hevents e hbefore
      · rcases List.mem_append.1 hnew with hmaster | hstatus
        · obtain ⟨hreceived, hlimit⟩ := hmore e hmaster
          rw [hlimit]
          exact ⟨hreceived, nofun⟩
        · rw [List.mem_singleton.1 hstatus]
          refine ⟨a.received_entries, ?_⟩
          intro most hmost
          exact (Option.some.inj hmost).symm
    · rw [poll_of_told h, List.foldl_append, List.foldl_append, ← heq]
      rfl

end Tracker

/-! ## An outside that follows a script

Statements about all outsides are tried on this one. What it is asked about processes it reads off a
script, and each question for the status uses up one of the statuses there. -/

/-- What an outside answers: the identity of every process and of the master process, and one status
after the other. -/
structure Script where
  identity : Option Pid → Except Failure Identity
  statuses : List Status

namespace Script

/-- A script in which process 1 is the master process and the parent of all others. -/
def family (statuses : List Status) : Script where
  identity pid := .ok ⟨pid.getD 1, pid.map fun _ => 1, none, none, []⟩
  statuses := statuses

/-- A script in which no process can be identified. -/
def anonymous (statuses : List Status) : Script where
  identity _ := .error ⟨"unknown"⟩
  statuses := statuses

end Script

/-- The outside whose state is the rest of its script. Behind the end there is no status any
more. -/
def scripted : Environment (StateM Script) where
  identity pid := fun script => (script.identity pid, script)
  status := fun script =>
    match script.statuses with
    | [] => (.error ⟨"unreachable"⟩, script)
    | status :: rest => (.ok status, { script with statuses := rest })
  note _ := return
  pause := return

end ProcessWatch
