import ProcessWatch.Proofs.Polling.Cycle
import ProcessWatch.Proofs.Polling.InStep

/-!
# What can be seen of cycles

A transcript shows what a run does: the questions for identities in their order, and between them
the tracker and the outcome at the end of every cycle. An outside that keeps one beside its state is
asked and told the same as one that does not (`Environment.matches_watched`), so it is the
transcript of the run itself. Two runs whose answers only differ in fields that no answer can set
have the same transcript (`Tracker.transcript_eq_of_matches`).
-/

namespace ProcessWatch

variable {σ σ' α α' : Type}

/-- Something that can be seen of a run. -/
inductive Sight where
  /-- The identity of a process, or of the master process, was asked for. -/
  | asked (pid : Option Pid)
  /-- A cycle ended. -/
  | ended (tracker : Tracker) (outcome : CycleOutcome)

/-- The question, if it is one. -/
def Sight.asked? : Sight → Option (Option Pid)
  | asked pid => some pid
  | ended _ _ => none

/-- A program over an outside, which adds what is seen of it to a transcript beside the state. -/
def jot (x : StateM σ α) (seen : List Sight) : StateM (σ × List Sight) α := fun s =>
  ((x.run s.1).1, (x.run s.1).2, s.2 ++ seen)

/-- The same environment, watched. -/
def Environment.watched (env : Environment (StateM σ)) :
    Environment (StateM (σ × List Sight)) where
  identity pid := jot (env.identity pid) [.asked pid]
  status := jot env.status []
  note notice := jot (env.note notice) []
  pause := jot env.pause []

def CycleOutcome.watch (outcome : CycleOutcome) (t : Tracker) : StateM (σ × List Sight) Unit :=
  jot (return) [.ended t outcome]

/-- The transcript of cycles that run until `count` of them ran. -/
def Tracker.transcript (env : Environment (StateM σ)) (settings : Settings) (count : Nat)
    (t : Tracker) (s : σ) : List Sight :=
  ((t.run env.watched settings (fun t outcome => outcome.watch t) count).run (s, [])).2.2

/-! ## Watching changes nothing -/

/-- A program that is jotted down does what it does otherwise; the transcript is only beside it. -/
theorem inStep_jot_self (x : StateM σ α) (seen : List Sight) :
    InStep (fun s s' => s.1 = s') Eq (jot x seen) x := by
  rintro ⟨s, log⟩ _ rfl
  exact ⟨rfl, rfl⟩

/-- So an outside that is watched answers as it does when it is not. -/
theorem Environment.matches_watched (env : Environment (StateM σ)) :
    env.watched.Matches (fun s s' => s.1 = s') env where
  identity pid := inStep_jot_self (env.identity pid) [.asked pid]
  status := by
    intro s s' hs
    obtain ⟨hresult, hstate⟩ := inStep_jot_self env.status [] s s' hs
    exact ⟨congrArg _ hresult, hstate⟩
  note notice := inStep_jot_self (env.note notice) []
  pause := inStep_jot_self env.pause []

/-! ## Fields that no answer can set

Two outsides are compared by a simulation: related states give related answers, and the transcript
is a part of the state on both sides. So the transcripts are equal because they are so after every
step. -/

/-- Two outsides beside one transcript. -/
def Alongside (R : σ → σ' → Prop) (s : σ × List Sight) (s' : σ' × List Sight) : Prop :=
  R s.1 s'.1 ∧ s.2 = s'.2

section

variable {R : σ → σ' → Prop}

/-- If two programs are in step, they are so with the same things jotted down. -/
theorem InStep.jot {S : α → α' → Prop} {x : StateM σ α} {y : StateM σ' α'} (h : InStep R S x y)
    (seen : List Sight) : InStep (Alongside R) S (jot x seen) (jot y seen) := by
  rintro ⟨s, log⟩ ⟨s', _⟩ ⟨hs, rfl⟩
  obtain ⟨hresult, hstate⟩ := h s s' hs
  exact ⟨hresult, hstate, rfl⟩

variable {env : Environment (StateM σ)} {env' : Environment (StateM σ')}

/-- So two outsides that match still do when both are watched. -/
theorem Environment.Matches.watched (same : env.Matches R env') :
    env.watched.Matches (Alongside R) env'.watched where
  identity pid := (same.identity pid).jot [.asked pid]
  status := same.status.jot []
  note notice := (same.note notice).jot []
  pause := same.pause.jot []

/-- What an outside says about the fields that the tracking decides is never seen. If the answers of
two outsides are the same but for such fields in the entries of their statuses, two runs from the
same tracker ask for the same identities, and all cycles end alike and with the same tracker. -/
theorem Tracker.transcript_eq_of_matches (same : env.Matches R env') {s : σ} {s' : σ'}
    (start : R s s') (settings : Settings) (count : Nat) (t : Tracker) :
    t.transcript env settings count s = t.transcript env' settings count s' := by
  have watching (t : Tracker) (outcome : CycleOutcome) :
      InStep (Alongside R) Eq (outcome.watch t) (outcome.watch t) :=
    (InStep.pure rfl).jot [.ended t outcome]
  -- the transcript is a part of the state here, so what is in step also shows the same
  exact (inStep_runCycles same.watched settings watching (count - 1) t (s, []) (s', [])
    ⟨start, rfl⟩).2.2

end

/-- Two statuses, with an entry of process 2 that is merged and one that clashes. -/
def honestScript : Script := .family
  [.byPid [("1", .object [("cpu", .nat 1)]), ("2", .object [("x", .null), ("y", .nat 0)])],
    .byPid [("1", .object [("cpu", .nat 2)]), ("2", .array [])]]

/-- The same with forged fields, in front of the others and between them. -/
def forgedScript : Script := .family
  [.byPid [("1", .object [("is_running", .bool false), ("cpu", .nat 1), ("files", .null)]),
      ("2", .object [("x", .null), ("is_master", .bool true), ("y", .nat 0), ("age", .nat 9)])],
    .byPid [("1", .object [("history", .array []), ("cpu", .nat 2)]), ("2", .array [])]]

/-- Forged fields at every place of an entry: before the genuine ones, between them and behind them.
Both transcripts have the two questions of the first cycle. -/
theorem Tracker.transcript_eq_of_matches_forgedScript :
    ∃ R : Script → Script → Prop,
      scripted.Matches R scripted ∧ R honestScript forgedScript ∧ honestScript ≠ forgedScript ∧
      (transcript scripted .default 3 .empty forgedScript).filterMap Sight.asked?
        = [none, some 2] ∧
      transcript scripted .default 3 .empty honestScript
        = transcript scripted .default 3 .empty forgedScript := by
  let R (script script' : Script) : Prop :=
    script.identity = script'.identity ∧
      script.statuses.map Status.genuine = script'.statuses.map Status.genuine
  have same : scripted.Matches R scripted := by
    refine ⟨?_, ?_, fun _ => .pure rfl, .pure rfl⟩
    · intro pid script script' h
      exact ⟨congrFun h.1 pid, h⟩
    · -- each question for the status uses up one on both sides, and the rests still match
      rintro ⟨identity, statuses⟩ ⟨_, statuses'⟩ ⟨rfl, h⟩
      cases statuses with
      | nil =>
        cases List.map_eq_nil_iff.1 h.symm
        exact ⟨rfl, rfl, rfl⟩
      | cons status rest =>
        obtain ⟨status', rest', rfl, hstatus, hrest⟩ := List.map_eq_cons_iff.1 h.symm
        exact ⟨congrArg Except.ok hstatus.symm, rfl, hrest.symm⟩
  have start : R honestScript forgedScript := ⟨rfl, rfl⟩
  have hforged : honestScript ≠ forgedScript := by
    simp [honestScript, forgedScript, Script.family]
  have hasked : (transcript scripted .default 3 .empty forgedScript).filterMap Sight.asked?
      = [none, some 2] := by
    decide +kernel
  exact ⟨R, same, start, hforged, hasked,
    transcript_eq_of_matches same start .default 3 .empty⟩

end ProcessWatch
