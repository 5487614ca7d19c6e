import ProcessWatch.Polling
import ProcessWatch.Proofs.Tracker.Genuine

/-!
# Two runs in step

Two programs, each over an outside with a state of its own, are in step if they lead from related
states to related results and to related states again. Here the two are the same cycles over two
environments. Their answers may differ, but only in fields that no answer can set: then the cycles
ask the same, note the same, end alike and leave the same tracker behind (`inStep_cycle`), and so do
any number of them (`inStep_runCycles`).
-/

namespace ProcessWatch

variable {σ σ' α α' β β' : Type}

/-- From related states two programs lead to related results and to related states. -/
def InStep (R : σ → σ' → Prop) (S : α → α' → Prop) (x : StateM σ α) (y : StateM σ' α') : Prop :=
  ∀ s s', R s s' → S (x.run s).1 (y.run s').1 ∧ R (x.run s).2 (y.run s').2

namespace InStep

variable {R : σ → σ' → Prop} {S : α → α' → Prop} {T : β → β' → Prop}

/-- Programs that do nothing but return are in step if their results are related. -/
theorem pure {a : α} {a' : α'} (h : S a a') :
    InStep R S (Pure.pure a : StateM σ α) (Pure.pure a' : StateM σ' α') :=
  fun _ _ hs => ⟨h, hs⟩

/-- Two programs that are in step, and then two more for whatever related results they give. -/
theorem bind {x : StateM σ α} {y : StateM σ' α'} {f : α → StateM σ β} {g : α' → StateM σ' β'}
    (first : InStep R S x y) (rest : ∀ a a', S a a' → InStep R T (f a) (g a')) :
    InStep R T (x >>= f) (y >>= g) := by
  intro s s' hs
  obtain ⟨hresult, hstate⟩ := first s s' hs
  exact rest _ _ hresult _ _ hstate

/-- Where the first results are equal, both go on with the same one. -/
theorem bind_eq {x : StateM σ α} {y : StateM σ' α} {f : α → StateM σ β} {g : α → StateM σ' β'}
    (first : InStep R Eq x y) (rest : ∀ a, InStep R T (f a) (g a)) :
    InStep R T (x >>= f) (y >>= g) := by
  refine first.bind ?_
  rintro a _ rfl
  exact rest a

/-- The same question about one item after the other. -/
theorem mapM {f : α → StateM σ β} {g : α → StateM σ' β} (each : ∀ a, InStep R Eq (f a) (g a))
    (items : List α) : InStep R Eq (items.mapM f) (items.mapM g) := by
  induction items with
  | nil => exact pure rfl
  | cons a rest ih =>
    rw [List.mapM_cons, List.mapM_cons]
    exact (each a).bind_eq fun b => ih.bind_eq fun bs => pure rfl

/-- The same action for one item after the other. -/
theorem forM {f : α → StateM σ Unit} {g : α → StateM σ' Unit}
    (each : ∀ a, InStep R Eq (f a) (g a)) (items : List α) :
    InStep R Eq (items.forM f) (items.forM g) := by
  induction items with
  | nil => exact pure rfl
  | cons a rest ih => exact (each a).bind_eq fun _ => ih

end InStep

/-- Two environments whose answers are the same in related states, but for the fields in the entries
of a status that no answer can set. -/
structure Environment.Matches (R : σ → σ' → Prop) (env : Environment (StateM σ))
    (env' : Environment (StateM σ')) : Prop where
  identity : ∀ pid, InStep R Eq (env.identity pid) (env'.identity pid)
  status : InStep R (fun answer answer' =>
    answer.map Status.genuine = answer'.map Status.genuine) env.status env'.status
  note : ∀ notice, InStep R Eq (env.note notice) (env'.note notice)
  pause : InStep R Eq env.pause env'.pause

/-- The same snapshots, but for fields that they cannot set. -/
def SameSnapshots (snapshots snapshots' : List ProcessSnapshot) : Prop :=
  snapshots.map ProcessSnapshot.genuine = snapshots'.map ProcessSnapshot.genuine

namespace Tracker

variable {R : σ → σ' → Prop} {env : Environment (StateM σ)} {env' : Environment (StateM σ')}

/-- The question for the master process is asked by both or by none, since both have the same
tracker. -/
theorem inStep_ensureMaster (same : env.Matches R env') (t : Tracker) :
    InStep R Eq (t.ensureMaster env) (t.ensureMaster env') := by
  unfold ensureMaster
  cases t.master with
  | some master => exact .pure rfl
  | none =>
    -- both sides ask the same question and get the same answer, so they go on alike
    unfold resolveMaster
    refine InStep.bind_eq ?_ ?_
    · refine (same.note _).bind_eq fun _ => (same.identity none).bind_eq fun answer => ?_
      refine (same.note _).bind_eq fun _ => ?_
      cases answer with
      | error failure => exact .pure rfl
      | ok master => exact (same.note _).bind_eq fun _ => .pure rfl
    · intro answer
      cases answer with
      | error failure => exact (same.note _).bind_eq fun _ => .pure rfl
      | ok t => exact .pure rfl

/-- Snapshots that only differ in fields that they cannot set lead to the same requests, and to
snapshots that again only differ in such fields. -/
theorem inStep_askIdentities (same : env.Matches R env') (t : Tracker)
    {snapshots snapshots' : List ProcessSnapshot} (h : SameSnapshots snapshots snapshots') :
    InStep R SameSnapshots (t.askIdentities env snapshots) (t.askIdentities env' snapshots') := by
  have hrequests : t.requests snapshots = t.requests snapshots' := by
    rw [← requests_genuine, h, requests_genuine]
  have hfilled (answers : List (Except Failure Identity)) :
      SameSnapshots (t.enrich snapshots answers) (t.enrich snapshots' answers) := by
    unfold SameSnapshots
    rw [← enrich_genuine, h, enrich_genuine]
  -- the requests are one list on both sides, so they are asked in step
  have hasked : InStep R SameSnapshots
      (do
        let answers ← (t.requests snapshots').mapM fun pid => env.identity (some pid)
        (identityNotices (t.requests snapshots') answers).forM env.note
        return t.enrich snapshots answers)
      (do
        let answers ← (t.requests snapshots').mapM fun pid => env'.identity (some pid)
        (identityNotices (t.requests snapshots') answers).forM env'.note
        return t.enrich snapshots' answers) :=
    (InStep.mapM (fun pid => same.identity (some pid)) _).bind_eq fun answers =>
      (InStep.forM same.note _).bind_eq fun _ => .pure (hfilled answers)
  unfold askIdentities
  dsimp only
  rw [hrequests]
  split
  next => exact (same.note _).bind_eq fun _ => hasked
  next => exact hasked

/-- So a cycle of the one and a cycle of the other end with the same tracker and outcome. -/
theorem inStep_cycle (same : env.Matches R env') (settings : Settings) (t : Tracker) :
    InStep R Eq (t.cycle env settings) (t.cycle env' settings) := by
  unfold cycle
  -- the two statuses may differ, so what follows them is related by their genuine parts
  refine (inStep_ensureMaster same t).bind_eq fun t => same.status.bind ?_
  intro answer answer' hanswer
  cases answer with
  | error failure =>
    cases answer' with
    | error failure' =>
      cases hanswer
      exact (same.note _).bind_eq fun _ => .pure rfl
    | ok status' => cases hanswer
  | ok status =>
    cases answer' with
    | error failure' => cases hanswer
    | ok status' =>
      have hentries : (Entries.ofStatus status).genuine = (Entries.ofStatus status').genuine := by
        rw [← Entries.ofStatus_genuine, Except.ok.inj hanswer, Entries.ofStatus_genuine]
      obtain ⟨hsnapshots, hrejected⟩ := Entries.mk.inj hentries
      refine (inStep_askIdentities same t hsnapshots).bind ?_
      intro filled filled' hfilled
      -- the differing fields are all gone once the status is applied
      have happly :
          t.apply settings { Entries.ofStatus status with snapshots := filled }
            = t.apply settings { Entries.ofStatus status' with snapshots := filled' } := by
        refine apply_eq_of_genuine ?_
        unfold Entries.genuine
        rw [hfilled, hrejected]
      dsimp only
      rw [happly]
      exact (InStep.forM same.note _).bind_eq fun _ => (same.note _).bind_eq fun _ => .pure rfl

/-- And so do all cycles of a run, if what the observers do is in step as well. -/
theorem inStep_runCycles (same : env.Matches R env') (settings : Settings)
    {observe : Tracker → CycleOutcome → StateM σ Unit}
    {observe' : Tracker → CycleOutcome → StateM σ' Unit}
    (observed : ∀ t outcome, InStep R Eq (observe t outcome) (observe' t outcome)) (more : Nat)
    (t : Tracker) :
    InStep R Eq (runCycles env settings observe more t)
      (runCycles env' settings observe' more t) := by
  induction more generalizing t with
  | zero =>
    refine (inStep_cycle same settings t).bind_eq fun ended => ?_
    exact (observed ended.1 ended.2).bind_eq fun _ => .pure rfl
  | succ more ih =>
    refine (inStep_cycle same settings t).bind_eq fun ended => ?_
    refine (observed ended.1 ended.2).bind_eq fun _ => same.pause.bind_eq fun _ => ?_
    exact ih ended.1

end Tracker

end ProcessWatch
