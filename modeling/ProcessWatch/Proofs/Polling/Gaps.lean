import ProcessWatch.Proofs.Polling.Cycle
import ProcessWatch.Proofs.Tracker.KnownParent

/-!
# Identities fill gaps, and nothing else

The snapshots of a status are filled with the answers to the questions that are asked on their
behalf. The questions are asked in the order of the snapshots, but not every snapshot has one, so an
answer is not at the place of its snapshot: it is at the place that the number of questions before
it tells.

## The architecture

* **`ProcessSnapshot.GapsFilled`** — a snapshot that an identity filled; `gapsFilled_withIdentity`.
* **`Tracker.Lacks`**, **`Tracker.Spares`** — the snapshots for which an identity is looked for, and
  those for which none is.
* **`Tracker.Filled`** — what becomes of a snapshot, given the question whose turn it is.
  `filled_enrich` is the induction over the snapshots.
* **`Tracker.filled_askIdentities`** — every snapshot has its own answer, whatever is answered.
-/

namespace ProcessWatch

/-! ## Fields at the end -/

namespace Fields

/-- The field that a value adds to some fields: none if there is one of this name, `null` or not. -/
def missing (key : String) (value : Option Json) (fields : Fields) : Fields :=
  if key ∈ names fields then [] else (value.map (key, ·)).toList

/-- A field that is only set if it is absent is added at the end, or not at all. -/
theorem setIfAbsent_eq_append (key : String) (value : Json) (fields : Fields) :
    setIfAbsent key value fields = fields ++ missing key (some value) fields := by
  unfold setIfAbsent missing
  by_cases h : key ∈ names fields
  · rw [if_pos (has_eq_true_iff.2 h), if_pos h, List.append_nil]
  · rw [if_neg fun hhas => h (has_eq_true_iff.1 hhas), if_neg h, set_of_not_mem value h]
    rfl

/-- A field of another name does not count. -/
theorem missing_append_missing {key other : String} (h : key ≠ other) (value added : Option Json)
    (fields : Fields) :
    missing key value (fields ++ missing other added fields) = missing key value fields := by
  have hnames : key ∈ names (fields ++ missing other added fields) ↔ key ∈ names fields := by
    unfold names missing
    rw [List.map_append, List.mem_append]
    split
    next => simp
    next => cases added <;> simp [h]
  unfold missing at hnames ⊢
  simp only [hnames]

end Fields

namespace ProcessSnapshot

/-- A snapshot after an identity filled its gaps. Nothing that the snapshot tells is touched. -/
structure GapsFilled (identity : Identity) (s s' : ProcessSnapshot) : Prop where
  pid : s'.pid = s.pid
  time : s'.time = s.time
  openFiles : s'.openFiles = s.openFiles
  /-- A parent that is absent or `null` becomes the one of the identity, if that tells it. -/
  parent_filled : ∀ parent, s.parent.value? = none → identity.parent = some parent →
    s'.parent = .value parent
  parent_kept : s.parent.value? ≠ none ∨ identity.parent = none → s'.parent = s.parent
  /-- The command line and then the working directory go to the end of the fields. -/
  fields : s'.fields = s.fields ++ Fields.missing "cmdline" identity.cmdline s.fields
    ++ Fields.missing "working_directory" (identity.workingDirectory.map .string) s.fields

/-- An identity fills the gaps of a snapshot: the parent, the command line and the working
directory, each only where the snapshot tells nothing. -/
theorem gapsFilled_withIdentity (s : ProcessSnapshot) (identity : Identity) :
    s.GapsFilled identity (s.withIdentity identity) where
  pid := rfl
  time := rfl
  openFiles := rfl
  parent_filled parent hs hidentity := parent_withIdentity hs hidentity
  parent_kept h := by
    unfold withIdentity
    dsimp only
    cases hs : s.parent.value? with
    | some parent => rfl
    | none =>
      rw [h.resolve_left (absurd hs)]
  -- the two fields have different names, so filling one does not get in the way of the other
  fields := by
    have hmissing (key : String) (fields : Fields) : Fields.missing key none fields = [] := by
      unfold Fields.missing
      split <;> rfl
    have hother : "working_directory" ≠ "cmdline" := by decide
    unfold withIdentity
    cases identity.cmdline <;> cases identity.workingDirectory <;>
      simp [hmissing, Fields.setIfAbsent_eq_append, Fields.missing_append_missing hother]

end ProcessSnapshot

namespace Tracker

open ProcessSnapshot (GapsFilled)

variable {t : Tracker} {s s' : ProcessSnapshot} {pid : Pid} {snapshots : List ProcessSnapshot}

/-- A snapshot of no process, one that tells the parent, or one of a process whose parent is
known. -/
def Spares (t : Tracker) (s : ProcessSnapshot) : Prop :=
  s.pid = none ∨ s.parent.value? ≠ none ∨ ∃ pid, s.pid = some pid ∧ t.processes.KnowsParent pid

/-- A snapshot that lacks something is not spared. -/
theorem Lacks.not_spares (h : t.Lacks s pid) : ¬ t.Spares s := by
  rintro (hnone | htold | ⟨pid', hpid', hknown⟩)
  · rw [h.pid_eq] at hnone
    cases hnone
  · exact htold h.untold
  · obtain rfl := Option.some.inj (h.pid_eq.symm.trans hpid')
    exact h.unknown hknown

/-- What becomes of a snapshot when it is the turn of some question, or no question is left. -/
structure Filled (t : Tracker) (asked? : Option (Pid × Except Failure Identity))
    (s s' : ProcessSnapshot) : Prop where
  pid : s'.pid = s.pid
  time : s'.time = s.time
  openFiles : s'.openFiles = s.openFiles
  spared : t.Spares s → s' = s
  /-- The master process is told by what is known of it. -/
  master : ∀ master, t.master = some master → t.Lacks s master.pid → s.GapsFilled master s'
  /-- The question whose turn it is was asked for the process of the snapshot. If it failed, the
  snapshot is not changed. -/
  asked : ∀ pid, t.Lacks s pid → t.masterPid ≠ some pid →
    ∃ answer, asked? = some (pid, answer) ∧
      (∀ failure, answer = .error failure → s' = s) ∧
      ∀ identity, answer = .ok identity → s.GapsFilled identity s'

/-- A snapshot that is asked for is filled from the answer. -/
theorem filled_fillAnswer (h : t.request? s = some pid) (answer : Except Failure Identity) :
    t.Filled (some (pid, answer)) s (fillAnswer s answer) := by
  obtain ⟨hlacks, hother⟩ := request?_eq_some_iff.1 h
  have hfilled := filledFrom_fillAnswer s answer
  refine ⟨hfilled.pid_eq, hfilled.time_eq, hfilled.openFiles_eq, fun hspared => ?_,
    fun master hmaster hlacks' => ?_, fun pid' hlacks' _ => ⟨answer, ?_, ?_, ?_⟩⟩
  · exact absurd hspared hlacks.not_spares
  · -- nothing is asked for the master process
    refine absurd ?_ hother
    rw [← hlacks.pid_eq, hlacks'.pid_eq, masterPid, hmaster]
    rfl
  · rw [← Option.some.inj (hlacks.pid_eq.symm.trans hlacks'.pid_eq)]
  · rintro failure rfl
    rfl
  · rintro identity rfl
    exact s.gapsFilled_withIdentity identity

/-- Any other snapshot is filled with what is known of the master process, if it is of that process
and lacks something. -/
theorem filled_fillMaster (h : t.request? s = none)
    (asked? : Option (Pid × Except Failure Identity)) : t.Filled asked? s (t.fillMaster s) := by
  have hfilled := filledFrom_fillMaster t s
  refine ⟨hfilled.pid_eq, hfilled.time_eq, hfilled.openFiles_eq, fun hspared => ?_,
    fun master hmaster hlacks => ?_, fun pid hlacks hother => ?_⟩
  · -- a snapshot that lacks nothing is left alone
    have horphan : t.orphan? s = none :=
      Option.eq_none_iff_forall_ne_some.2 fun pid hpid =>
        (orphan?_eq_some_iff_lacks.1 hpid).not_spares hspared
    unfold fillMaster
    rw [horphan]
  · unfold fillMaster
    rw [orphan?_eq_some_iff_lacks.2 hlacks, hmaster]
    dsimp only
    rw [if_pos rfl]
    exact s.gapsFilled_withIdentity master
  · rw [request?_eq_some_iff.2 ⟨hlacks, hother⟩] at h
    cases h

/-- Every snapshot is filled when it is the turn of its own question. Induction on the snapshots:
one that is asked for takes the first of the answers that are left, and any other takes none. -/
theorem filled_enrich {asked : List (Pid × Except Failure Identity)}
    (h : asked.map (·.1) = t.requests snapshots) {i : Nat} (hs : snapshots[i]? = some s)
    (hs' : (t.enrich snapshots (asked.map (·.2)))[i]? = some s') :
    t.Filled asked[(t.requests (snapshots.take i)).length]? s s' := by
  induction snapshots generalizing asked i with
  | nil => cases hs
  | cons first rest ih =>
    cases hrequest : t.request? first with
    | some pid =>
      have hrequests (others : List ProcessSnapshot) :
          t.requests (first :: others) = pid :: t.requests others :=
        List.filterMap_cons_some hrequest
      rw [hrequests] at h
      obtain ⟨⟨pid', answer⟩, later, rfl, rfl, hlater⟩ := List.map_eq_cons_iff.1 h
      rw [List.map_cons, enrich_asked hrequest] at hs'
      cases i with
      | zero =>
        cases hs
        cases hs'
        exact filled_fillAnswer hrequest answer
      | succ i =>
        -- one question is over for all snapshots behind this one
        rw [List.take_succ_cons, hrequests, List.length_cons, List.getElem?_cons_succ]
        exact ih hlater hs hs'
    | none =>
      have hrequests (others : List ProcessSnapshot) :
          t.requests (first :: others) = t.requests others :=
        List.filterMap_cons_none hrequest
      rw [hrequests] at h
      rw [enrich_not_asked hrequest] at hs'
      cases i with
      | zero =>
        cases hs
        cases hs'
        exact filled_fillMaster hrequest _
      | succ i =>
        rw [List.take_succ_cons, hrequests]
        exact ih h hs hs'

/-! ## Asking -/

section

variable {σ : Type}

/-- Questions that are asked one after the other have one answer each, which may depend on what was
asked before. -/
theorem asked_mapM {α β : Type} (f : α → StateM σ β) (items : List α) (s : σ) :
    ∃ asked : List (α × β), asked.map (·.1) = items ∧
      asked.map (·.2) = ((items.mapM f).run s).1 ∧
      ∀ question ∈ asked, ∃ s', ((f question.1).run s').1 = question.2 := by
  induction items generalizing s with
  | nil => exact ⟨[], rfl, rfl, nofun⟩
  | cons item rest ih =>
    obtain ⟨asked, hitems, hanswers, hasked⟩ := ih ((f item).run s).2
    refine ⟨(item, ((f item).run s).1) :: asked, ?_, ?_, List.forall_mem_cons.2 ⟨⟨s, rfl⟩, hasked⟩⟩
    · rw [List.map_cons, hitems]
    · rw [List.map_cons, hanswers, List.mapM_cons]
      rfl

/-- The outside that the questions meet does not matter here: there is some state from which all of
them are asked in turn. -/
theorem run_askIdentities_eq (env : Environment (StateM σ)) (t : Tracker)
    (snapshots : List ProcessSnapshot) (outside : σ) :
    ∃ s, ((t.askIdentities env snapshots).run outside).1 = t.enrich snapshots
      (((t.requests snapshots).mapM fun pid => env.identity (some pid)).run s).1 := by
  unfold askIdentities
  dsimp only
  split
  next => exact ⟨_, rfl⟩
  next => exact ⟨outside, rfl⟩

/-- Filling the snapshots of a status asks the questions of `Tracker.requests`, whatever is answered
to them. No snapshot is lost or added, and each has the answer to its own question: the one at the
place that the number of questions on behalf of the snapshots before it tells. -/
theorem filled_askIdentities (env : Environment (StateM σ)) (t : Tracker)
    (snapshots : List ProcessSnapshot) (outside : σ) :
    ∃ asked : List (Pid × Except Failure Identity),
      asked.map (·.1) = t.requests snapshots ∧
      (∀ question ∈ asked, ∃ s, ((env.identity (some question.1)).run s).1 = question.2) ∧
      ((t.askIdentities env snapshots).run outside).1.length = snapshots.length ∧
      ∀ i s s', snapshots[i]? = some s →
        ((t.askIdentities env snapshots).run outside).1[i]? = some s' →
        t.Filled asked[(t.requests (snapshots.take i)).length]? s s' := by
  obtain ⟨s, hfilled⟩ := run_askIdentities_eq env t snapshots outside
  obtain ⟨asked, hrequests, hanswers, hasked⟩ :=
    asked_mapM (fun pid => env.identity (some pid)) (t.requests snapshots) s
  rw [hfilled, ← hanswers]
  refine ⟨asked, hrequests, hasked, ?_, fun i s s' hs hs' => filled_enrich hrequests hs hs'⟩
  have hpids := congrArg List.length (t.pids_enrich snapshots (asked.map (·.2)))
  rwa [List.length_map, List.length_map] at hpids

-- the question for the first snapshot fails, and the second one is of the master process
example :
    let gone (pid : Option Pid) : Except Failure Identity :=
      if pid = some 2 then .error ⟨"Gone"⟩ else .ok ⟨3, some 1, none, none, []⟩
    (((Tracker.empty.setMaster ⟨1, some 7, none, none, []⟩).askIdentities scripted
        [{ ProcessSnapshot.empty with pid := some 2 }, { ProcessSnapshot.empty with pid := some 1 },
          { ProcessSnapshot.empty with pid := some 3 }]).run ⟨gone, []⟩).1.map (·.parent)
      = [.absent, .value 7, .value 1] := rfl

end

end Tracker

end ProcessWatch
