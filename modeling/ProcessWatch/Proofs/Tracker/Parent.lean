import ProcessWatch.Proofs.Tracker.Status

/-!
# What the snapshots of a status say about the parent

A snapshot that tells the parent sets it, one that tells that there is none clears it, and one that
says nothing leaves it. So the parent after a status is the one that its snapshots agree on, as soon
as one of them is merged.

* **`ProcessRecord.Live`** — the fields of a record that every merge sets the same way.
* **`ProcessRecord.parent_follow`** — snapshots that keep the parent.
* **`ProcessRecord.cleared_or_clashing`** — snapshots that clear it.
-/

namespace ProcessWatch

namespace Reported

variable {α : Type}

theorem value?_orKnown_absent (known : Option α) : (absent.orKnown known).value? = known := by
  cases known <;> rfl

/-- What is reported shows itself. -/
theorem value?_orKnown_of_reported {incoming : Reported α} (h : incoming ≠ .absent)
    (known : Option α) : (incoming.orKnown known).value? = incoming.value? := by
  cases incoming with
  | absent => exact absurd rfl h
  | null | value _ => rfl

end Reported

namespace ProcessRecord

variable {ctx : CycleContext} {pid : Pid} {known : Option ProcessRecord} {s : ProcessSnapshot}
  {p : ProcessRecord}

/-! ## One snapshot -/

/-- The record of a process that runs, under its pid, flagged as that of the master process if it is
that. -/
structure Live (masterPid : Option Pid) (pid : Pid) (p : ProcessRecord) : Prop where
  pid_eq : p.pid = pid
  running : p.isRunning = true
  isMaster : p.isMaster = (masterPid == some pid)

/-- A record that a snapshot went into is live. -/
theorem live_renew (hknown : ∀ old, known = some old → old.pid = pid)
    (h : renew ctx pid known s = .ok p) : p.Live ctx.masterPid pid := by
  rcases renew_cases h with ⟨old, hold, _, hok, rfl⟩ | ⟨_, rfl⟩
  · rw [merge_of_ok hok]
    exact ⟨hknown old hold, rfl, rfl⟩
  · exact ⟨rfl, rfl, rfl⟩

/-- The parent of a running process is the reported one, or the known one if none was reported. -/
theorem parent_renew_of_running (running : p.isRunning = true) {p' : ProcessRecord}
    (h : renew ctx pid (some p) s = .ok p') : p'.parent = (s.parent.orKnown p.parent).value? := by
  rcases renew_cases h with ⟨old, hold, _, hok, rfl⟩ | ⟨hstopped, _⟩
  · cases hold
    rw [merge_of_ok hok]
    rfl
  · rw [hstopped p rfl] at running
    cases running

theorem parent_renew_of_absent {p' : ProcessRecord} (h : renew ctx pid none s = .ok p') :
    p'.parent = s.parent.value? := by
  cases h
  rfl

/-! ## All snapshots

A record stays, and stays live, along the snapshots of a status. Where these agree on a parent, it
has that one afterwards. -/

variable {snapshots : List ProcessSnapshot}

/-- Snapshots keep a record live. -/
theorem live_follow (hknown : ∀ old, known = some old → old.Live ctx.masterPid pid) :
    ∀ p, (follow ctx pid known snapshots).1 = some p → p.Live ctx.masterPid pid :=
  forall_follow
    (fun _ _ _ _ _ hbefore hrenew => live_renew (fun old hold => (hbefore old hold).pid_eq) hrenew)
    hknown

/-- A record stays. -/
theorem follow_of_known (h : known.isSome = true) :
    (follow ctx pid known snapshots).1.isSome = true := by
  refine follow_induction (P := fun record => record.isSome = true) ?_ h
  intro _ _ _ _ _ _ _
  rfl

/-- A process with a snapshot has a record. -/
theorem follow_of_listed (h : ∃ s ∈ snapshots, s.pid = some pid) :
    (follow ctx pid known snapshots).1.isSome = true := by
  -- the first snapshot of the process makes a record or meets one, and the rest keeps it
  induction snapshots generalizing known with
  | nil =>
    obtain ⟨_, hmem, _⟩ := h
    cases hmem
  | cons s rest ih =>
    by_cases hs : s.pid = some pid
    · cases hrenew : renew ctx pid known s with
      | ok p =>
        rw [follow_ok hs hrenew]
        exact follow_of_known rfl
      | error cause =>
        obtain ⟨p, hp, _⟩ := renew_error hrenew
        rw [follow_error hs hrenew, hp]
        exact follow_of_known rfl
    · rw [follow_other hs]
      obtain ⟨s', hmem, hpid⟩ := h
      rcases List.mem_cons.1 hmem with rfl | hrest
      · exact absurd hpid hs
      · exact ih ⟨s', hrest, hpid⟩

/-- If every snapshot tells one parent, or says nothing where that is known already, it is the
parent afterwards. -/
theorem parent_follow {parent : Option Pid}
    (hknown : ∀ old, known = some old → old.isRunning = true ∧ old.parent = parent)
    (told : ∀ s ∈ snapshots, s.pid = some pid →
      s.parent.value? = parent ∨ (s.parent = .absent ∧ known.isSome = true)) :
    ∀ p, (follow ctx pid known snapshots).1 = some p → p.isRunning = true ∧ p.parent = parent := by
  -- a snapshot that says nothing relies on the record, so that it stays belongs to the invariant
  have hinv : (known.isSome = true → (follow ctx pid known snapshots).1.isSome = true) ∧
      ∀ p, (follow ctx pid known snapshots).1 = some p →
        p.isRunning = true ∧ p.parent = parent := by
    refine follow_induction
      (P := fun record => (known.isSome = true → record.isSome = true) ∧
        ∀ p, record = some p → p.isRunning = true ∧ p.parent = parent) ?_ ⟨id, hknown⟩
    intro record s p hmem hpid ⟨hstays, hrecord⟩ hrenew
    refine ⟨fun _ => rfl, ?_⟩
    intro p' heq
    cases heq
    refine ⟨isRunning_renew hrenew, ?_⟩
    cases record with
    | none =>
      rw [parent_renew_of_absent hrenew]
      rcases told s hmem hpid with htold | ⟨_, hsome⟩
      · exact htold
      · exact absurd (hstays hsome) Bool.false_ne_true
    | some old =>
      obtain ⟨running, hparent⟩ := hrecord old rfl
      rw [parent_renew_of_running running hrenew, hparent]
      by_cases habsent : s.parent = .absent
      · rw [habsent, Reported.value?_orKnown_absent]
      · rw [Reported.value?_orKnown_of_reported habsent]
        rcases told s hmem hpid with htold | ⟨hnothing, _⟩
        · exact htold
        · exact absurd hnothing habsent
  exact hinv.2

/-- Snapshots that tell that there is no parent clear it, unless all of them clash. Once it is
cleared, further ones do not change that. -/
theorem cleared_or_clashing (running : p.isRunning = true)
    (null : ∀ s ∈ snapshots, s.pid = some pid → s.parent = .null) :
    (∀ p', (follow ctx pid (some p) snapshots).1 = some p' → p'.parent = none) ∨
      ∀ s ∈ snapshots, s.pid = some pid → ∃ cause, renew ctx pid (some p) s = .error cause := by
  induction snapshots with
  | nil => exact .inr nofun
  | cons s rest ih =>
    obtain ⟨hnull, hrest⟩ := List.forall_mem_cons.1 null
    by_cases hs : s.pid = some pid
    · cases hrenew : renew ctx pid (some p) s with
      | ok p₁ =>
        -- the first one that is merged clears the parent, and those behind it keep it cleared
        have hcleared : p₁.parent = none := by
          rw [parent_renew_of_running running hrenew, hnull hs]
          rfl
        left
        rw [follow_ok hs hrenew]
        intro p' hp'
        have hkeeps : ∀ old, some p₁ = some old → old.isRunning = true ∧ old.parent = none := by
          intro old hold
          cases hold
          exact ⟨isRunning_renew hrenew, hcleared⟩
        refine (parent_follow hkeeps ?_ p' hp').2
        intro s' hmem hpid
        rw [hrest s' hmem hpid]
        exact .inl rfl
      | error cause =>
        rw [follow_error hs hrenew]
        rcases ih hrest with hcleared | hclashing
        · exact .inl hcleared
        · refine .inr (List.forall_mem_cons.2 ⟨fun _ => ⟨cause, hrenew⟩, hclashing⟩)
    · rw [follow_other hs]
      rcases ih hrest with hcleared | hclashing
      · exact .inl hcleared
      · exact .inr (List.forall_mem_cons.2 ⟨fun hpid => absurd hpid hs, hclashing⟩)

end ProcessRecord

end ProcessWatch
