import ProcessWatch.Enrichment
import ProcessWatch.Proofs.Wire.Received

/-!
# What filling snapshots changes

* **`Tracker.mem_enrich`** — a filled snapshot is one of those that came, with the gaps that it may
  have filled by one identity.
* **`Tracker.pids_enrich`** — no snapshot is lost or added, and none changes its process.
* **`Tracker.enrich_eq_map`** — where the answers only depend on the process, every snapshot is
  filled on its own.
-/

namespace ProcessWatch

namespace ProcessSnapshot

/-- A snapshot as it came or filled with an identity. -/
def FilledFrom (s s' : ProcessSnapshot) : Prop := s' = s ∨ ∃ identity, s' = s.withIdentity identity

theorem FilledFrom.pid_eq {s s' : ProcessSnapshot} (h : FilledFrom s s') : s'.pid = s.pid := by
  rcases h with rfl | ⟨identity, rfl⟩ <;> rfl

/-- A snapshot that came from a monitor is still one of that kind after it was filled. -/
theorem FilledFrom.received {s s' : ProcessSnapshot} (h : FilledFrom s s') (hs : s.Received) :
    s'.Received := by
  rcases h with rfl | ⟨identity, rfl⟩
  · exact hs
  · exact hs.filled identity

theorem FilledFrom.time_eq {s s' : ProcessSnapshot} (h : FilledFrom s s') : s'.time = s.time := by
  rcases h with rfl | ⟨identity, rfl⟩ <;> rfl

theorem FilledFrom.openFiles_eq {s s' : ProcessSnapshot} (h : FilledFrom s s') :
    s'.openFiles = s.openFiles := by
  rcases h with rfl | ⟨identity, rfl⟩ <;> rfl

/-- A parent that a snapshot does not have is taken from the identity. -/
theorem parent_withIdentity {s : ProcessSnapshot} {identity : Identity}
    {parent : Pid} (hs : s.parent.value? = none) (hidentity : identity.parent = some parent) :
    (s.withIdentity identity).parent = .value parent := by
  unfold withIdentity
  dsimp only
  rw [hs, hidentity]

/-- Filling repeats no name and takes no field away. -/
theorem FilledFrom.fields {s s' : ProcessSnapshot} (h : FilledFrom s s')
    (names : (Fields.names s.fields).Nodup) :
    (Fields.names s'.fields).Nodup ∧ ∀ field ∈ s.fields, field ∈ s'.fields := by
  rcases h with rfl | ⟨identity, rfl⟩
  · exact ⟨names, fun _ hfield => hfield⟩
  · unfold withIdentity
    dsimp only
    refine ⟨?_, ?_⟩
    · cases identity.cmdline <;> cases identity.workingDirectory <;>
        simp only [names, Fields.nodup_names_setIfAbsent]
    · -- a field that is set where it was absent leaves all others
      intro field hfield
      have hget : Fields.get? field.1 s.fields = some field.2 :=
        (Fields.get?_eq_some_iff_mem names).2 hfield
      apply Fields.mem_of_get?
      cases identity.cmdline <;> cases identity.workingDirectory
      · exact hget
      · exact Fields.get?_setIfAbsent_of_some hget
      · exact Fields.get?_setIfAbsent_of_some hget
      · exact Fields.get?_setIfAbsent_of_some (Fields.get?_setIfAbsent_of_some hget)

end ProcessSnapshot

namespace Tracker

open ProcessSnapshot (FilledFrom)

variable {t : Tracker} {snapshots : List ProcessSnapshot} {answers : List (Except Failure Identity)}

/-- An answer fills a snapshot if it is an identity, and leaves it alone if it is a failure. -/
theorem filledFrom_fillAnswer (s : ProcessSnapshot) (answer : Except Failure Identity) :
    FilledFrom s (fillAnswer s answer) := by
  cases answer with
  | ok identity => exact .inr ⟨identity, rfl⟩
  | error failure => exact .inl rfl

/-- What is known of the master process fills its snapshot at most. -/
theorem filledFrom_fillMaster (t : Tracker) (s : ProcessSnapshot) :
    FilledFrom s (t.fillMaster s) := by
  unfold fillMaster
  split
  next master _ _ =>
    split
    next => exact .inr ⟨master, rfl⟩
    next => exact .inl rfl
  next => exact .inl rfl

/-- Every snapshot comes from one of the status, filled or as it was. The cases are those of the
recursion: an answer for a snapshot that was asked for, no answer left, and one that was not asked
for. -/
theorem mem_enrich {s' : ProcessSnapshot} (h : s' ∈ t.enrich snapshots answers) :
    ∃ s ∈ snapshots, FilledFrom s s' := by
  -- the cases are those of the filling; in each the first snapshot comes of its own, and the rest
  -- of the rest
  fun_induction t.enrich snapshots answers with
  | case1 => cases h
  | case2 s rest pid answer answers hpid ih =>
    rcases List.mem_cons.1 h with rfl | hrest
    · exact ⟨s, List.mem_cons_self, filledFrom_fillAnswer s answer⟩
    · obtain ⟨s₁, hs₁, hfilled⟩ := ih hrest
      exact ⟨s₁, List.mem_cons_of_mem _ hs₁, hfilled⟩
  | case3 s rest pid hpid ih =>
    rcases List.mem_cons.1 h with rfl | hrest
    · exact ⟨s', List.mem_cons_self, .inl rfl⟩
    · obtain ⟨s₁, hs₁, hfilled⟩ := ih hrest
      exact ⟨s₁, List.mem_cons_of_mem _ hs₁, hfilled⟩
  | case4 s rest answers hpid ih =>
    rcases List.mem_cons.1 h with rfl | hrest
    · exact ⟨s, List.mem_cons_self, filledFrom_fillMaster t s⟩
    · obtain ⟨s₁, hs₁, hfilled⟩ := ih hrest
      exact ⟨s₁, List.mem_cons_of_mem _ hs₁, hfilled⟩

/-- The snapshots are of the same processes as before, in the same order. -/
theorem pids_enrich (t : Tracker) (snapshots : List ProcessSnapshot)
    (answers : List (Except Failure Identity)) :
    (t.enrich snapshots answers).map (·.pid) = snapshots.map (·.pid) := by
  fun_induction t.enrich snapshots answers with
  | case1 => rfl
  | case2 s rest pid answer answers hpid ih =>
    rw [List.map_cons, List.map_cons, ih, (filledFrom_fillAnswer s answer).pid_eq]
  | case3 s rest pid hpid ih => rw [List.map_cons, List.map_cons, ih]
  | case4 s rest answers hpid ih =>
    rw [List.map_cons, List.map_cons, ih, (filledFrom_fillMaster t s).pid_eq]

/-- Snapshots that were received are still received ones after they were filled. -/
theorem received_enrich (h : ∀ s ∈ snapshots, s.Received) :
    ∀ s ∈ t.enrich snapshots answers, s.Received := by
  intro s' hs'
  obtain ⟨s, hs, hfilled⟩ := mem_enrich hs'
  exact hfilled.received (h s hs)

/-! ## Answers that only depend on the process

If the answers are a function of the pid, it does not matter how often and in which order they are
asked for, and every snapshot can be filled by itself. -/

/-- The identity of a process need not be asked for if it runs and its parent is known. -/
theorem needsIdentity_eq_false_iff {pid : Pid} :
    t.needsIdentity pid = false ↔
      ∃ p, t.process? pid = some p ∧ p.isRunning = true ∧ p.parent.isSome = true := by
  unfold needsIdentity process?
  cases t.processes.get? pid with
  | none => simp
  | some p => simp

/-- An orphan is a snapshot with a pid and no parent, of a process whose identity is needed. -/
theorem orphan?_eq_some_iff {s : ProcessSnapshot} {pid : Pid} :
    t.orphan? s = some pid ↔
      s.pid = some pid ∧ s.parent.value? = none ∧ t.needsIdentity pid = true := by
  unfold orphan?
  cases s.pid with
  | none => simp
  | some pid' =>
    cases s.parent.value? with
    | some parent => simp
    | none =>
      -- what is left to decide is whether the identity is needed
      by_cases h : t.needsIdentity pid' = true
      · simp only [h, if_true, Option.some_inj, true_and]
        constructor
        · rintro rfl
          exact ⟨rfl, h⟩
        · rintro ⟨rfl, _⟩
          rfl
      · simp only [h, Bool.false_eq_true, if_false, Option.some_inj, true_and]
        constructor
        · rintro ⟨⟩
        · rintro ⟨rfl, hneeds⟩
          exact absurd hneeds h

/-- The identity that is told of a process: of the master process the one that is known, of any
other the answer to the question for it. -/
def identityOf (master : Option Identity) (answer : Pid → Except Failure Identity) (pid : Pid) :
    Option Identity :=
  match master with
  | some master => if master.pid = pid then some master else (answer pid).toOption
  | none => (answer pid).toOption

/-- A snapshot filled with what is told of its process, if its parent is not known. -/
def fillFrom (t : Tracker) (answer : Pid → Except Failure Identity) (s : ProcessSnapshot) :
    ProcessSnapshot :=
  match (t.orphan? s).bind (identityOf t.master answer) with
  | some identity => s.withIdentity identity
  | none => s

/-- The same for a snapshot that is filled from a table of answers. -/
theorem filledFrom_fillFrom (t : Tracker) (answer : Pid → Except Failure Identity)
    (s : ProcessSnapshot) : FilledFrom s (t.fillFrom answer s) := by
  unfold fillFrom
  split
  next identity _ => exact .inr ⟨identity, rfl⟩
  next => exact .inl rfl

/-- What is no orphan is left alone. -/
theorem fillFrom_of_not_orphan {s : ProcessSnapshot} (h : t.orphan? s = none)
    (answer : Pid → Except Failure Identity) : t.fillFrom answer s = s := by
  unfold fillFrom
  rw [h]
  rfl

/-- An orphan has the parent that is told of it, or none. -/
theorem parent_fillFrom {answer : Pid → Except Failure Identity} {s : ProcessSnapshot} {pid : Pid}
    (h : t.orphan? s = some pid) :
    (t.fillFrom answer s).parent.value? = (identityOf t.master answer pid).bind (·.parent) := by
  have hparent : s.parent.value? = none := (orphan?_eq_some_iff.1 h).2.1
  unfold fillFrom
  rw [h, Option.bind_some]
  cases identityOf t.master answer pid with
  | none => exact hparent
  | some identity =>
    show (s.withIdentity identity).parent.value? = identity.parent
    unfold ProcessSnapshot.withIdentity
    dsimp only
    rw [hparent]
    cases identity.parent with
    | none => exact hparent
    | some parent => rfl

/-- An answer to the request for a process is the one that the table has for it, since no request is
for the master process. -/
theorem fillAnswer_eq_fillFrom {answer : Pid → Except Failure Identity} {s : ProcessSnapshot}
    {pid : Pid} (h : t.request? s = some pid) :
    fillAnswer s (answer pid) = t.fillFrom answer s := by
  obtain ⟨horphan, hother⟩ := Option.filter_eq_some_iff.1 h
  have hidentity : identityOf t.master answer pid = (answer pid).toOption := by
    unfold identityOf
    -- the identity of the master process is not taken from the answers, but no request is for it
    cases hmaster : t.master with
    | none => rfl
    | some master =>
      refine if_neg ?_
      rintro rfl
      simp [masterPid, hmaster] at hother
  unfold fillFrom
  rw [horphan, Option.bind_some, hidentity]
  cases answer pid <;> rfl

/-- A snapshot that nothing is asked for is filled as the table would, with what is known of the
master process or not at all. -/
theorem fillMaster_eq_fillFrom {answer : Pid → Except Failure Identity} {s : ProcessSnapshot}
    (h : t.request? s = none) : t.fillMaster s = t.fillFrom answer s := by
  unfold fillMaster fillFrom
  cases horphan : t.orphan? s with
  | none => rfl
  | some pid =>
    -- an orphan that is not asked for is the master process
    have hmasterPid : t.masterPid = some pid := by
      unfold request? at h
      rw [horphan] at h
      simpa [Option.filter] using h
    obtain ⟨master, hmaster, rfl⟩ := Option.map_eq_some_iff.1 hmasterPid
    rw [hmaster, Option.bind_some]
    unfold identityOf
    dsimp only
    rw [if_pos rfl, if_pos rfl]

/-- A snapshot that is asked for takes the next answer. -/
theorem enrich_asked {s : ProcessSnapshot} {pid : Pid} (h : t.request? s = some pid)
    (rest : List ProcessSnapshot) (answer : Except Failure Identity)
    (answers : List (Except Failure Identity)) :
    t.enrich (s :: rest) (answer :: answers) = fillAnswer s answer :: t.enrich rest answers := by
  rw [enrich.eq_def]
  dsimp only
  rw [h]

theorem enrich_not_asked {s : ProcessSnapshot} (h : t.request? s = none)
    (rest : List ProcessSnapshot) (answers : List (Except Failure Identity)) :
    t.enrich (s :: rest) answers = t.fillMaster s :: t.enrich rest answers := by
  rw [enrich.eq_def]
  dsimp only
  rw [h]

/-- If the answer to a request only depends on the process, every snapshot is filled on its own. -/
theorem enrich_eq_map (t : Tracker) (snapshots : List ProcessSnapshot)
    (answer : Pid → Except Failure Identity) :
    t.enrich snapshots ((t.requests snapshots).map answer) = snapshots.map (t.fillFrom answer) := by
  induction snapshots with
  | nil => rfl
  | cons s rest ih =>
    -- the answers keep in step with the requests: one is used up exactly where there was a request
    cases hrequest : t.request? s with
    | some pid =>
      have hrequests : t.requests (s :: rest) = pid :: t.requests rest :=
        List.filterMap_cons_some hrequest
      rw [hrequests, List.map_cons, enrich_asked hrequest, ih, List.map_cons,
        fillAnswer_eq_fillFrom hrequest]
    | none =>
      have hrequests : t.requests (s :: rest) = t.requests rest :=
        List.filterMap_cons_none hrequest
      rw [hrequests, enrich_not_asked hrequest, ih, List.map_cons, fillMaster_eq_fillFrom hrequest]

end Tracker

end ProcessWatch
