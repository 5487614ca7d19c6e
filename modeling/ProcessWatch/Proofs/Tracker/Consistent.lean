import ProcessWatch.Proofs.Record.WellFormed
import ProcessWatch.Proofs.Tracker.Run

/-!
# What holds in every tracker that can be reached

Every record of a tracker is well-formed, whatever the events were. One of a process that does not
run has an age of at least one cycle, and a status keeps no record that is older than its limit.

## The architecture

* **`ProcessRecord.Aged`** — the bounds of an age.
* **`invariant_wellFormed`** — everything that happens to a record keeps it well-formed;
  `wellFormed_joined` and `aged_joined` — what the snapshots of a status keep.
* **`Aged.settle`** — a record that a status keeps is not older than the limit of that status. This
  needs the old ages to be bounded: the greatest one would start again at zero.
* **`Tracker.wellFormed_after`**, **`Tracker.consistent_after`** — the invariant over all runs.
-/

namespace ProcessWatch

namespace ProcessRecord

variable {ctx : CycleContext} {pid : Pid} {known : Option ProcessRecord} {s : ProcessSnapshot}
  {p : ProcessRecord} {limit : Option UInt32}

/-! ## One record

What makes a record well formed is checked for a new one, for a merge and for one that a status
leaves out; `ProcessRecord.Invariant` lifts it to runs. The age is not of that kind, since the limit
may differ from status to status. -/

/-- A process that does not run has been stopped for one cycle at least, and for no more than a
limit. -/
def Aged (limit : Option UInt32) (p : ProcessRecord) : Prop :=
  p.isRunning = false →
    ∃ age most, p.age = some age ∧ limit = some most ∧ 1 ≤ age ∧ age ≤ most

/-- Ages are only asked of what does not run. -/
theorem aged_of_running (h : p.isRunning = true) : p.Aged limit := by
  intro hstopped
  rw [h] at hstopped
  cases hstopped

/-- Everything that happens to a record keeps it well-formed, if the snapshots are received. -/
theorem invariant_wellFormed : Invariant Plain WellFormed where
  create ctx pid _ hs := wellFormed_create ctx pid hs
  fill _ hs := plain_fill _ hs
  merge h hi running hok := h.merge hi running hok
  settle reported h := h.settle reported

/-- The bounds of an age are no such invariant, since leaving a process out needs its limit. But
snapshots keep them: what was merged runs. -/
theorem aged_follow {snapshots : List ProcessSnapshot}
    (hknown : ∀ old, known = some old → old.Aged limit) :
    ∀ p, (follow ctx pid known snapshots).1 = some p → p.Aged limit :=
  forall_follow (fun _ _ _ _ _ _ hrenew => aged_of_running (isRunning_renew hrenew)) hknown

/-- The next age is at least one: an age that is moderate does not wrap around. -/
theorem one_le_nextAge (hp : p.WellFormed pid) (aged : p.Aged limit)
    (moderate : ∀ most, limit = some most → most < 4294967295) : 1 ≤ p.nextAge := by
  cases hrun : p.isRunning with
  | true =>
    have hage : p.age = none := hp.running_iff.1 hrun
    unfold nextAge
    rw [hage]
    exact UInt32.le_refl 1
  | false =>
    obtain ⟨age, most, hage, hlimit, _, hmost⟩ := aged hrun
    have hlt : age < 4294967295 := UInt32.lt_of_le_of_lt hmost (moderate most hlimit)
    have hnext : p.nextAge = age + 1 := by
      unfold nextAge
      rw [hage]
    -- the old limit is what keeps the sum from starting again at zero
    rw [hnext, UInt32.le_iff_toNat_le, toNat_succ_age hlt]
    exact Nat.le_add_left 1 age.toNat

/-- A record that a status keeps is no older than the limit of that status. -/
theorem Aged.settle (aged : p.Aged limit) (hp : p.WellFormed pid)
    (moderate : ∀ most, limit = some most → most < 4294967295) {reported : ReportedFiles}
    {most : UInt32} (kept : (p.settle reported).isExpired most = false) :
    (p.settle reported).Aged (some most) := by
  intro hstopped
  have hage : (p.settle reported).age = some p.nextAge := by
    rw [settle_isRunning] at hstopped
    rw [settle_age, hstopped]
    rfl
  refine ⟨p.nextAge, most, hage, rfl, one_le_nextAge hp aged moderate, ?_⟩
  unfold isExpired at kept
  rw [hstopped, hage] at kept
  exact UInt32.not_lt.1 (of_decide_eq_false kept)

end ProcessRecord

/-! ## All runs -/

namespace Tracker

open ProcessRecord (Aged aged_follow invariant_wellFormed plain_of_received)

variable {t : Tracker} {settings : Settings} {entries : Entries} {limit : Option UInt32}

/-- Every record of a tracker is well-formed. -/
def WellFormed (t : Tracker) : Prop := ∀ pid p, t.process? pid = some p → p.WellFormed pid

/-- The records of a tracker that do not run are within a limit. -/
def Aged (t : Tracker) (limit : Option UInt32) : Prop :=
  ∀ pid p, t.process? pid = some p → p.Aged limit

/-- The records within a cycle are well formed. -/
theorem wellFormed_joined (h : t.WellFormed) (hs : ∀ s ∈ entries.snapshots, s.Received) {pid : Pid}
    {p : ProcessRecord} (hp : (t.joined settings entries).get? pid = some p) : p.WellFormed pid :=
  invariant_wellFormed.joined h settings (fun s hmem => plain_of_received (hs s hmem)) pid p hp

/-- So they stand at their own pids. -/
theorem keyed_joined (settings : Settings) (h : t.WellFormed)
    (hs : ∀ s ∈ entries.snapshots, s.Received) : (t.joined settings entries).Keyed :=
  fun _ _ hp => (wellFormed_joined h hs hp).pid_eq

/-- A snapshot makes its process run, so what is stopped within a cycle was stopped before it. -/
theorem aged_joined (h : t.Aged limit) {pid : Pid} {p : ProcessRecord}
    (hp : (t.joined settings entries).get? pid = some p) : p.Aged limit := by
  rw [get?_joined] at hp
  exact aged_follow (h pid) p hp

/-- The record of a process that is tracked after a status comes from one that was joined and has
not expired. -/
theorem of_process?_apply (h : t.WellFormed) (hs : ∀ s ∈ entries.snapshots, s.Received) {pid : Pid}
    {p : ProcessRecord} (hp : (t.apply settings entries).1.process? pid = some p) :
    ∃ old, (t.joined settings entries).get? pid = some old ∧
      old.settle (entries.reportedFiles t.processes) = p ∧
      p.isExpired settings.keepDeadFor = false := by
  rw [process?_apply, culled_apply, ← get?_joined] at hp
  split at hp
  next => cases hp
  next hkept =>
    obtain ⟨old, hold, rfl⟩ := Option.map_eq_some_iff.1 hp
    refine ⟨old, hold, rfl, ?_⟩
    rw [← Bool.not_eq_true]
    intro hexpired
    have keyed := keyed_joined settings h hs
    refine hkept (ProcessTable.mem_culled_of_expired keyed ?_)
    refine (ProcessTable.mem_expired_iff (keyed.settled _)).2 ⟨_, ?_, hexpired⟩
    rw [ProcessTable.get?_settled, hold]
    rfl

/-- Every event keeps the ages within the limit of the last status. -/
theorem Aged.handle (aged : t.Aged limit) (h : t.WellFormed)
    (moderate : ∀ most, limit = some most → most < 4294967295) {e : Event} (he : e.Received) :
    (t.handle e).Aged (e.limit?.or limit) := by
  intro pid p hp
  cases e with
  | identified master =>
    rw [process?_handle_identified] at hp
    exact aged pid p hp
  | seen ctx s =>
    rw [process?_handle_seen] at hp
    exact aged_follow (aged pid) p hp
  | applied settings entries =>
    obtain ⟨old, hold, rfl, hfresh⟩ := of_process?_apply h he hp
    exact (aged_joined aged hold).settle (wellFormed_joined h he hold) moderate hfresh

/-- Events keep all records well-formed, wherever they start from. -/
theorem WellFormed.foldl_handle (h : t.WellFormed) {events : List Event}
    (received : ∀ e ∈ events, e.Received) : (events.foldl Tracker.handle t).WellFormed :=
  invariant_wellFormed.foldl_handle h fun e he s hs =>
    plain_of_received ((received e he).snapshots s hs)

/-- The records that a run leads to are well formed. -/
theorem wellFormed_after {events : List Event} (received : ∀ e ∈ events, e.Received) :
    (after events).WellFormed :=
  invariant_wellFormed.after fun e he s hs => plain_of_received ((received e he).snapshots s hs)

/-- If all limits are moderate, the last one is. -/
theorem lastLimit_lt {events : List Event}
    (moderate : ∀ e ∈ events, ∀ most, e.limit? = some most → most < 4294967295) {most : UInt32}
    (h : lastLimit events = some most) : most < 4294967295 := by
  have hmem : most ∈ events.filterMap Event.limit? := List.mem_of_getLast? h
  obtain ⟨e, he, hlimit⟩ := List.mem_filterMap.1 hmem
  exact moderate e he most hlimit

/-- The ages after a run, by the limit of its last status: each status lets every stopped process
grow older by one, and culls what is above its limit. -/
theorem aged_after {events : List Event} (received : ∀ e ∈ events, e.Received)
    (moderate : ∀ e ∈ events, ∀ most, e.limit? = some most → most < 4294967295) :
    (after events).Aged (lastLimit events) := by
  refine after_induction
    (P := fun events t => (∀ e ∈ events, e.Received) →
      (∀ e ∈ events, ∀ most, e.limit? = some most → most < 4294967295) → t.Aged (lastLimit events))
    ?_ ?_ events received moderate
  · intro _ _ pid p hp
    cases hp
  · intro past e ih hreceived hmoderate
    have hpast : ∀ e' ∈ past, e'.Received := fun e' he' => hreceived e' (List.mem_append_left _ he')
    have hlimits : ∀ e' ∈ past, ∀ most, e'.limit? = some most → most < 4294967295 :=
      fun e' he' => hmoderate e' (List.mem_append_left _ he')
    -- the last event may set another limit than the ages before it kept to
    rw [lastLimit_concat]
    exact (ih hpast hlimits).handle (wellFormed_after hpast) (fun _ => lastLimit_lt hlimits)
      (hreceived e List.mem_concat_self)

/-- No age that a run leads to is the greatest one. -/
theorem age_lt {events : List Event} (received : ∀ e ∈ events, e.Received)
    (moderate : ∀ e ∈ events, ∀ most, e.limit? = some most → most < 4294967295) {pid : Pid}
    {p : ProcessRecord} (tracked : (after events).process? pid = some p) {age : UInt32}
    (hage : p.age = some age) : age < 4294967295 := by
  have hp := wellFormed_after received pid p tracked
  have hstopped : p.isRunning = false := by
    rw [← Bool.not_eq_true, hp.running_iff, hage]
    exact nofun
  obtain ⟨age', most, hage', hmost, _, hle⟩ := aged_after received moderate pid p tracked hstopped
  rw [hage] at hage'
  cases hage'
  exact UInt32.lt_of_le_of_lt hle (lastLimit_lt moderate hmost)

/-- What holds of every record after every run. It is consistent with itself; and if the process
does not run, it has been stopped for one cycle at least, and for no more cycles than the last
status allows. -/
theorem consistent_after {events : List Event} (received : ∀ e ∈ events, e.Received)
    (moderate : ∀ e ∈ events, ∀ most, e.limit? = some most → most < 4294967295) {pid : Pid}
    {p : ProcessRecord} (tracked : (after events).process? pid = some p) :
    p.WellFormed pid ∧
      (p.isRunning = false →
        ∃ age most, p.age = some age ∧ lastLimit events = some most ∧ 1 ≤ age ∧ age ≤ most) :=
  ⟨wellFormed_after received pid p tracked, aged_after received moderate pid p tracked⟩

/-- A run with a process that has a file open and then is left out. -/
def stopRun : List Event :=
  [.applied .default
    (.ofStatus (.byPid [("1", .object [("open_files", .object [("/log", .object [])])])])),
   .applied .default (.ofStatus (.list []))]

/-- A process that stopped in the second cycle is well formed, and of an age between one and the
limit. -/
theorem consistent_after_stopRun :
    (∀ e ∈ stopRun, e.Received) ∧
      (∀ e ∈ stopRun, ∀ most, e.limit? = some most → most < 4294967295) ∧
      ∃ p, (after stopRun).process? 1 = some p ∧ p.isRunning = false ∧ p.WellFormed 1 ∧
        ∃ age most, p.age = some age ∧ lastLimit stopRun = some most ∧ 1 ≤ age ∧ age ≤ most := by
  have received : ∀ e ∈ stopRun, e.Received := by
    intro e he
    rcases List.mem_cons.1 he with rfl | he
    · exact Entries.received_ofStatus _
    · rw [List.mem_singleton.1 he]
      exact Entries.received_ofStatus _
  have moderate : ∀ e ∈ stopRun, ∀ most, e.limit? = some most → most < 4294967295 := by
    intro e he most hmost
    rcases List.mem_cons.1 he with rfl | he
    · cases hmost
      decide
    · rw [List.mem_singleton.1 he] at hmost
      cases hmost
      decide
  have hstopped : ((after stopRun).process? 1).map (·.isRunning) = some false := by decide
  obtain ⟨p, tracked, hrun⟩ := Option.map_eq_some_iff.1 hstopped
  obtain ⟨wellFormed, aged⟩ := consistent_after received moderate tracked
  exact ⟨received, moderate, p, tracked, hrun, wellFormed, aged hrun⟩

end Tracker

end ProcessWatch
