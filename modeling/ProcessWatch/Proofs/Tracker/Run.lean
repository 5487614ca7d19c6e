import ProcessWatch.Proofs.Tracker.Status
import ProcessWatch.Proofs.Wire.Received

/-!
# Runs of a tracker

A tracker changes when the master process becomes known, when a single snapshot is merged and when a
status is applied. A run is a list of such events, and what can be reached from nothing is what some
run leaves behind.

* **`Event`**, **`Tracker.handle`**, **`Tracker.after`** — the events, what one of them does, and
  what a list of them leaves behind.
* **`Tracker.process?_handle_seen`** — a single snapshot, as seen from one process. A status is
  taken apart in `process?_apply`.
* **`Tracker.after_induction`** — the induction over runs: what an event keeps holds after a run.
* **`ProcessRecord.Invariant`** — a property that everything that happens to a record keeps;
  `Invariant.after` lifts it to the records that a run leads to.
-/

namespace ProcessWatch

/-- What happens to a tracker. -/
inductive Event where
  /-- The master process became known. -/
  | identified (master : Identity)
  /-- A snapshot was merged on its own, in any context. -/
  | seen (ctx : CycleContext) (snapshot : ProcessSnapshot)
  /-- A status was applied. -/
  | applied (settings : Settings) (entries : Entries)

namespace Event

/-- The snapshots that an event brings. -/
def snapshots : Event → List ProcessSnapshot
  | identified _ => []
  | seen _ snapshot => [snapshot]
  | applied _ entries => entries.snapshots

/-- All snapshots of an event came from a monitor. -/
def Received : Event → Prop
  | identified _ => True
  | seen _ snapshot => snapshot.Received
  | applied _ entries => ∀ s ∈ entries.snapshots, s.Received

/-- Every snapshot of such an event came from a monitor. -/
theorem Received.snapshots {e : Event} (h : e.Received) : ∀ s ∈ e.snapshots, s.Received := by
  cases e with
  | identified master => exact List.forall_mem_nil _
  | seen ctx s => exact List.forall_mem_singleton.2 h
  | applied settings entries => exact h

/-- The number of cycles that a stopped process is kept, where an event decides it. -/
def limit? : Event → Option UInt32
  | applied settings _ => some settings.keepDeadFor
  | _ => none

end Event

/-- The limit of the last status among some events. -/
def lastLimit (events : List Event) : Option UInt32 := (events.filterMap Event.limit?).getLast?

/-- The last limit is that of the last status; events without one do not change it. -/
theorem lastLimit_concat (events : List Event) (e : Event) :
    lastLimit (events ++ [e]) = e.limit?.or (lastLimit events) := by
  unfold lastLimit
  rw [List.filterMap_append, List.getLast?_append]
  congr 1
  cases h : e.limit? <;> simp [h]

namespace Tracker

/-- The tracker after an event. A snapshot that cannot be merged changes nothing. -/
def handle (t : Tracker) : Event → Tracker
  | .identified master => t.setMaster master
  | .seen ctx snapshot =>
    match t.track ctx snapshot with
    | .ok t => t
    | .error _ => t
  | .applied settings entries => (t.apply settings entries).1

/-- The tracker after a run that starts from nothing. -/
def after (events : List Event) : Tracker := events.foldl handle .empty

theorem after_append (events more : List Event) :
    after (events ++ more) = more.foldl handle (after events) :=
  List.foldl_append

/-- What holds of nothing, and what every event keeps, holds after every run. -/
theorem after_induction {P : List Event → Tracker → Prop} (start : P [] .empty)
    (step : ∀ past e, P past (after past) → P (past ++ [e]) ((after past).handle e))
    (events : List Event) : P events (after events) := by
  -- a run grows at its end, so the events that are left are what the induction is on
  have extend (past : List Event) (hpast : P past (after past)) :
      P (past ++ events) (after (past ++ events)) := by
    induction events generalizing past with
    | nil =>
      rw [List.append_nil]
      exact hpast
    | cons e rest ih =>
      have hnext : P (past ++ [e]) (after (past ++ [e])) := by
        rw [after_append]
        exact step past e hpast
      rw [List.append_cons]
      exact ih (past ++ [e]) hnext
  exact extend [] start

/-! ## One event, one process -/

variable (t : Tracker) (pid : Pid)

theorem process?_handle_identified (master : Identity) :
    (t.handle (.identified master)).process? pid = t.process? pid := rfl

/-- A single snapshot does what it does within a status, and leaves other processes alone. -/
theorem process?_handle_seen (ctx : CycleContext) (s : ProcessSnapshot) :
    (t.handle (.seen ctx s)).process? pid
      = (ProcessRecord.follow ctx pid (t.process? pid) [s]).1 := by
  have hstep : (t.handle (.seen ctx s)).processes
      = (Tracking.step ctx ⟨t.processes, [], []⟩ s).table := by
    unfold handle track Tracking.step
    dsimp only
    cases t.processes.track ctx s <;> rfl
  unfold process?
  rw [hstep]
  exact (Tracking.foldl_step pid [s] ⟨t.processes, [], []⟩).1

end Tracker

/-! ## What all runs keep

Most of what holds of every record of a tracker is kept by the same three things: by making a record
of a snapshot, by merging a record of a snapshot into another one, and by leaving a process or its
files out of a status. Whatever is kept by them holds after every run, and this is shown once for
all. -/

namespace ProcessRecord

/-- A property of records that new ones have and that merging and settling keep, as long as the
snapshots have the property `Q`. A snapshot of a process that runs keeps `Q` when the record fills
its gaps. -/
structure Invariant (Q : ProcessSnapshot → Prop) (P : Pid → ProcessRecord → Prop) : Prop where
  create : ∀ (ctx : CycleContext) (pid : Pid) {s : ProcessSnapshot}, Q s →
    P pid (ProcessRecord.create ctx pid s)
  fill : ∀ {pid : Pid} {p : ProcessRecord} {s : ProcessSnapshot}, P pid p → Q s → Q (p.fill s)
  merge : ∀ {pid : Pid} {p incoming : ProcessRecord}, P pid p → P pid incoming →
    incoming.isRunning = true → (p.merge incoming).error = none → P pid (p.merge incoming).value
  settle : ∀ {pid : Pid} {p : ProcessRecord} (reported : ReportedFiles), P pid p →
    P pid (p.settle reported)

namespace Invariant

variable {Q : ProcessSnapshot → Prop} {P : Pid → ProcessRecord → Prop} {ctx : CycleContext}
  {pid : Pid} {known : Option ProcessRecord} {t : Tracker}

/-- One snapshot keeps it, whether it is merged or makes a new record. -/
theorem renew (inv : Invariant Q P) (hknown : ∀ old, known = some old → P pid old)
    {s : ProcessSnapshot} (hs : Q s) {p : ProcessRecord}
    (h : ProcessRecord.renew ctx pid known s = .ok p) : P pid p := by
  rcases renew_cases h with ⟨old, hold, _, hok, rfl⟩ | ⟨_, rfl⟩
  · have hincoming := inv.create ctx pid (inv.fill (hknown old hold) hs)
    exact inv.merge (hknown old hold) hincoming rfl hok
  · exact inv.create ctx pid hs

/-- And so do all snapshots of a status. -/
theorem follow (inv : Invariant Q P) (hknown : ∀ old, known = some old → P pid old)
    {snapshots : List ProcessSnapshot} (hs : ∀ s ∈ snapshots, Q s) :
    ∀ p, (ProcessRecord.follow ctx pid known snapshots).1 = some p → P pid p :=
  forall_follow (fun _ s _ hmem _ hbefore hrenew => inv.renew hbefore (hs s hmem) hrenew) hknown

/-- It holds of the records within a cycle, before the status leaves anything out. -/
theorem joined (inv : Invariant Q P) (h : ∀ pid p, t.process? pid = some p → P pid p)
    (settings : Settings) {entries : Entries} (hs : ∀ s ∈ entries.snapshots, Q s) :
    ∀ pid p, (t.joined settings entries).get? pid = some p → P pid p := by
  intro pid p hp
  rw [Tracker.get?_joined] at hp
  exact inv.follow (h pid) hs p hp

/-- Every event keeps it. -/
theorem handle (inv : Invariant Q P) (h : ∀ pid p, t.process? pid = some p → P pid p) {e : Event}
    (hs : ∀ s ∈ e.snapshots, Q s) : ∀ pid p, (t.handle e).process? pid = some p → P pid p := by
  intro pid p hp
  cases e with
  | identified master =>
    rw [Tracker.process?_handle_identified] at hp
    exact h pid p hp
  | seen ctx s =>
    rw [Tracker.process?_handle_seen] at hp
    exact inv.follow (h pid) hs p hp
  | applied settings entries =>
    obtain ⟨old, hold, rfl⟩ := Tracker.joined_of_process?_apply t settings entries hp
    exact inv.settle _ (inv.joined h settings hs pid old hold)

/-- And so do several events, wherever they start from. -/
theorem foldl_handle (inv : Invariant Q P) (h : ∀ pid p, t.process? pid = some p → P pid p)
    {events : List Event} (hs : ∀ e ∈ events, ∀ s ∈ e.snapshots, Q s) :
    ∀ pid p, (events.foldl Tracker.handle t).process? pid = some p → P pid p := by
  induction events generalizing t with
  | nil => exact h
  | cons e rest ih =>
    obtain ⟨he, hrest⟩ := List.forall_mem_cons.1 hs
    exact ih (inv.handle h he) hrest

/-- So it holds of every record that a run leads to: there is none to begin with. -/
theorem after (inv : Invariant Q P) {events : List Event}
    (hs : ∀ e ∈ events, ∀ s ∈ e.snapshots, Q s) :
    ∀ pid p, (Tracker.after events).process? pid = some p → P pid p := by
  have hempty : ∀ pid p, Tracker.empty.process? pid = some p → P pid p := by
    intro pid p hp
    cases hp
  exact inv.foldl_handle hempty hs

end Invariant

end ProcessRecord

end ProcessWatch
