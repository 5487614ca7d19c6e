import ProcessWatch.Proofs.Polling.Cycle
import ProcessWatch.Proofs.Tracker.Consistent

/-!
# How long a stopped process is kept

A process that runs and is then left out by every status grows older by one with each of these, and
with nothing else. It is kept as long as its age is within the limit, unless it goes with the family
of another process that is not.

## The architecture

* **`ProcessRecord.absentFor`** — a record after some statuses that left its process out.
* **`Applied.RemovesBelow`** — a process is removed because it descends from another one.
* **`Tracker.process?_of_left_out`** — one such status; `Tracker.Cycles.absent` — a run of them.
* **`Tracker.retention`** — the exact time that a process is kept.
-/

namespace ProcessWatch

/-! ## One status that leaves a process out

A status that leaves a process out changes three things about it: it stops, it grows older, and its
files are closed. All else stays, so the record after several such statuses can be written down at
once. -/

namespace ProcessRecord

/-- A record of a process that ran, after some statuses that left it out. -/
def absentFor (p : ProcessRecord) : Nat → ProcessRecord
  | 0 => p
  | n + 1 =>
    { p with
      isRunning := false
      age := some (UInt32.ofNat (n + 1))
      files := p.files.mapValues FileRecord.close }

theorem absentFor_pid (p : ProcessRecord) (n : Nat) : (p.absentFor n).pid = p.pid := by
  cases n <;> rfl

/-- Closing all files twice is closing them once. -/
theorem mapValues_close_close (files : SortedMap String FileRecord) :
    (files.mapValues FileRecord.close).mapValues FileRecord.close
      = files.mapValues FileRecord.close := by
  apply SortedMap.ext_get?
  intro name
  rw [SortedMap.get?_mapValues, SortedMap.get?_mapValues]
  cases files.get? name with
  | none => rfl
  | some file =>
    rw [Option.map_some, Option.map_some, FileRecord.close_close]

/-- A status that leaves a process out makes its record one status older. -/
theorem settle_absentFor {p : ProcessRecord} {reported : ReportedFiles} (hage : p.age = none)
    (h : reported.get? p.pid = none) (n : Nat) :
    (p.absentFor n).settle reported = p.absentFor (n + 1) := by
  have hreported : reported.get? (p.absentFor n).pid = none := by
    rw [absentFor_pid]
    exact h
  rw [settle_of_not_reported hreported]
  -- a record that runs gets the age one; one that has an age gets the next one
  cases n with
  | zero =>
    unfold absentFor nextAge
    rw [hage]
    rfl
  | succ n =>
    have hclose := mapValues_close_close p.files
    have hnext : (p.absentFor (n + 1)).nextAge = UInt32.ofNat (n + 1 + 1) := by
      exact (UInt32.ofNat_add (n + 1) 1).symm
    rw [hnext]
    unfold absentFor
    dsimp only
    rw [hclose]

/-- A record that is some statuses old has expired exactly if these are more than the limit. -/
theorem isExpired_absentFor_iff {p : ProcessRecord} {limit : UInt32} {n : Nat}
    (bounded : n ≤ limit.toNat) (moderate : limit < 4294967295) :
    (p.absentFor (n + 1)).isExpired limit = true ↔ limit.toNat < n + 1 := by
  have hlimit : limit.toNat < 4294967295 := UInt32.lt_iff_toNat_lt.1 moderate
  have hage : (UInt32.ofNat (n + 1)).toNat = n + 1 := by
    rw [UInt32.toNat_ofNat']
    exact Nat.mod_eq_of_lt (by omega)
  show (true && decide (limit < UInt32.ofNat (n + 1))) = true ↔ _
  rw [Bool.true_and, decide_eq_true_iff, UInt32.lt_iff_toNat_lt, hage]

end ProcessRecord

/-- A status removes a process that descends from another one, which has expired. -/
def Applied.RemovesBelow (settings : Settings) (pid : Pid) (a : Applied) : Prop :=
  pid ∈ (a.tracker.apply settings a.entries).2.1.changes.culled ∧
    ∃ root, root ≠ pid ∧
      root ∈ ((a.tracker.joined settings a.entries).settled
        (a.entries.reportedFiles a.tracker.processes)).expired settings.keepDeadFor ∧
      ((a.tracker.joined settings a.entries).settled
        (a.entries.reportedFiles a.tracker.processes)).Descends pid root

namespace Tracker

variable {σ : Type} {env : Environment (StateM σ)} {settings : Settings} {pid : Pid}
  {p : ProcessRecord}

/-- What the merging of a status does to a process that it leaves out: nothing. -/
theorem get?_joined_of_left_out {t : Tracker} {entries : Entries} (h : pid ∉ entries.pids) :
    (t.joined settings entries).get? pid = t.process? pid := by
  have habsent : ∀ s ∈ entries.snapshots, s.pid ≠ some pid := fun s hs hpid =>
    h (Entries.mem_pids_iff.2 (.inl ⟨s, hs, hpid⟩))
  rw [get?_joined, ProcessRecord.follow_of_absent habsent]

/-- A status does not bring back what it leaves out. -/
theorem process?_of_left_out_of_untracked {t : Tracker} {entries : Entries}
    (h : pid ∉ entries.pids) (untracked : t.process? pid = none) :
    (t.apply settings entries).1.process? pid = none := by
  rw [process?_apply, ← get?_joined, get?_joined_of_left_out h, untracked]
  split <;> rfl

/-- A status that leaves a stopped process out: the record is one status older, or the process is
removed, because of its age or with the family of another one. -/
theorem process?_of_left_out {a : Applied} (wellFormed : a.tracker.WellFormed)
    (moderate : settings.keepDeadFor < 4294967295) (h : pid ∉ a.entries.pids) {n : Nat}
    (hpid : p.pid = pid) (hage : p.age = none) (bounded : n ≤ settings.keepDeadFor.toNat)
    (known : a.tracker.process? pid = some (p.absentFor n)) :
    (n + 1 ≤ settings.keepDeadFor.toNat ∧
      (a.tracker.apply settings a.entries).1.process? pid = some (p.absentFor (n + 1))) ∨
    ((a.tracker.apply settings a.entries).1.process? pid = none ∧
      (settings.keepDeadFor.toNat < n + 1 ∨ a.RemovesBelow settings pid)) := by
  have hjoined : (a.tracker.joined settings a.entries).get? pid = some (p.absentFor n) := by
    rw [get?_joined_of_left_out h, known]
  have hreported : (a.entries.reportedFiles a.tracker.processes).get? p.pid = none := by
    rw [hpid]
    exact Entries.get?_reportedFiles_eq_none_iff.2 h
  have hsettled : ((a.tracker.joined settings a.entries).settled
      (a.entries.reportedFiles a.tracker.processes)).get? pid = some (p.absentFor (n + 1)) := by
    rw [ProcessTable.get?_settled, hjoined, Option.map_some,
      ProcessRecord.settle_absentFor hage hreported]
  -- the record is culled because it is too old itself, or because it descends from one that is
  have keyed := keyed_joined settings wellFormed a.received_entries
  have hexpired : pid ∈ ((a.tracker.joined settings a.entries).settled
      (a.entries.reportedFiles a.tracker.processes)).expired settings.keepDeadFor ↔
        settings.keepDeadFor.toNat < n + 1 := by
    rw [ProcessTable.mem_expired_iff (keyed.settled _), hsettled,
      ← ProcessRecord.isExpired_absentFor_iff (p := p) bounded moderate]
    constructor
    · rintro ⟨q, hq, hexpired⟩
      cases hq
      exact hexpired
    · intro hexpired
      exact ⟨_, rfl, hexpired⟩
  have hafter := process?_apply a.tracker settings a.entries pid
  rw [← get?_joined, hjoined, Option.map_some,
    ProcessRecord.settle_absentFor hage hreported] at hafter
  by_cases hculled : pid ∈ (a.tracker.apply settings a.entries).2.1.changes.culled
  · rw [if_pos hculled] at hafter
    refine .inr ⟨hafter, ?_⟩
    rcases ProcessTable.expired_or_descends_of_culled hculled with hself | ⟨root, hroot, hbelow⟩
    · exact .inl (hexpired.1 hself)
    · by_cases hsame : root = pid
      · rw [hsame] at hroot
        exact .inl (hexpired.1 hroot)
      · exact .inr ⟨hculled, root, hsame, hroot, hbelow⟩
  · rw [if_neg hculled] at hafter
    refine .inl ⟨?_, hafter⟩
    have hfresh : ¬ settings.keepDeadFor.toNat < n + 1 := fun hlt =>
      hculled (ProcessTable.mem_culled_of_expired keyed (hexpired.2 hlt))
    omega

/-! ## Runs that leave a process out

Cycles without a status do not count, so the age is the number of the statuses. The process can go
early in one way only, with a family that expires before it. -/

/-- The question for the master process changes no record. -/
theorem process?_resolved (env : Environment (StateM σ)) (t : Tracker) (s : σ) (pid : Pid) :
    (t.resolved env s).1.process? pid = t.process? pid := by
  rcases resolved_cases env t s with h | ⟨master, h⟩ <;> rw [h]
  rfl

/-- The tracker that a status meets is well-formed if the one before the cycle is. -/
theorem WellFormed.resolved {t : Tracker} (h : t.WellFormed) (env : Environment (StateM σ))
    (s : σ) : (t.resolved env s).1.WellFormed := by
  intro pid p hp
  rw [process?_resolved] at hp
  exact h pid p hp

/-- Cycles keep all records well-formed. -/
theorem Cycles.wellFormed {t t' : Tracker} {statuses : List Applied}
    (run : Cycles env settings t statuses t') (h : t.WellFormed) : t'.WellFormed := by
  obtain ⟨events, hevents, rfl⟩ := run.events
  exact h.foldl_handle fun e he => (hevents e he).1

/-- A process that ran and is left out by all statuses of some cycles: it is as many statuses old,
and these are within the limit; or it is gone, because they are not or with the family of another
process. -/
theorem Cycles.absent {t t' : Tracker} {statuses : List Applied}
    (run : Cycles env settings t statuses t') (wellFormed : t.WellFormed)
    (moderate : settings.keepDeadFor < 4294967295) (known : t.process? pid = some p)
    (running : p.isRunning = true) (leftOut : ∀ a ∈ statuses, pid ∉ a.entries.pids) :
    (statuses.length ≤ settings.keepDeadFor.toNat ∧
      t'.process? pid = some (p.absentFor statuses.length)) ∨
    (t'.process? pid = none ∧
      (settings.keepDeadFor.toNat < statuses.length ∨
        ∃ a ∈ statuses, a.RemovesBelow settings pid)) := by
  have hp := wellFormed pid p known
  have hage : p.age = none := hp.running_iff.1 running
  induction run with
  | start => exact .inl ⟨Nat.zero_le _, known⟩
  | @failed statuses t' s failure before h ih =>
    -- what is asked before the status is had changes no record
    rw [poll_of_failed h, process?_resolved]
    exact ih leftOut
  | @told statuses t' s status before h ih =>
    have hbefore := ih fun a ha => leftOut a (List.mem_append_left _ ha)
    have hlast : pid ∉ (t'.applied env s status).entries.pids := leftOut _ List.mem_concat_self
    rw [poll_of_told h, List.length_append, List.length_singleton]
    rcases hbefore with ⟨bounded, hkept⟩ | ⟨hgone, hwhy⟩
    · have htracker : (t'.applied env s status).tracker.process? pid
          = some (p.absentFor statuses.length) := by
        rw [← hkept]
        exact process?_resolved env t' s pid
      have hwell : (t'.applied env s status).tracker.WellFormed :=
        (before.wellFormed wellFormed).resolved env s
      rcases process?_of_left_out hwell moderate hlast hp.pid_eq hage bounded htracker with
        hkept' | ⟨hgone, hold | hbelow⟩
      · exact .inl hkept'
      · exact .inr ⟨hgone, .inl hold⟩
      · exact .inr ⟨hgone, .inr ⟨_, List.mem_concat_self, hbelow⟩⟩
    · have htracker : (t'.applied env s status).tracker.process? pid = none := by
        rw [← hgone]
        exact process?_resolved env t' s pid
      refine .inr ⟨process?_of_left_out_of_untracked hlast htracker, ?_⟩
      rcases hwhy with hold | ⟨a, ha, hbelow⟩
      · exact .inl (Nat.lt_succ_of_lt hold)
      · exact .inr ⟨a, List.mem_append_left _ ha, hbelow⟩

/-- How long a process is kept that ran and is left out by all statuses of a run of cycles. Cycles
without a status do not count. As long as there were no more statuses than the limit, and the
process did not go with the family of another one, it is tracked with an age of as many statuses,
all its files are closed, and the rest of its record is as it was. With one more status it is gone.
No age is the greatest one, so none starts again at zero. -/
theorem retention {events : List Event} (received : ∀ e ∈ events, e.Received)
    (limits : ∀ e ∈ events, ∀ most, e.limit? = some most → most < 4294967295)
    (moderate : settings.keepDeadFor < 4294967295)
    (known : (after events).process? pid = some p) (running : p.isRunning = true)
    {statuses : List Applied} {t : Tracker} (run : Cycles env settings (after events) statuses t)
    (leftOut : ∀ a ∈ statuses, pid ∉ (Entries.ofStatus a.status).pids) (told : statuses ≠ []) :
    (statuses.length ≤ settings.keepDeadFor.toNat →
      (∀ a ∈ statuses, ¬ a.RemovesBelow settings pid) →
      t.process? pid = some
        { p with
          isRunning := false
          age := some (UInt32.ofNat statuses.length)
          files := p.files.mapValues FileRecord.close }) ∧
    (settings.keepDeadFor.toNat < statuses.length → t.process? pid = none) ∧
    (∀ other q age, t.process? other = some q → q.age = some age →
      (age + 1).toNat = age.toNat + 1) := by
  have wellFormed := wellFormed_after received
  have habsent := run.absent wellFormed moderate known running fun a ha => by
    rw [a.pids_entries]
    exact leftOut a ha
  -- there was one status at least, so the process has stopped
  obtain ⟨n, hn⟩ : ∃ n, statuses.length = n + 1 :=
    Nat.exists_eq_add_one.2 (List.length_pos_iff.2 told)
  refine ⟨?_, ?_, ?_⟩
  · intro bounded spared
    rcases habsent with ⟨_, hkept⟩ | ⟨_, hold | ⟨a, ha, hbelow⟩⟩
    · rw [hkept, hn]
      rfl
    · omega
    · exact absurd hbelow (spared a ha)
  · intro hold
    rcases habsent with ⟨bounded, _⟩ | ⟨hgone, _⟩
    · omega
    · exact hgone
  · intro other q age hq hage
    obtain ⟨more, hmore, rfl⟩ := run.events
    have hreceived : ∀ e ∈ events ++ more, e.Received := by
      intro e he
      rcases List.mem_append.1 he with hbefore | hnew
      · exact received e hbefore
      · exact (hmore e hnew).1
    have hlimits : ∀ e ∈ events ++ more, ∀ most, e.limit? = some most → most < 4294967295 := by
      intro e he most hmost
      rcases List.mem_append.1 he with hbefore | hnew
      · exact limits e hbefore most hmost
      · rw [(hmore e hnew).2 most hmost]
        exact moderate
    rw [← after_append] at hq
    exact ProcessRecord.toNat_succ_age (age_lt hreceived hlimits hq hage)

/-- A run with one process. -/
def aloneRun : List Event := [.applied .default (.ofStatus (.byPid [("1", .object [])]))]

theorem retention_aloneRun :
    ∃ p statuses t, (after aloneRun).process? 1 = some p ∧ p.isRunning = true ∧
      Cycles scripted .default (after aloneRun) statuses t ∧ statuses.length = 1 ∧
      t.process? 1 = some
        { p with
          isRunning := false
          age := some 1
          files := p.files.mapValues FileRecord.close } := by
  have received : ∀ e ∈ aloneRun, e.Received := by
    intro e he
    rw [List.mem_singleton.1 he]
    exact Entries.received_ofStatus _
  have limits : ∀ e ∈ aloneRun, ∀ most, e.limit? = some most → most < 4294967295 := by
    intro e he most hmost
    rw [List.mem_singleton.1 he] at hmost
    cases hmost
    decide
  have hrunning : ((after aloneRun).process? 1).map (·.isRunning) = some true := by decide
  obtain ⟨p, known, running⟩ := Option.map_eq_some_iff.1 hrunning
  -- one cycle without a status, and one with a status that leaves the process out
  have hfailed : Cycles scripted .default (after aloneRun) [] _ :=
    .failed .start (s := .anonymous []) rfl
  have run := hfailed.told (s := .anonymous [.list []]) rfl
  have leftOut : (1 : Pid) ∉ (Entries.ofStatus (.list [])).pids := by decide
  have kept := (retention received limits (by decide) known running run
    (fun a ha => by rw [List.mem_singleton.1 ha]; exact leftOut) (by simp)).1 (by decide)
  refine ⟨p, _, _, known, running, run, rfl, kept ?_⟩
  intro a ha hbelow
  have hculled := hbelow.1
  rw [List.mem_singleton.1 ha] at hculled
  revert hculled
  decide

end Tracker

end ProcessWatch
