import ProcessWatch.Proofs.Tracker.Fates

/-!
# The flag of the master process

A record is flagged, or loses its flag, when a snapshot is merged into it, and at no other time: a
snapshot of the process that is known as the master process flags its record, and one of any other
process does not (`ProcessRecord.isMaster_renew`). So a status leaves the flag as it is where
nothing was merged, and sets it anew where something was (`Tracker.get?_joined_of_not_merges`,
`Tracker.isMaster_joined_of_merges`). On the whole way through a status only the record of the
master process is flagged (`Tracker.Passes`, `Tracker.flagsOnly_of_passes`).
-/

namespace ProcessWatch

namespace ProcessRecord

/-- A merged snapshot decides the flag anew, whatever it was. -/
theorem isMaster_renew {ctx : CycleContext} {pid : Pid} {known : Option ProcessRecord}
    {s : ProcessSnapshot} {p : ProcessRecord} (h : renew ctx pid known s = .ok p) :
    p.isMaster = (ctx.masterPid == some pid) := by
  rcases renew_cases h with ⟨old, _, _, hok, rfl⟩ | ⟨_, rfl⟩
  · rw [merge_of_ok hok]
    rfl
  · rfl

theorem settle_isMaster (p : ProcessRecord) (reported : ReportedFiles) :
    (p.settle reported).isMaster = p.isMaster := by
  rw [settle_eq]

end ProcessRecord

/-- Only the record of the master process is flagged, and none while that is not known. -/
def ProcessTable.FlagsOnly (table : ProcessTable) (master : Option Pid) : Prop :=
  ∀ pid p, table.get? pid = some p → p.isMaster = true → p.pid = pid ∧ master = some pid

/-- A table whose records have the flags that they had before flags no other ones. -/
theorem ProcessTable.FlagsOnly.of_kept {table table' : ProcessTable} {master : Option Pid}
    (h : table.FlagsOnly master)
    (kept : ∀ pid p', table'.get? pid = some p' →
      ∃ p, table.get? pid = some p ∧ p'.pid = p.pid ∧ p'.isMaster = p.isMaster) :
    table'.FlagsOnly master := by
  intro pid p' hp' hflag
  obtain ⟨p, hp, hpid, hsame⟩ := kept pid p' hp'
  rw [hpid]
  exact h pid p hp (hsame ▸ hflag)

namespace Tracking

open ProcessRecord (renew)

variable {ctx : CycleContext} {t : Tracking}

/-- The record of a process after some snapshots: the one from before if none of them was merged
into it, and otherwise what the last one of these made of it. -/
theorem get?_foldl_cases (ctx : CycleContext) (t : Tracking) (pid : Pid)
    (snapshots : List ProcessSnapshot) :
    ((¬ ∃ s, (s, Fate.merged) ∈ t.fates ctx snapshots ∧ s.pid = some pid) ∧
      (snapshots.foldl (step ctx) t).table.get? pid = t.table.get? pid) ∨
    ((∃ s, (s, Fate.merged) ∈ t.fates ctx snapshots ∧ s.pid = some pid) ∧
      ∃ known s p, renew ctx pid known s = .ok p ∧
        (snapshots.foldl (step ctx) t).table.get? pid = some p) := by
  induction snapshots generalizing t with
  | nil => exact .inl ⟨by simp [fates], rfl⟩
  | cons s rest ih =>
    rw [List.foldl_cons, fates]
    rcases ih (t.step ctx s) with ⟨hnone, hkept⟩ | ⟨⟨s', hs', hpid⟩, hlast⟩
    · -- the rest is not merged, so the record is what `s` makes of it
      rw [hkept]
      rcases get?_step_cases ctx t s pid with ⟨hnot, hsame⟩ | ⟨hfate, hpid, p, hrenew, hget⟩
      · refine .inl ⟨?_, hsame⟩
        rintro ⟨s', hs', hpid⟩
        rcases List.mem_cons.1 hs' with heq | hrest
        · obtain ⟨rfl, hfate⟩ := Prod.mk.inj heq
          exact hnot ⟨hfate.symm, hpid⟩
        · exact hnone ⟨s', hrest, hpid⟩
      · refine .inr ⟨⟨s, ?_, hpid⟩, t.table.get? pid, s, p, hrenew, hget⟩
        rw [hfate]
        exact List.mem_cons_self
    · exact .inr ⟨⟨s', List.mem_cons_of_mem _ hs', hpid⟩, hlast⟩

/-- Snapshots that are merged flag nothing but the master process, so the table keeps flagging only
that. -/
theorem flagsOnly_foldl (placed : t.table.Placed) (h : t.table.FlagsOnly ctx.masterPid)
    (snapshots : List ProcessSnapshot) :
    (snapshots.foldl (step ctx) t).table.FlagsOnly ctx.masterPid := by
  intro pid p hp hflag
  have hplaced : p.Placed pid := by
    rw [(foldl_step pid snapshots t).1] at hp
    exact ProcessRecord.invariant_placed.follow (placed pid) (fun _ _ => trivial) p hp
  refine ⟨hplaced.pid_eq, ?_⟩
  rcases get?_foldl_cases ctx t pid snapshots with ⟨_, hkept⟩ | ⟨_, _, _, p', hrenew, hlast⟩
  · rw [hkept] at hp
    exact (h pid p hp hflag).2
  · rw [hlast] at hp
    cases hp
    rw [ProcessRecord.isMaster_renew hrenew] at hflag
    exact beq_iff_eq.1 hflag

end Tracking

namespace Tracker

variable {t : Tracker} {settings : Settings} {entries : Entries} {pid : Pid}

/-- An entry of a status is merged into the record of a process, or such a record is made of it. -/
def Merges (t : Tracker) (settings : Settings) (entries : Entries) (pid : Pid) : Prop :=
  ∃ s, (s, Fate.merged) ∈ t.fates settings entries ∧ s.pid = some pid

/-- Without a merged snapshot the record of a process stays as it was. -/
theorem get?_joined_of_not_merges (h : ¬ t.Merges settings entries pid) :
    (t.joined settings entries).get? pid = t.process? pid := by
  rcases Tracking.get?_foldl_cases (t.context settings) (t.tracking entries) pid
    entries.snapshots with ⟨_, hkept⟩ | ⟨hmerged, _⟩
  · exact hkept
  · exact absurd hmerged h

/-- With one, it is flagged exactly if it is the master process. -/
theorem isMaster_joined_of_merges (h : t.Merges settings entries pid) {p : ProcessRecord}
    (hp : (t.joined settings entries).get? pid = some p) :
    p.isMaster = (t.masterPid == some pid) := by
  rcases Tracking.get?_foldl_cases (t.context settings) (t.tracking entries) pid
    entries.snapshots with ⟨hnone, _⟩ | ⟨_, _, _, p', hrenew, hlast⟩
  · exact absurd h hnone
  · obtain rfl : p' = p := Option.some.inj (hlast.symm.trans hp)
    exact ProcessRecord.isMaster_renew hrenew

/-- The tables that a status leads through: after each of its snapshots, after what it leaves out
has stopped, and after what is too old is gone. -/
inductive Passes (t : Tracker) (settings : Settings) (entries : Entries) : ProcessTable → Prop where
  | tried {before after : List ProcessSnapshot} (h : entries.snapshots = before ++ after) :
      Passes t settings entries
        (before.foldl (Tracking.step (t.context settings)) (t.tracking entries)).table
  | settled :
      Passes t settings entries
        ((t.joined settings entries).mapValues (·.settle (entries.reportedFiles t.processes)))
  | culled : Passes t settings entries (t.apply settings entries).1.processes

/-- Every table that a cycle passes through flags only the master process. -/
theorem flagsOnly_of_passes (placed : t.processes.Placed)
    (h : t.processes.FlagsOnly t.masterPid) {table : ProcessTable}
    (passes : t.Passes settings entries table) : table.FlagsOnly t.masterPid := by
  have hstart : (t.tracking entries).table.FlagsOnly (t.context settings).masterPid := h
  have hjoined : (t.joined settings entries).FlagsOnly t.masterPid :=
    Tracking.flagsOnly_foldl placed hstart entries.snapshots
  cases passes with
  | tried => exact Tracking.flagsOnly_foldl placed hstart _
  | settled =>
    refine hjoined.of_kept fun pid p' hp' => ?_
    rw [SortedMap.get?_mapValues] at hp'
    obtain ⟨p, hp, rfl⟩ := Option.map_eq_some_iff.1 hp'
    exact ⟨p, hp, ProcessRecord.settle_pid _ p, p.settle_isMaster _⟩
  | culled =>
    refine hjoined.of_kept fun pid p' hp' => ?_
    obtain ⟨p, hp, rfl⟩ := joined_of_process?_apply t settings entries hp'
    exact ⟨p, hp, ProcessRecord.settle_pid _ p, p.settle_isMaster _⟩

end Tracker

end ProcessWatch
