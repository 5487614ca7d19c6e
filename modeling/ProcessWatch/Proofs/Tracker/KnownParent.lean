import ProcessWatch.Proofs.Enrichment
import ProcessWatch.Proofs.Tracker.Consistent
import ProcessWatch.Proofs.Tracker.Fates

/-!
# Processes whose parent is known

Once the parent of a running process is known, a status can only take it back in three ways: it
reports that there is no parent, it leaves the process out, which then stops, or it removes the
process with the family of another one.

* **`ProcessTable.KnowsParent`** — a process runs and its parent is known: then its identity is not
  missing (`Tracker.needsIdentity_iff`), and no question is asked for it (`request?_eq_some_iff`).
* **`Tracking.knowsParent_foldl`**, **`knowsParent_foldl_of_merged`** — snapshots keep the parent,
  and one that tells it and is merged sets it.
* **`Tracker.knowsParent_apply`** — the parent after a status.
-/

namespace ProcessWatch

/-- A process runs and its parent is known. -/
def ProcessTable.KnowsParent (table : ProcessTable) (pid : Pid) : Prop :=
  ∃ p, table.get? pid = some p ∧ p.isRunning = true ∧ p.parent.isSome = true

namespace ProcessRecord

variable {ctx : CycleContext} {pid : Pid} {known : Option ProcessRecord} {s : ProcessSnapshot}
  {p p' : ProcessRecord}

/-- A reported parent is taken over. -/
theorem parent_renew_of_value {parent : Pid} (hs : s.parent = .value parent)
    (h : renew ctx pid known s = .ok p') : p'.parent = some parent := by
  rcases renew_cases h with ⟨old, _, _, hok, rfl⟩ | ⟨_, rfl⟩
  · rw [merge_of_ok hok]
    show (s.parent.orKnown old.parent).value? = some parent
    rw [hs]
    rfl
  · show s.parent.value? = some parent
    rw [hs]
    rfl

/-- A parent that is known stays known, unless a snapshot takes it back. -/
theorem parent_renew_of_not_null (running : p.isRunning = true) (hparent : p.parent.isSome = true)
    (hs : s.parent ≠ .null) (h : renew ctx pid (some p) s = .ok p') :
    p'.parent.isSome = true := by
  rw [parent_renew_of_running running h]
  cases hreport : s.parent with
  | absent =>
    rw [Reported.value?_orKnown_absent]
    exact hparent
  | null => exact absurd hreport hs
  | value parent => rfl

end ProcessRecord

namespace Tracking

variable {ctx : CycleContext} {t : Tracking} {pid : Pid} {snapshots : List ProcessSnapshot}

theorem knowsParent_foldl (h : t.table.KnowsParent pid)
    (spared : ∀ s ∈ snapshots, s.pid = some pid → s.parent ≠ .null) :
    (snapshots.foldl (step ctx) t).table.KnowsParent pid := by
  have hfollow : ∃ p, (ProcessRecord.follow ctx pid (t.table.get? pid) snapshots).1 = some p ∧
      p.isRunning = true ∧ p.parent.isSome = true := by
    refine ProcessRecord.follow_induction
      (P := fun record => ∃ p, record = some p ∧ p.isRunning = true ∧ p.parent.isSome = true) ?_ h
    rintro _ s p' hs hpid ⟨p, rfl, running, hparent⟩ hrenew
    exact ⟨p', rfl, ProcessRecord.isRunning_renew hrenew,
      ProcessRecord.parent_renew_of_not_null running hparent (spared s hs hpid) hrenew⟩
  unfold ProcessTable.KnowsParent
  rw [(foldl_step pid snapshots t).1]
  exact hfollow

/-- A snapshot that is merged and tells the parent makes it known, and those behind it keep it. -/
theorem knowsParent_foldl_of_merged {s : ProcessSnapshot} {parent : Pid}
    (merged : (s, Fate.merged) ∈ t.fates ctx snapshots) (hpid : s.pid = some pid)
    (hparent : s.parent = .value parent)
    (spared : ∀ s ∈ snapshots, s.pid = some pid → s.parent ≠ .null) :
    (snapshots.foldl (step ctx) t).table.KnowsParent pid := by
  induction snapshots generalizing t with
  | nil => cases merged
  | cons first rest ih =>
    obtain ⟨_, hrest⟩ := List.forall_mem_cons.1 spared
    rw [List.foldl_cons]
    -- the snapshot that tells the parent is this one or comes later; those before it do not matter
    rcases List.mem_cons.1 merged with heq | hlater
    · obtain ⟨rfl, hfate⟩ := Prod.mk.inj heq
      rcases get?_step_cases ctx t s pid with ⟨hnot, _⟩ | ⟨_, _, p, hrenew, hget⟩
      · exact absurd ⟨hfate.symm, hpid⟩ hnot
      · have hknown : (t.step ctx s).table.KnowsParent pid := by
          refine ⟨p, hget, ProcessRecord.isRunning_renew hrenew, ?_⟩
          rw [ProcessRecord.parent_renew_of_value hparent hrenew]
          rfl
        exact knowsParent_foldl hknown hrest
    · exact ih hlater hrest

end Tracking

namespace Tracker

variable {t : Tracker} {settings : Settings} {entries : Entries} {pid : Pid}

/-- An identity is needed as long as no parent of a running process is known. -/
theorem needsIdentity_iff : t.needsIdentity pid = true ↔ ¬ t.processes.KnowsParent pid := by
  rw [← Bool.not_eq_false, needsIdentity_eq_false_iff]
  rfl

/-- A snapshot of a process does not tell its parent, and the table does not know it. -/
structure Lacks (t : Tracker) (s : ProcessSnapshot) (pid : Pid) : Prop where
  pid_eq : s.pid = some pid
  untold : s.parent.value? = none
  unknown : ¬ t.processes.KnowsParent pid

/-- An orphan is a snapshot that lacks the parent of its process. -/
theorem orphan?_eq_some_iff_lacks {s : ProcessSnapshot} :
    t.orphan? s = some pid ↔ t.Lacks s pid := by
  rw [orphan?_eq_some_iff, needsIdentity_iff]
  exact ⟨fun ⟨hpid, huntold, hunknown⟩ => ⟨hpid, huntold, hunknown⟩,
    fun ⟨hpid, huntold, hunknown⟩ => ⟨hpid, huntold, hunknown⟩⟩

/-- A question is asked on behalf of every snapshot that lacks a parent, but not for the master
process. -/
theorem request?_eq_some_iff {s : ProcessSnapshot} :
    t.request? s = some pid ↔ t.Lacks s pid ∧ t.masterPid ≠ some pid := by
  rw [request?, Option.filter_eq_some_iff, orphan?_eq_some_iff_lacks, bne_iff_ne]

/-- What a status does not stop and does not cull keeps its parent. -/
theorem knowsParent_apply (wellFormed : t.WellFormed)
    (received : ∀ s ∈ entries.snapshots, s.Received)
    (h : (t.joined settings entries).KnowsParent pid)
    (stays : pid ∉ (t.apply settings entries).2.1.changes.stopped)
    (kept : pid ∉ (t.apply settings entries).2.1.changes.culled) :
    (t.apply settings entries).1.processes.KnowsParent pid := by
  obtain ⟨p, hp, running, hparent⟩ := h
  have keyed := keyed_joined settings wellFormed received
  obtain ⟨p', hp', running'⟩ :=
    (ProcessTable.runs_reconcile keyed).2 ⟨⟨p, hp, running⟩, stays, kept⟩
  obtain ⟨old, hold, rfl⟩ := joined_of_process?_apply t settings entries hp'
  rw [hp] at hold
  cases hold
  refine ⟨_, hp', running', ?_⟩
  rw [ProcessRecord.settle_parent]
  exact hparent

end Tracker

end ProcessWatch
