import ProcessWatch.Proofs.Polling.Cycle
import ProcessWatch.Proofs.Table.Tree
import ProcessWatch.Proofs.Tracker.Flagged

/-!
# The flag of the master process over cycles

The identity of the master process may become known in any cycle, after the process has been tracked
for a while, and from then on it stays known. Its record has the flag if an entry was merged into it
since then, and not before.

* **`MergedKnown`** — some status was merged into the record that a process has now, at a time when
  the master process was known.
* **`Tracker.Marks`** — the flags of a tracker, as the statuses explain them. The question for the
  master process keeps this (`Marks.resolved`), and so does every status (`Marks.applied`).
* **`Tracker.flagged_polled`** — the flag on the way through a run, after it, and in the tree.
-/

namespace ProcessWatch

/-! ## The statuses since a record began

A record does not remember when its flag was decided. What counts are the statuses since it began: a
merge in one of them decides the flag, by what was known of the master process at that time. -/

namespace Applied

variable (a : Applied) (settings : Settings) (pid : Pid)

def Merges : Prop := a.tracker.Merges settings a.entries pid

/-- A new record of a process begins with a status: nothing that runs could be merged with. -/
def Begins : Prop := a.Merges settings pid ∧ ¬ a.tracker.processes.Runs pid

end Applied

/-- Some status was merged into the record of a process while the master process was known, and no
record of the process began after that. -/
def MergedKnown (settings : Settings) (pid : Pid) (statuses : List Applied) : Prop :=
  ∃ before a after, statuses = before ++ a :: after ∧
    a.Merges settings pid ∧ a.tracker.master.isSome = true ∧
    ∀ b ∈ after, ¬ b.Begins settings pid

section

variable {settings : Settings} {pid : Pid} {statuses : List Applied} {a : Applied}

/-- One status more: it merges an entry while the master process is known, or an earlier one did and
the record is still the same. -/
theorem mergedKnown_concat :
    MergedKnown settings pid (statuses ++ [a]) ↔
      (a.Merges settings pid ∧ a.tracker.master.isSome = true) ∨
        (MergedKnown settings pid statuses ∧ ¬ a.Begins settings pid) := by
  constructor
  · rintro ⟨before, b, after, heq, hmerges, hknown, hsince⟩
    rcases after.eq_nil_or_concat with rfl | ⟨after, c, rfl⟩
    · -- the status in question is the last one
      obtain ⟨_, hlast⟩ := List.append_inj' heq rfl
      cases hlast
      exact .inl ⟨hmerges, hknown⟩
    · rw [List.concat_eq_append] at heq hsince
      have heq' : statuses ++ [a] = (before ++ b :: after) ++ [c] := by simpa using heq
      obtain ⟨hbefore, hlast⟩ := List.append_inj' heq' rfl
      cases hlast
      refine .inr ⟨⟨before, b, after, hbefore, hmerges, hknown, ?_⟩, ?_⟩
      · exact fun d hd => hsince d (List.mem_append_left _ hd)
      · exact hsince a (List.mem_append_right _ List.mem_cons_self)
  · rintro (⟨hmerges, hknown⟩ | ⟨⟨before, b, after, rfl, hmerges, hknown, hsince⟩, hlast⟩)
    · exact ⟨statuses, a, [], rfl, hmerges, hknown, nofun⟩
    · refine ⟨before, b, after ++ [a], by simp, hmerges, hknown, ?_⟩
      intro c hc
      rcases List.mem_append.1 hc with hbefore | hnew
      · exact hsince c hbefore
      · rw [List.mem_singleton.1 hnew]
        exact hlast

/-- Nothing is merged while the master process is known if it never was. -/
theorem not_mergedKnown_of_unknown (h : ∀ a ∈ statuses, a.tracker.master = none) :
    ¬ MergedKnown settings pid statuses := by
  rintro ⟨before, a, after, rfl, _, hknown, _⟩
  rw [h a (by simp)] at hknown
  cases hknown

end

namespace Tracker

/-! ## The flags of a tracker -/

/-- The flags of a tracker are those that the statuses of a run explain. -/
structure Marks (settings : Settings) (statuses : List Applied) (t : Tracker) : Prop where
  /-- What is not known now was never known. -/
  unknown : t.master = none → ∀ a ∈ statuses, a.tracker.master = none
  flagged : ∀ pid p, t.process? pid = some p →
    (p.isMaster = true ↔ t.masterPid = some pid ∧ MergedKnown settings pid statuses)

namespace Marks

variable {settings : Settings} {statuses : List Applied} {t : Tracker}

/-- There is no record to begin with. -/
theorem empty : Marks settings [] .empty where
  unknown _ _ h := absurd h List.not_mem_nil
  flagged _ _ h := absurd h (Option.some_ne_none _).symm

/-- When the master process becomes known no record changes, and no entry was merged before while it
was known. -/
theorem setMaster (h : t.Marks settings statuses) (unknown : t.master = none)
    (master : Identity) : (t.setMaster master).Marks settings statuses where
  unknown hnone := absurd hnone (Option.some_ne_none master)
  flagged pid p hp := by
    have hmasterPid : t.masterPid = none := by
      rw [masterPid, unknown, Option.map_none]
    -- no record has a flag yet, and no status was merged that could explain one
    have hplain : ¬ p.isMaster = true := by
      intro hflag
      have hsome := ((h.flagged pid p hp).1 hflag).1
      rw [hmasterPid] at hsome
      cases hsome
    exact iff_of_false hplain fun hknown =>
      not_mergedKnown_of_unknown (h.unknown unknown) hknown.2

/-- So the question for the master process keeps the marks. -/
theorem resolved {σ : Type} (h : t.Marks settings statuses) (env : Environment (StateM σ))
    (s : σ) : (t.resolved env s).1.Marks settings statuses := by
  cases hmaster : t.master with
  | some master =>
    rw [resolved_of_known hmaster]
    exact h
  | none =>
    rw [resolved_of_unknown hmaster]
    cases toldMaster env s with
    | ok master => exact h.setMaster hmaster master
    | error failure => exact h

/-- And a status does: a record that one of its entries is merged into is flagged anew, and the
others keep the flag that they have. -/
theorem applied {a : Applied} (h : a.tracker.Marks settings statuses) :
    (a.tracker.apply settings a.entries).1.Marks settings (statuses ++ [a]) where
  unknown hnone b hb := by
    rcases List.mem_append.1 hb with hbefore | hnew
    · exact h.unknown hnone b hbefore
    · rw [List.mem_singleton.1 hnew]
      exact hnone
  flagged pid p hp := by
    obtain ⟨old, hold, rfl⟩ := joined_of_process?_apply _ settings a.entries hp
    rw [ProcessRecord.settle_isMaster, mergedKnown_concat]
    show _ ↔ a.tracker.masterPid = some pid ∧ _
    by_cases hmerges : a.Merges settings pid
    · -- the flag is set by this status, if the master process is known to be this one
      rw [isMaster_joined_of_merges hmerges hold, beq_iff_eq]
      refine ⟨fun hpid => ⟨hpid, .inl ⟨hmerges, ?_⟩⟩, And.left⟩
      obtain ⟨master, hmaster, _⟩ := Option.map_eq_some_iff.1 hpid
      rw [hmaster]
      rfl
    · -- the record is the one from before, and so is its flag
      rw [get?_joined_of_not_merges hmerges] at hold
      rw [h.flagged pid old hold]
      refine and_congr_right fun _ => ⟨fun hknown => .inr ⟨hknown, fun hb => hmerges hb.1⟩, ?_⟩
      rintro (⟨hmerged, _⟩ | ⟨hknown, _⟩)
      · exact absurd hmerged hmerges
      · exact hknown

end Marks

/-! ## Over a run

The marks are an invariant of runs, cycle by cycle: a failing cycle can only make the master process
known, and a status adds itself to those that count. -/

variable {σ : Type} {env : Environment (StateM σ)} {settings : Settings} {t : Tracker}
  {statuses : List Applied}

/-- Any cycles from nothing keep the marks. -/
theorem Cycles.marks (run : Cycles env settings .empty statuses t) :
    t.Marks settings statuses := by
  induction run with
  | start => exact .empty
  | failed before h ih =>
    rw [poll_of_failed h]
    exact ih.resolved env _
  | told before h ih =>
    rw [poll_of_told h]
    exact (ih.resolved env _).applied

/-- They also keep all records in their places, since they are a run of events. -/
theorem Cycles.placed (run : Cycles env settings .empty statuses t) : t.processes.Placed := by
  obtain ⟨events, _, rfl⟩ := run.events
  exact placed_after events

/-- A tracker with these marks flags only the record of the master process. -/
theorem Marks.flagsOnly (h : t.Marks settings statuses) (placed : t.processes.Placed) :
    t.processes.FlagsOnly t.masterPid :=
  fun pid p hp hflag => ⟨(placed pid p hp).pid_eq, ((h.flagged pid p hp).1 hflag).1⟩

/-- The question for the master process moves no record. -/
theorem placed_resolved (placed : t.processes.Placed) (env : Environment (StateM σ)) (s : σ) :
    (t.resolved env s).1.processes.Placed := by
  rcases resolved_cases env t s with h | ⟨master, h⟩
  · rw [h]
    exact placed
  · rw [h]
    exact placed

/-- The tree of a status whose table flags the master process only. -/
theorem tree_of_flagsOnly {t' : Tracker} {entries : Entries}
    (h : (t'.apply settings entries).1.processes.FlagsOnly t'.masterPid) :
    ((t'.apply settings entries).2.1.tree = none ↔
      ∀ pid p, (t'.apply settings entries).1.process? pid = some p → p.isMaster = false) ∧
    ∀ root, (t'.apply settings entries).2.1.tree = some root → t'.masterPid = some root.pid := by
  refine ⟨ProcessTable.project_eq_none_iff, ?_⟩
  intro root hroot
  obtain ⟨pid, p, hp, hflag, hpid⟩ := ProcessTable.flagged_of_project hroot
  obtain ⟨hkey, hmaster⟩ := h pid p hp hflag
  rw [hmaster, hpid, hkey]

/-- The flag of the master process over any cycles that start from nothing. Only the record of the
master process has it, and none as long as that is not known: between the cycles and in every table
that a status leads through. If the master process is tracked, its record has the flag exactly if a
status was merged into this record while the master process was known. And a cycle that ends with a
report shows a tree exactly if a record has the flag, with the master process at its root. -/
theorem flagged_polled (run : Cycles env settings .empty statuses t) :
    t.processes.FlagsOnly t.masterPid ∧
    (∀ s status table,
      (t.applied env s status).tracker.Passes settings (t.applied env s status).entries table →
      table.FlagsOnly (t.applied env s status).tracker.masterPid) ∧
    (∀ pid p, t.masterPid = some pid → t.process? pid = some p →
      (p.isMaster = true ↔ MergedKnown settings pid statuses)) ∧
    (∀ s t' report, ((t.cycle env settings).run s).1 = (t', .updated report) →
      (report.tree = none ↔ ∀ pid p, t'.process? pid = some p → p.isMaster = false) ∧
      ∀ root, report.tree = some root → t'.masterPid = some root.pid) := by
  have marks := run.marks
  have placed := run.placed
  -- every table within a cycle is one that the status passes through, starting from the tracker
  -- with the answer in it
  have hpasses (s : σ) (entries : Entries) (table : ProcessTable)
      (h : (t.resolved env s).1.Passes settings entries table) :
      table.FlagsOnly (t.resolved env s).1.masterPid := by
    have hplaced := placed_resolved placed env s
    exact flagsOnly_of_passes hplaced ((marks.resolved env s).flagsOnly hplaced) h
  refine ⟨marks.flagsOnly placed, ?_, ?_, ?_⟩
  · intro s status table h
    exact hpasses s _ table h
  · intro pid p hmaster hp
    rw [marks.flagged pid p hp, hmaster]
    exact ⟨And.right, fun h => ⟨rfl, h⟩⟩
  · intro s t' report h
    cases htold : (t.told env s).1 with
    | error failure =>
      rw [cycle_of_failed htold] at h
      cases h
    | ok status =>
      rw [cycle_of_told htold] at h
      cases h
      exact tree_of_flagsOnly (hpasses s _ _ .culled)

/-- A script with an answer about the master process and a status of process 1 alone. -/
def sole (master : Except Failure Identity) (x : Json) : Script where
  identity pid := if pid.isNone then master else .error ⟨"unknown"⟩
  statuses := [.byPid [("1", .object [("x", x)])]]

/-- The master process is tracked before it is known as such, then an entry of it clashes, and then
one is merged. -/
theorem flagged_polled_late :
    ∃ statuses a t t', Cycles scripted .default .empty statuses t ∧
      Cycles scripted .default .empty (statuses ++ [a]) t' ∧ t.masterPid = some 1 ∧
      (t.process? 1).map (·.isMaster) = some false ∧ ¬ MergedKnown .default 1 statuses ∧
      (t'.process? 1).map (·.isMaster) = some true ∧
      MergedKnown .default 1 (statuses ++ [a]) := by
  -- three cycles: nothing is known of the master process, then its entry clashes, then it is merged
  have unknown : Cycles scripted .default .empty _ _ :=
    Cycles.told .start (s := sole (.error ⟨"unreachable"⟩) (.bool true)) rfl
  have clash := unknown.told (s := sole (.ok ⟨1, none, none, none, []⟩) (.array [])) rfl
  have merged := clash.told (s := sole (.error ⟨"unreachable"⟩) (.bool false)) rfl
  have flag {statuses : List Applied} {t : Tracker} {b : Bool}
      (run : Cycles scripted .default .empty statuses t) (master : t.masterPid = some 1)
      (hb : (t.process? 1).map (·.isMaster) = some b) :
      b = true ↔ MergedKnown .default 1 statuses := by
    obtain ⟨p, hp, rfl⟩ := Option.map_eq_some_iff.1 hb
    exact (flagged_polled run).2.2.1 1 p master hp
  have hclash := flag clash (b := false) (by decide) (by decide)
  have hmerged := flag merged (b := true) (by decide) (by decide)
  have hnot : ¬ MergedKnown .default 1 _ := fun h => Bool.false_ne_true (hclash.2 h)
  exact ⟨_, _, _, _, clash, merged, by decide, by decide, hnot, by decide, hmerged.1 rfl⟩

end Tracker

end ProcessWatch
