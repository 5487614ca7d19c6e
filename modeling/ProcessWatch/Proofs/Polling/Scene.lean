import ProcessWatch.Proofs.Polling.Cycle
import ProcessWatch.Proofs.Tracker.Parent

/-!
# Polling an outside that does not change

If every question is always answered in the same way, a cycle is a function of these answers.
Exactly the processes of the status are tracked then, all of them run, and nothing is ever culled.

## The architecture

* **`Scene`**, **`Environment.Plays`** — the answers, and an outside that always gives them.
* **`Scene.step`**, **`Tracker.poll_of_plays`** — a cycle as a function of the answers.
* **`Scene.Calm`** — only processes of the status are tracked, and all of these run. A cycle keeps
  this (`Calm.step`) and culls nothing (`Calm.process?_step`).
* **`Scene.Calm.tracked_iff`** — after a cycle exactly the processes of the status are tracked.
-/

namespace ProcessWatch

/-- The answers of an outside that always gives the same ones. -/
structure Scene where
  status : Status
  master : Except Failure Identity
  identity : Pid → Except Failure Identity

/-- An outside always gives the answers of a scene, whatever it is told and asked. -/
structure Environment.Plays {σ : Type} (env : Environment (StateM σ)) (scene : Scene) : Prop where
  status : ∀ s, (env.status.run s).1 = .ok scene.status
  master : ∀ s, ((env.identity none).run s).1 = scene.master
  identity : ∀ pid s, ((env.identity (some pid)).run s).1 = scene.identity pid

namespace Scene

variable (scene : Scene) (settings : Settings)

/-- The readable entries of the status. -/
def snapshots : List ProcessSnapshot := (Entries.ofStatus scene.status).snapshots

/-- A readable entry of the status is of this process. -/
def Lists (pid : Pid) : Prop := ∃ s ∈ scene.snapshots, s.pid = some pid

/-- The tracker when the status is applied: the master process is known if it can be. -/
def meet (t : Tracker) : Tracker := { t with master := t.master.or scene.master.toOption }

/-- The status as it is applied. -/
def entries (t : Tracker) : Entries :=
  { Entries.ofStatus scene.status with
    snapshots := scene.snapshots.map ((scene.meet t).fillFrom scene.identity) }

/-- The tracker after a cycle. -/
def step (t : Tracker) : Tracker := ((scene.meet t).apply settings (scene.entries t)).1

end Scene

namespace Tracker

variable {σ : Type} {env : Environment (StateM σ)} {scene : Scene} {settings : Settings}

/-- Questions whose answers do not change, asked one after the other. -/
theorem run_mapM {α β : Type} {f : α → StateM σ β} {g : α → β}
    (h : ∀ a s, ((f a).run s).1 = g a) (items : List α) (s : σ) :
    ((items.mapM f).run s).1 = items.map g := by
  induction items generalizing s with
  | nil => rfl
  | cons a rest ih =>
    rw [List.mapM_cons, run_bind, run_bind, List.map_cons, ← h a s, ← ih ((f a).run s).2]
    rfl

/-- Every cycle meets the same answer about the master process. -/
theorem resolved_of_plays (plays : env.Plays scene) (t : Tracker) (s : σ) :
    (t.resolved env s).1 = scene.meet t := by
  obtain ⟨processes, master, cycles⟩ := t
  unfold Scene.meet
  cases master with
  | some master => exact resolved_of_known rfl
  | none =>
    have htold : toldMaster env s = scene.master := plays.master _
    rw [resolved_of_unknown rfl, htold]
    cases scene.master <;> rfl

/-- A cycle is a function of the answers. -/
theorem poll_of_plays (plays : env.Plays scene) (t : Tracker) (s : σ) :
    t.poll env settings s = scene.step settings t := by
  -- what the cycle is told: the answers, then the status that is filled with them
  have hanswered (snapshots : List ProcessSnapshot) :
      t.answered env s snapshots = ((scene.meet t).requests snapshots).map scene.identity := by
    unfold answered
    dsimp only
    rw [resolved_of_plays plays, run_mapM plays.identity]
  have hentries : (t.applied env s scene.status).entries = scene.entries t := by
    unfold Applied.entries applied Scene.entries Scene.snapshots
    dsimp only
    rw [resolved_of_plays plays, hanswered, enrich_eq_map]
  rw [poll_of_told (plays.status _), hentries]
  unfold applied Scene.step
  dsimp only
  rw [resolved_of_plays plays]

end Tracker

/-! ## What a cycle keeps

In a scene a process never stops, so nothing grows old and nothing expires. That is an invariant
with a start, and it makes a cycle a plain function of the tracker. -/

namespace Scene

variable {scene : Scene} {settings : Settings} {t : Tracker} {pid : Pid}

/-- The master process, as far as it is told. -/
def masterPid (scene : Scene) : Option Pid := scene.master.toOption.map (·.pid)

/-- Nobody else is taken for the master process; only processes of the status are tracked, and all
of these run. -/
structure Calm (scene : Scene) (t : Tracker) : Prop where
  master : t.master = none ∨ t.master = scene.master.toOption
  listed : ∀ pid p, t.process? pid = some p → scene.Lists pid
  live : ∀ pid p, t.process? pid = some p → p.Live scene.masterPid pid

/-- A tracker that has no records yet is calm. -/
theorem calm_empty (scene : Scene) : scene.Calm .empty := by
  refine ⟨.inl rfl, ?_, ?_⟩
  · intro pid p hp
    cases hp
  · intro pid p hp
    cases hp

/-- In every cycle the master process is known as the scene tells it. -/
theorem Calm.meet_master (calm : scene.Calm t) : (scene.meet t).master = scene.master.toOption := by
  show t.master.or scene.master.toOption = scene.master.toOption
  rcases calm.master with h | h
  · rw [h, Option.none_or]
  · rw [h, Option.or_self]

/-- The entries of a cycle are those of the scene, filled. -/
theorem of_mem_entries {s' : ProcessSnapshot} (h : s' ∈ (scene.entries t).snapshots) :
    ∃ s ∈ scene.snapshots, (scene.meet t).fillFrom scene.identity s = s' :=
  List.mem_map.1 h

/-- Filling changes no pid. -/
theorem pid_fillFrom (scene : Scene) (t : Tracker) (s : ProcessSnapshot) :
    ((scene.meet t).fillFrom scene.identity s).pid = s.pid :=
  (Tracker.filledFrom_fillFrom (scene.meet t) scene.identity s).pid_eq

/-- The processes with an entry are those that the scene lists. -/
theorem listed_entries_iff :
    (∃ s ∈ (scene.entries t).snapshots, s.pid = some pid) ↔ scene.Lists pid := by
  constructor
  · rintro ⟨s', hs', hpid⟩
    obtain ⟨s, hs, rfl⟩ := of_mem_entries hs'
    rw [pid_fillFrom] at hpid
    exact ⟨s, hs, hpid⟩
  · rintro ⟨s, hs, hpid⟩
    refine ⟨_, List.mem_map.2 ⟨s, hs, rfl⟩, ?_⟩
    rw [pid_fillFrom]
    exact hpid

/-- The record of a process when the snapshots of the status are merged, before what the status
leaves out. -/
def merged (scene : Scene) (settings : Settings) (t : Tracker) (pid : Pid) : Option ProcessRecord :=
  (ProcessRecord.follow ((scene.meet t).context settings) pid (t.process? pid)
    (scene.entries t).snapshots).1

/-- A record that the entries leave is one of a process that runs. -/
theorem Calm.live_merged (calm : scene.Calm t) {p : ProcessRecord}
    (hp : scene.merged settings t pid = some p) : p.Live scene.masterPid pid := by
  have hmaster : ((scene.meet t).context settings).masterPid = scene.masterPid := by
    show (scene.meet t).master.map (·.pid) = scene.masterPid
    rw [calm.meet_master]
    rfl
  rw [← hmaster]
  refine ProcessRecord.live_follow ?_ p hp
  rw [hmaster]
  exact calm.live pid

/-- And it is that of a listed process, since only those were tracked before. -/
theorem Calm.listed_merged (calm : scene.Calm t) {p : ProcessRecord}
    (hp : scene.merged settings t pid = some p) : scene.Lists pid := by
  by_cases h : ∃ s ∈ (scene.entries t).snapshots, s.pid = some pid
  · exact listed_entries_iff.1 h
  · have habsent : ∀ s ∈ (scene.entries t).snapshots, s.pid ≠ some pid := fun s hs hpid =>
      h ⟨s, hs, hpid⟩
    unfold merged at hp
    rw [ProcessRecord.follow_of_absent habsent] at hp
    exact calm.listed pid p hp

/-- A process of the status is reported, so it goes on running. -/
theorem Calm.running_settled (calm : scene.Calm t) {p : ProcessRecord}
    (hp : scene.merged settings t pid = some p) :
    (p.settle ((scene.entries t).reportedFiles t.processes)).isRunning = true := by
  have hlive := calm.live_merged hp
  have hmem : pid ∈ (scene.entries t).pids :=
    Entries.mem_pids_iff.2 (.inl (listed_entries_iff.2 (calm.listed_merged hp)))
  rw [ProcessRecord.settle_isRunning, hlive.running, hlive.pid_eq,
    Entries.contains_reportedFiles_iff.2 hmem]
  rfl

/-- Nothing expires, so nothing is culled: after a cycle the record of a process is what the
snapshots made of it, settled. -/
theorem Calm.process?_step (calm : scene.Calm t) (pid : Pid) :
    (scene.step settings t).process? pid =
      (scene.merged settings t pid).map
        (·.settle ((scene.entries t).reportedFiles t.processes)) := by
  have hjoined (pid : Pid) : ((scene.meet t).joined settings (scene.entries t)).get? pid
      = scene.merged settings t pid := Tracker.get?_joined _ settings _ pid
  -- every record that is tracked goes on running, and what runs has not expired
  have hculled : ((scene.meet t).apply settings (scene.entries t)).2.1.changes.culled = [] := by
    rw [Tracker.culled_apply]
    refine ProcessTable.culled_eq_nil (List.map_eq_nil_iff.2 (List.filter_eq_nil_iff.2 ?_))
    intro p hp
    obtain ⟨k, hk⟩ := SortedMap.mem_values_iff.1 hp
    rw [ProcessTable.get?_settled, hjoined] at hk
    obtain ⟨old, hold, rfl⟩ := Option.map_eq_some_iff.1 hk
    have hrunning := calm.running_settled hold
    unfold ProcessRecord.isExpired
    show ¬ (!(old.settle ((scene.entries t).reportedFiles t.processes)).isRunning && _) = true
    rw [hrunning]
    exact Bool.false_ne_true
  unfold step
  rw [Tracker.process?_apply, hculled, if_neg List.not_mem_nil]
  rfl

/-- A cycle keeps the calm. -/
theorem Calm.step (calm : scene.Calm t) : scene.Calm (scene.step settings t) := by
  -- what is tracked afterwards is what was merged; all of it is listed, so nothing stops
  refine ⟨.inr calm.meet_master, ?_, ?_⟩
  · intro pid p hp
    rw [calm.process?_step] at hp
    obtain ⟨old, hold, rfl⟩ := Option.map_eq_some_iff.1 hp
    exact calm.listed_merged hold
  · intro pid p hp
    rw [calm.process?_step] at hp
    obtain ⟨old, hold, rfl⟩ := Option.map_eq_some_iff.1 hp
    have hlive := calm.live_merged hold
    refine ⟨?_, calm.running_settled hold, ?_⟩
    · rw [ProcessRecord.settle_pid]
      exact hlive.pid_eq
    · rw [ProcessRecord.settle_eq]
      exact hlive.isMaster

/-- After a cycle exactly the processes of the status are tracked. -/
theorem Calm.tracked_iff (calm : scene.Calm t) :
    ((scene.step settings t).process? pid).isSome = true ↔ scene.Lists pid := by
  constructor
  · intro h
    obtain ⟨p, hp⟩ := Option.isSome_iff_exists.1 h
    exact calm.step.listed pid p hp
  · intro h
    rw [calm.process?_step, Option.isSome_map]
    exact ProcessRecord.follow_of_listed (listed_entries_iff.2 h)

end Scene

end ProcessWatch
