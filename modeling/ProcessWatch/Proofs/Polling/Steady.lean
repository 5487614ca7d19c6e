import ProcessWatch.Proofs.Polling.Scene
import ProcessWatch.Proofs.Record.Absorbs
import ProcessWatch.Proofs.Table.Tree

/-!
# When the view is steady

If every question is always answered in the same way, one would expect that every cycle after the
first one leaves the tree as it is. Which processes are tracked is settled by the first cycle
indeed. Their parents are not, in one case: a status may tell that a process has no parent, while
the identity of that process tells one. The first cycle takes such a report for a gap and fills it.
The second one knows the parent, so it does not fill the gap, and the report clears the parent. The
third one fills it again.

## The architecture

* **`Scene.parentOf`** — the parent that the first cycle finds. One more cycle keeps it
  (`Calm.parent_step`) or loses it (`Calm.cleared_of_null`).
* **`Scene.after`**, **`Tracker.polls_of_plays`** — the tracker after some cycles; `parent_steady`
  and `parent_lost` for the parents in it, `shape_congr` for the shape of its tree.
* **`Tracker.steady_view`** — the processes are those of the first cycle at all times. A process
  keeps its parent exactly if it is not in that case, and where all do, the tree keeps its shape.
-/

namespace ProcessWatch

namespace Scene

variable {scene : Scene} {settings : Settings} {t : Tracker} {pid : Pid} {report : Reported Pid}

/-! ## The parent after a cycle -/

/-- The parent that the identity of a process tells. -/
def toldParent (scene : Scene) (pid : Pid) : Option Pid :=
  (Tracker.identityOf scene.master.toOption scene.identity pid).bind (·.parent)

/-- The parent of a process of which the entries report this: the reported one, else the one that
its identity tells. -/
def parentOf (scene : Scene) (pid : Pid) (report : Reported Pid) : Option Pid :=
  report.value?.or (scene.toldParent pid)

/-- All entries of a process report the same about its parent. -/
def Reports (scene : Scene) (pid : Pid) (report : Reported Pid) : Prop :=
  ∀ s ∈ scene.snapshots, s.pid = some pid → s.parent = report

/-- An entry with its gaps filled. If it was not filled although it tells no parent, the parent is
known. -/
theorem Calm.parent_fillFrom (calm : scene.Calm t) {s : ProcessSnapshot} (hpid : s.pid = some pid) :
    ((scene.meet t).fillFrom scene.identity s).parent.value? = scene.parentOf pid s.parent ∨
    ((scene.meet t).fillFrom scene.identity s = s ∧ s.parent.value? = none ∧
      ∃ p, t.process? pid = some p ∧ p.parent.isSome = true) := by
  -- an orphan is filled; any other entry either tells its parent or is one of a process whose
  -- parent is known
  cases horphan : (scene.meet t).orphan? s with
  | some pid' =>
    obtain ⟨hpid', hparent, _⟩ := Tracker.orphan?_eq_some_iff.1 horphan
    rw [hpid] at hpid'
    cases hpid'
    left
    rw [Tracker.parent_fillFrom horphan, calm.meet_master, parentOf, hparent, Option.none_or]
    rfl
  | none =>
    have hsame := Tracker.fillFrom_of_not_orphan horphan scene.identity
    cases hparent : s.parent.value? with
    | some parent =>
      left
      rw [hsame, parentOf, hparent, Option.some_or]
    | none =>
      right
      have hknown : (scene.meet t).needsIdentity pid = false := by
        rw [← Bool.not_eq_true]
        intro hneeds
        rw [Tracker.orphan?_eq_some_iff.2 ⟨hpid, hparent, hneeds⟩] at horphan
        cases horphan
      obtain ⟨p, hp, _, hsome⟩ := Tracker.needsIdentity_eq_false_iff.1 hknown
      exact ⟨hsame, rfl, p, hp, hsome⟩

/-- A cycle finds the parent, and keeps it unless the entries clear it. -/
theorem Calm.parent_step (calm : scene.Calm t) (reports : scene.Reports pid report)
    (hknown : ∀ p, t.process? pid = some p → p.parent = scene.parentOf pid report)
    (harmless : t.process? pid = none ∨ (report = .null → scene.toldParent pid = none))
    {p : ProcessRecord} (hp : (scene.step settings t).process? pid = some p) :
    p.parent = scene.parentOf pid report := by
  rw [calm.process?_step] at hp
  obtain ⟨old, hold, rfl⟩ := Option.map_eq_some_iff.1 hp
  rw [ProcessRecord.settle_parent]
  -- the known parent is the one that the entries lead to, so they keep it
  have hstart : ∀ q, t.process? pid = some q →
      q.isRunning = true ∧ q.parent = scene.parentOf pid report :=
    fun q hq => ⟨(calm.live pid q hq).running, hknown q hq⟩
  refine (ProcessRecord.parent_follow hstart ?_ old hold).2
  intro s' hs' hpid
  obtain ⟨s, hs, rfl⟩ := of_mem_entries hs'
  rw [pid_fillFrom] at hpid
  have hreport : s.parent = report := reports s hs hpid
  rcases calm.parent_fillFrom hpid with hfilled | ⟨hsame, hnothing, q, hq, hsome⟩
  · left
    rw [hfilled, hreport]
  · -- the entry came as it is, and the parent is known
    right
    rw [hsame, hreport]
    rw [hreport] at hnothing
    rw [hknown q hq, parentOf, hnothing, Option.none_or] at hsome
    refine ⟨?_, by rw [hq]; rfl⟩
    cases report with
    | absent => rfl
    | value parent => cases hnothing
    | null =>
      rcases harmless with hnew | htold
      · rw [hnew] at hq
        cases hq
      · rw [htold rfl] at hsome
        cases hsome

/-! ## Entries that clear the parent

A report that there is no parent is taken for a gap as long as no parent is known, and for a report
otherwise. The two readings of one status are what the cycles alternate between. -/

/-- The record of a process that was not tracked before has absorbed one of its entries. -/
theorem Calm.absorbs_step (calm : scene.Calm t) (clean : ∀ s ∈ scene.snapshots, s.Clean)
    (new : t.process? pid = none) {p : ProcessRecord}
    (hp : (scene.step settings t).process? pid = some p) :
    ∃ s ∈ scene.snapshots, s.pid = some pid ∧ p.Absorbs s := by
  rw [calm.process?_step] at hp
  obtain ⟨old, hold, rfl⟩ := Option.map_eq_some_iff.1 hp
  -- there was no record before, so the one that is there has been through an entry
  have habsorbs : ∃ s ∈ scene.snapshots, s.pid = some pid ∧ old.Absorbs s := by
    refine ProcessRecord.forall_follow
      (P := fun q => ∃ s ∈ scene.snapshots, s.pid = some pid ∧ q.Absorbs s) ?_ ?_ old hold
    · intro known s' q hs' hpid _ hrenew
      obtain ⟨s, hs, rfl⟩ := of_mem_entries hs'
      rw [pid_fillFrom] at hpid
      exact ⟨s, hs, hpid, ProcessRecord.absorbs_of_renew
        (Tracker.filledFrom_fillFrom _ scene.identity s) (clean s hs) hrenew⟩
    · intro q hq
      rw [new] at hq
      cases hq
  obtain ⟨s, hs, hpid, h⟩ := habsorbs
  exact ⟨s, hs, hpid, h.settle _⟩

/-- Entries that report that there is no parent clear one that is known, if the record of the
process has absorbed one of them. -/
theorem Calm.cleared_of_null (calm : scene.Calm t) (null : scene.Reports pid .null)
    {q : ProcessRecord} (hq : t.process? pid = some q) (hparent : q.parent.isSome = true)
    (absorbs : ∃ s ∈ scene.snapshots, s.pid = some pid ∧ q.Absorbs s)
    {p : ProcessRecord} (hp : (scene.step settings t).process? pid = some p) : p.parent = none := by
  have hrunning := (calm.live pid q hq).running
  -- the parent is known, so no entry of the process is filled
  have hsame (s : ProcessSnapshot) (hpid : s.pid = some pid) :
      (scene.meet t).fillFrom scene.identity s = s := by
    refine Tracker.fillFrom_of_not_orphan ?_ scene.identity
    rw [← Option.not_isSome_iff_eq_none, Option.isSome_iff_exists]
    rintro ⟨pid', horphan⟩
    obtain ⟨hpid', _, hneeds⟩ := Tracker.orphan?_eq_some_iff.1 horphan
    rw [hpid] at hpid'
    cases hpid'
    have hknown : (scene.meet t).needsIdentity pid = false :=
      Tracker.needsIdentity_eq_false_iff.2 ⟨q, hq, hrunning, hparent⟩
    rw [hknown] at hneeds
    cases hneeds
  rw [calm.process?_step] at hp
  obtain ⟨old, hold, rfl⟩ := Option.map_eq_some_iff.1 hp
  rw [ProcessRecord.settle_parent]
  unfold merged at hold
  rw [hq] at hold
  have hnull : ∀ s ∈ (scene.entries t).snapshots, s.pid = some pid → s.parent = .null := by
    intro s' hs' hpid
    obtain ⟨s, hs, rfl⟩ := of_mem_entries hs'
    rw [pid_fillFrom] at hpid
    rw [hsame s hpid]
    exact null s hs hpid
  rcases ProcessRecord.cleared_or_clashing hrunning hnull with hcleared | hclashing
  · exact hcleared old hold
  · obtain ⟨s, hs, hpid, habsorbs⟩ := absorbs
    have hmem : s ∈ (scene.entries t).snapshots := List.mem_map.2 ⟨s, hs, hsame s hpid⟩
    obtain ⟨cause, hclash⟩ := hclashing s hmem hpid
    rw [ProcessRecord.renew_of_merge hrunning (habsorbs.merge_error _ pid)] at hclash
    cases hclash

/-! ## Cycle after cycle

From the first cycle on a scene is calm, so every later cycle meets the same processes. What is left
to compare are the parents and the shape of the tree. -/

/-- The tracker after some cycles that start from nothing. -/
def after (scene : Scene) (settings : Settings) : Nat → Tracker
  | 0 => .empty
  | n + 1 => scene.step settings (scene.after settings n)

/-- Cycle after cycle stays calm. -/
theorem calm_after (scene : Scene) (settings : Settings) (n : Nat) :
    scene.Calm (scene.after settings n) := by
  induction n with
  | zero => exact calm_empty scene
  | succ n ih => exact ih.step

/-- From the first cycle on, the tracked processes are the listed ones. -/
theorem tracked_after_iff (settings : Settings) (n : Nat) :
    ((scene.after settings (n + 1)).process? pid).isSome = true ↔ scene.Lists pid :=
  (calm_after scene settings n).tracked_iff

/-- The first cycle finds the parent. -/
theorem parent_after_one (reports : scene.Reports pid report) {p : ProcessRecord}
    (hp : (scene.after settings 1).process? pid = some p) :
    p.parent = scene.parentOf pid report :=
  (calm_empty scene).parent_step reports nofun (.inl rfl) hp

/-- Every later one keeps it, unless the entries report that there is none where one is told. -/
theorem parent_after (reports : scene.Reports pid report)
    (harmless : report = .null → scene.toldParent pid = none) (n : Nat) :
    ∀ p, (scene.after settings (n + 1)).process? pid = some p →
      p.parent = scene.parentOf pid report := by
  induction n with
  | zero => exact fun p hp => parent_after_one reports hp
  | succ n ih =>
    intro p hp
    exact (calm_after scene settings (n + 1)).parent_step reports ih (.inr harmless) hp

/-- So the parent of a process is the one that the first cycle finds. -/
theorem parent_steady
    (reports : scene.Lists pid → ∃ report, scene.Reports pid report ∧
      (report = .null → scene.toldParent pid = none)) (settings : Settings) (n : Nat) :
    ((scene.after settings (n + 1)).process? pid).map (·.parent)
      = ((scene.after settings 1).process? pid).map (·.parent) := by
  by_cases hlists : scene.Lists pid
  · obtain ⟨report, hreport, harmless⟩ := reports hlists
    obtain ⟨p, hp⟩ := Option.isSome_iff_exists.1 ((tracked_after_iff settings n).2 hlists)
    obtain ⟨q, hq⟩ := Option.isSome_iff_exists.1 ((tracked_after_iff settings 0).2 hlists)
    rw [hp, hq, Option.map_some, Option.map_some, parent_after hreport harmless n p hp,
      parent_after hreport harmless 0 q hq]
  · have huntracked (n : Nat) : (scene.after settings (n + 1)).process? pid = none := by
      rw [← Option.not_isSome_iff_eq_none, tracked_after_iff]
      exact hlists
    rw [huntracked n, huntracked 0]

/-- In the other case the second cycle loses it. -/
theorem parent_lost (clean : ∀ s ∈ scene.snapshots, s.Clean) (null : scene.Reports pid .null)
    (hlists : scene.Lists pid) {parent : Pid} (htold : scene.toldParent pid = some parent)
    (settings : Settings) :
    ((scene.after settings 2).process? pid).map (·.parent)
      ≠ ((scene.after settings 1).process? pid).map (·.parent) := by
  obtain ⟨p, hp⟩ := Option.isSome_iff_exists.1 ((tracked_after_iff settings 1).2 hlists)
  obtain ⟨q, hq⟩ := Option.isSome_iff_exists.1 ((tracked_after_iff settings 0).2 hlists)
  have hfound : q.parent = some parent := by
    rw [parent_after_one null hq, parentOf, htold]
    rfl
  have habsorbs := (calm_empty scene).absorbs_step clean rfl hq
  have hcleared : p.parent = none :=
    (calm_after scene settings 1).cleared_of_null null hq (by rw [hfound]; rfl) habsorbs hp
  rw [hp, hq, Option.map_some, Option.map_some, hfound, hcleared]
  exact nofun

/-- Where the same processes with the same parents are tracked, the trees have the same shape. -/
theorem shape_congr {t t' : Tracker} (calm : scene.Calm t) (calm' : scene.Calm t')
    (h : ∀ pid, (t.process? pid).map (·.parent) = (t'.process? pid).map (·.parent))
    (keys : List String) :
    (t.processes.project keys).map ProcessNode.bare
      = (t'.processes.project keys).map ProcessNode.bare := by
  refine ProcessTable.bare_project_congr keys fun pid => ?_
  show (t.process? pid).map (·.outline) = (t'.process? pid).map (·.outline)
  -- what a drawing shows of a process beyond its parent is settled by the scene
  have hparent := h pid
  cases hp : t.process? pid with
  | none =>
    rw [hp] at hparent
    rw [Option.map_eq_none_iff.1 hparent.symm]
  | some p =>
    rw [hp] at hparent
    obtain ⟨p', hp', hsame⟩ := Option.map_eq_some_iff.1 hparent.symm
    have hlive := calm.live pid p hp
    have hlive' := calm'.live pid p' hp'
    rw [hp', Option.map_some, Option.map_some, ProcessRecord.outline, ProcessRecord.outline,
      hlive.pid_eq, hlive'.pid_eq, hlive.isMaster, hlive'.isMaster, hsame]

end Scene

namespace Tracker

variable {σ : Type} {env : Environment (StateM σ)} {scene : Scene} {settings : Settings}

/-- The tracker after cycles that start from nothing, one for each of some states of the outside. -/
def polls (env : Environment (StateM σ)) (settings : Settings) (sources : List σ) : Tracker :=
  sources.foldl (poll env settings) .empty

/-- The cycles of an outside that plays a scene are those of the scene, as many as there are. -/
theorem polls_of_plays (plays : env.Plays scene) (sources : List σ) :
    polls env settings sources = scene.after settings sources.length := by
  -- from any cycle on, so that the induction can step along the sources
  have fold (sources : List σ) (n : Nat) :
      sources.foldl (poll env settings) (scene.after settings n)
        = scene.after settings (n + sources.length) := by
    induction sources generalizing n with
    | nil => rfl
    | cons s rest ih =>
      have hstep : poll env settings (scene.after settings n) s = scene.after settings (n + 1) :=
        poll_of_plays plays _ s
      rw [List.foldl_cons, hstep, ih (n + 1), List.length_cons]
      congr 1
      omega
  have hall := fold sources 0
  rw [Nat.zero_add] at hall
  exact hall

/-- What every later cycle leaves as it was after the first one, if the answers never change. The
processes stay the same. A process of which all entries report the same about its parent keeps the
parent exactly if they do not report that there is none while its identity tells one. Where all
parents stay the same, so does the shape of the tree. -/
theorem steady_view (settings : Settings) (plays : env.Plays scene)
    (read : ∃ text, Status.ofText text = .ok scene.status) (first : σ) :
    (∀ (rest : List σ) (pid : Pid),
      ((polls env settings (first :: rest)).process? pid).isSome
        = ((polls env settings [first]).process? pid).isSome) ∧
    (∀ pid : Pid,
      (∀ s ∈ scene.snapshots, ∀ s' ∈ scene.snapshots,
        s.pid = some pid → s'.pid = some pid → s.parent = s'.parent) →
      ((∀ rest : List σ,
        ((polls env settings (first :: rest)).process? pid).map (·.parent)
          = ((polls env settings [first]).process? pid).map (·.parent)) ↔
        ∀ s ∈ scene.snapshots, s.pid = some pid → s.parent = .null →
          scene.toldParent pid = none)) ∧
    (∀ rest : List σ,
      (∀ pid : Pid, ((polls env settings (first :: rest)).process? pid).map (·.parent)
        = ((polls env settings [first]).process? pid).map (·.parent)) →
      ((polls env settings (first :: rest)).processes.project settings.treeKeys).map
          ProcessNode.bare
        = ((polls env settings [first]).processes.project settings.treeKeys).map
          ProcessNode.bare) := by
  have hpolls (rest : List σ) :
      polls env settings (first :: rest) = scene.after settings (rest.length + 1) :=
    polls_of_plays plays (first :: rest)
  refine ⟨?_, ?_, ?_⟩
  · intro rest pid
    rw [hpolls rest, hpolls [], Bool.eq_iff_iff, Scene.tracked_after_iff, Scene.tracked_after_iff]
  · intro pid agree
    have hreports {s : ProcessSnapshot} (hs : s ∈ scene.snapshots) (hpid : s.pid = some pid) :
        scene.Reports pid s.parent :=
      fun s' hs' hpid' => agree s' hs' s hs hpid' hpid
    constructor
    · intro steady s hs hpid hnull
      cases htold : scene.toldParent pid with
      | none => rfl
      | some parent =>
        -- the first cycle and the second one do not find the same parent
        have null : scene.Reports pid .null := by
          rw [← hnull]
          exact hreports hs hpid
        obtain ⟨text, htext⟩ := read
        have hsame := steady [first]
        rw [hpolls [first], hpolls []] at hsame
        exact absurd hsame
          (Scene.parent_lost (Entries.clean_ofStatus htext) null ⟨s, hs, hpid⟩ htold settings)
    · intro harmless rest
      rw [hpolls rest, hpolls []]
      refine Scene.parent_steady ?_ settings rest.length
      rintro ⟨s, hs, hpid⟩
      exact ⟨s.parent, hreports hs hpid, harmless s hs hpid⟩
  · intro rest hparents
    rw [hpolls rest, hpolls []] at hparents ⊢
    exact Scene.shape_congr (Scene.calm_after scene settings _)
      (Scene.calm_after scene settings _) hparents settings.treeKeys

/-- An outside that plays a scene. -/
def outside (scene : Scene) : Environment (StateM Unit) where
  identity
    | none => return scene.master
    | some pid => return scene.identity pid
  status := return .ok scene.status
  note _ := return
  pause := return

/-- The outside of a scene plays it. -/
theorem plays_outside (scene : Scene) : (outside scene).Plays scene where
  status _ := rfl
  master _ := rfl
  identity _ _ := rfl

/-- A scene with one process and an entry of it. Its identity tells that the master process is its
parent. -/
def childScene (entry : Fields) : Scene where
  status := .byPid [("2", .object entry)]
  master := .ok ⟨1, none, none, none, []⟩
  identity pid := .ok ⟨pid, some 1, none, none, []⟩

/-- A text with one value and nothing behind it is read as that value. -/
theorem ofText_of_scanText {text : String} {status : Status} (value : Json)
    (hvalue : (Json.scanText text).1.value? = some value) (herror : (Json.scanText text).2 = none)
    (hstatus : Status.ofJson value.collapse = .ok status) : Status.ofText text = .ok status := by
  unfold Status.ofText
  dsimp only
  rw [hvalue, herror]
  dsimp only
  rw [hstatus]

/-- If the entry says nothing of the parent, the view is steady. -/
theorem steady_view_childScene :
    Status.ofText "\x7b\"2\":\x7b\x7d\x7d" = .ok (childScene []).status ∧
      ∀ rest : List Unit,
        (∀ pid, ((polls (outside (childScene [])) .default (() :: rest)).process? pid).isSome
          = ((polls (outside (childScene [])) .default [()]).process? pid).isSome) ∧
        (∀ pid, ((polls (outside (childScene [])) .default (() :: rest)).process? pid).map (·.parent)
          = ((polls (outside (childScene [])) .default [()]).process? pid).map (·.parent)) ∧
        ((polls (outside (childScene [])) .default (() :: rest)).processes.project
            Settings.default.treeKeys).map ProcessNode.bare
          = ((polls (outside (childScene [])) .default [()]).processes.project
            Settings.default.treeKeys).map ProcessNode.bare := by
  have hread : Status.ofText "\x7b\"2\":\x7b\x7d\x7d" = .ok (childScene []).status :=
    ofText_of_scanText (.object [("2", .object [])]) (by rfl) (by decide) (by rfl)
  have hsnapshots : (childScene []).snapshots
      = [{ ProcessSnapshot.empty with pid := some 2 }] := by rfl
  obtain ⟨tracked, parents, shape⟩ :=
    steady_view .default (plays_outside (childScene [])) ⟨_, hread⟩ ()
  -- the one snapshot agrees with itself, and reports no parent as null
  have hparents (rest : List Unit) (pid : Pid) :
      ((polls (outside (childScene [])) .default (() :: rest)).process? pid).map (·.parent)
        = ((polls (outside (childScene [])) .default [()]).process? pid).map (·.parent) := by
    refine (parents pid ?_).2 ?_ rest
    · rw [hsnapshots]
      intro s hs s' hs' _ _
      rw [List.mem_singleton.1 hs, List.mem_singleton.1 hs']
    · rw [hsnapshots]
      intro s hs _ hnull
      rw [List.mem_singleton.1 hs] at hnull
      cases hnull
  exact ⟨hread, fun rest => ⟨tracked rest, hparents rest, shape rest (hparents rest)⟩⟩

/-- If the entry reports that there is no parent, the second cycle loses the one that the first
cycle found. -/
theorem parent_not_steady :
    ¬ ∀ (scene : Scene) (env : Environment (StateM Unit)) (settings : Settings) (rest : List Unit)
      (pid : Pid), (∃ text, Status.ofText text = .ok scene.status) → env.Plays scene →
      ((polls env settings (() :: rest)).process? pid).map (·.parent)
        = ((polls env settings [()]).process? pid).map (·.parent) := by
  intro keeps_parent
  have hread : Status.ofText "\x7b\"2\":\x7b\"parent_pid\":null\x7d\x7d"
      = .ok (childScene [("parent_pid", .null)]).status :=
    ofText_of_scanText (.object [("2", .object [("parent_pid", .null)])]) (by rfl) (by decide)
      (by rfl)
  have hfirst : ((polls (outside (childScene [("parent_pid", .null)])) .default [()]).process? 2).map
      (·.parent) = some (some 1) := by decide
  have hsecond : ((polls (outside (childScene [("parent_pid", .null)])) .default [(), ()]).process?
      2).map (·.parent) = some none := by decide
  have hsame := keeps_parent _ _ .default [()] 2 ⟨_, hread⟩
    (plays_outside (childScene [("parent_pid", .null)]))
  rw [hfirst, hsecond] at hsame
  cases hsame

end Tracker

end ProcessWatch
