import ProcessWatch.Proofs.Polling.Cycle
import ProcessWatch.Proofs.Record.Filled
import ProcessWatch.Proofs.Record.Stable

/-!
# Merging a snapshot twice

A snapshot that is merged twice in a row is merged once. The two merges need not take the same way:
the first one may make a new record or reopen a file, and the second one always merges into the
record that the first one left, from which it fills the gaps of the snapshot again.

* **`ProcessRecord.create_fill`** — gaps that are filled from a record that already has what is
  merged are filled as they were before.
* **`ProcessRecord.renew_again`** — one record, twice.
* **`Tracker.timed_after`**, **`Tracker.Cycles.timed`** — no time in a tracker is NaN if none was
  told, and none is told by a status that was read from a text.
* **`Tracker.seen_twice`** — a tracker after the same snapshot twice.
-/

namespace ProcessWatch

/-! ## Filling gaps again

The second time the snapshot is filled from a record that has it already. The gaps may then be
filled with other values than at first, but with those that the first merge left, so the same record
is made of it. -/

namespace DescriptorRecord

variable {ctx : CycleContext} {time : Option Float} {id : String}

/-- A descriptor record is made of the values alone; a gap and a null make the same. -/
theorem ofSnapshot_congr {d d' : DescriptorSnapshot} (kind : d.kind = d'.kind)
    (readOnly : d.readOnly = d'.readOnly) (flags : d.flags = d'.flags)
    (fields : d.fields = d'.fields) (pos : d.pos.value? = d'.pos.value?)
    (size : d.size.value? = d'.size.value?)
    (timeOfStat : d.timeOfStat.value? = d'.timeOfStat.value?) :
    ofSnapshot ctx time id d = ofSnapshot ctx time id d' := by
  unfold ofSnapshot
  rw [kind, readOnly, flags, fields, pos, size, timeOfStat]

/-- A record that has what a descriptor tells fills the same gaps. -/
theorem ofSnapshot_fill {known : DescriptorRecord} {d incoming : DescriptorSnapshot}
    (completes : d.Completes incoming)
    (keeps : Merged.Keeps merge known (ofSnapshot ctx time id d)) :
    ofSnapshot ctx time id (known.fill incoming) = ofSnapshot ctx time id d := by
  have hknown := (merge_of_ok keeps.error).symm.trans keeps.value
  have hpos : d.pos.value? = known.pos := congrArg DescriptorRecord.pos hknown
  have hsize : d.size.value? = known.size := congrArg DescriptorRecord.size hknown
  have htime : d.timeOfStat.value? = known.timeOfStat :=
    congrArg DescriptorRecord.timeOfStat hknown
  refine ofSnapshot_congr completes.kind.symm completes.readOnly.symm completes.flags.symm
    completes.fields.symm ?_ ?_ ?_
  · show (incoming.pos.orKnown known.pos).value? = _
    rw [← hpos, completes.pos.value?_orKnown]
  · show (incoming.size.orKnown known.size).value? = _
    rw [← hsize, completes.size.value?_orKnown]
  · show (incoming.timeOfStat.orKnown known.timeOfStat).value? = _
    rw [← htime, completes.timeOfStat.value?_orKnown]

end DescriptorRecord

namespace FileRecord

variable {ctx : CycleContext} {time : Option Float} {name : String}

/-- What a merge leaves alone is open if that what is merged is. -/
theorem of_keeps {file incoming : FileRecord} (opened : incoming.isOpen = true)
    (keeps : Merged.Keeps merge file incoming) : file.isOpen = true ∧
      Merged.Keeps (Merged.maps DescriptorRecord.merge) file.descriptors incoming.descriptors := by
  by_cases hreopen : file.isOpen = false ∧ incoming.isOpen = true
  · have hsame : incoming = file := by
      have hvalue := keeps.value
      rwa [merge_reopened hreopen.1 hreopen.2] at hvalue
    rw [← hsame, opened] at hreopen
    cases hreopen.1
  · have herror := keeps.error
    have hvalue := keeps.value
    rw [merge_of_not_reopened hreopen] at herror hvalue
    have hopen : file.isOpen = true := (congrArg FileRecord.isOpen hvalue).symm.trans opened
    exact ⟨hopen, Merged.keeps_of_value herror (congrArg FileRecord.descriptors hvalue)⟩

/-- A file that keeps what a snapshot made of it makes the same of the snapshot again, filled in
from itself. -/
theorem ofSnapshot_fill {file : FileRecord}
    {descriptors incoming : SortedMap String DescriptorSnapshot}
    (complete : Descriptors.Complete descriptors incoming)
    (keeps : Merged.Keeps merge file (ofSnapshot ctx time name descriptors)) :
    ofSnapshot ctx time name (file.fill incoming) = ofSnapshot ctx time name descriptors := by
  obtain ⟨hopen, hdescriptors⟩ := of_keeps rfl keeps
  -- descriptor by descriptor: what the file keeps of one is what fills it again
  have hmaps : (file.fill incoming).mapWithKey (DescriptorRecord.ofSnapshot ctx time)
      = descriptors.mapWithKey (DescriptorRecord.ofSnapshot ctx time) := by
    refine SortedMap.ext_get? fun id => ?_
    unfold fill
    rw [if_pos hopen, SortedMap.get?_mapWithKey, SortedMap.get?_mapWithKey,
      SortedMap.get?_mapWithKey, Option.map_map]
    refine (map_eq_of_rel (complete id) fun d d' hd completes => ?_).symm
    have hlisted : (ofSnapshot ctx time name descriptors).descriptors.get? id
        = some (DescriptorRecord.ofSnapshot ctx time id d) :=
      (get?_descriptors_ofSnapshot ctx time name descriptors id).trans (congrArg (Option.map _) hd)
    obtain ⟨known, hknown, keeps⟩ := Merged.keeps_maps_iff.1 hdescriptors id _ hlisted
    dsimp only [Function.comp_apply]
    rw [hknown]
    exact (DescriptorRecord.ofSnapshot_fill completes keeps).symm
  unfold ofSnapshot
  rw [hmaps]

end FileRecord

namespace ProcessRecord

variable {ctx : CycleContext} {pid : Pid} {known : Option ProcessRecord} {p : ProcessRecord}
  {s incoming : ProcessSnapshot}

/-- A process record is made of the values alone, too. -/
theorem create_congr {s s' : ProcessSnapshot} (parent : s.parent.value? = s'.parent.value?)
    (time : s.time.value? = s'.time.value?) (fields : s.fields = s'.fields)
    (files : s.openFiles.mapWithKey (FileRecord.ofSnapshot ctx s.time.value?)
      = s'.openFiles.mapWithKey (FileRecord.ofSnapshot ctx s'.time.value?)) :
    create ctx pid s = create ctx pid s' := by
  unfold create
  dsimp only
  rw [files, parent, time, fields]

/-- A record that has what a snapshot tells fills the same gaps. -/
theorem create_fill (completes : s.Completes incoming)
    (keeps : Merged.Keeps merge p (create ctx pid s)) :
    create ctx pid (p.fill incoming) = create ctx pid s := by
  -- the record keeps what was made of the snapshot, so it agrees with that in every part
  have hp := (merge_of_ok keeps.error).symm.trans keeps.value
  have hparent : s.parent.value? = p.parent := congrArg ProcessRecord.parent hp
  have htime : s.time.value? = p.time := congrArg ProcessRecord.time hp
  have hfiles : Merged.Keeps (Merged.maps FileRecord.merge) p.files (create ctx pid s).files :=
    Merged.keeps_of_value (merge_error_eq_none_iff.1 keeps.error).2
      (congrArg ProcessRecord.files hp)
  have hparent_filled : (p.fill incoming).parent.value? = s.parent.value? := by
    show (incoming.parent.orKnown p.parent).value? = _
    rw [← hparent, completes.parent.value?_orKnown]
  have htime_filled : (p.fill incoming).time.value? = s.time.value? := by
    show (incoming.time.orKnown p.time).value? = _
    rw [← htime, completes.time.value?_orKnown]
  -- the files are compared one by one, as they may stand in the snapshots with gaps or without
  refine create_congr hparent_filled htime_filled completes.fields.symm ?_
  refine SortedMap.ext_get? fun name => ?_
  rw [SortedMap.get?_mapWithKey, SortedMap.get?_mapWithKey, get?_openFiles_fill, htime_filled,
    Option.map_map]
  refine (map_eq_of_rel (completes.openFiles name) fun descriptors _ hlisted complete => ?_).symm
  have hcreated : (create ctx pid s).files.get? name
      = some (FileRecord.ofSnapshot ctx s.time.value? name descriptors) := by
    rw [create_files, SortedMap.get?_mapWithKey, hlisted]
    rfl
  obtain ⟨file, hfile, keeps⟩ := Merged.keeps_maps_iff.1 hfiles name _ hcreated
  dsimp only [Function.comp_apply]
  rw [hfile]
  exact (FileRecord.ofSnapshot_fill complete keeps).symm

/-- A record that a snapshot was merged into is not changed by merging it again. -/
theorem renew_again (timed : ∀ old, known = some old → old.Timed) (clean : s.Clean)
    (definite : s.Definite) (h : renew ctx pid known s = .ok p) :
    renew ctx pid (some p) s = .ok p := by
  have running : p.isRunning = true := isRunning_renew h
  -- what was merged is the record of the snapshot with its gaps filled in, or as it came
  have ⟨filled, completes, keeps⟩ :
      ∃ filled, filled.Completes s ∧ Merged.Keeps merge p (create ctx pid filled) := by
    rcases renew_cases h with ⟨old, hold, _, hok, rfl⟩ | ⟨_, rfl⟩
    · have completes := completes_fill old s
      have stable : Merged.Stable merge (create ctx pid (old.fill s)) :=
        stable_create (completes.clean clean) (definite_fill (timed old hold) definite)
      exact ⟨old.fill s, completes, stable.again old hok⟩
    · exact ⟨s, s.completes_self, (stable_create clean definite).self⟩
  have hmerge : p.merge (create ctx pid (p.fill s)) = .done p := by
    rw [create_fill completes keeps]
    exact keeps
  rw [renew_of_merge running (congrArg Merged.error hmerge), hmerge]
  rfl

end ProcessRecord

/-! ## Trackers -/

/-- No time that an event tells is NaN. -/
def Event.Timed : Event → Prop
  | identified _ => True
  | seen _ snapshot => snapshot.Timed
  | applied _ entries => ∀ s ∈ entries.snapshots, s.Timed

/-- The snapshots of an event have times that are numbers. -/
theorem Event.Timed.snapshots {e : Event} (h : e.Timed) : ∀ s ∈ e.snapshots, s.Timed := by
  cases e with
  | identified master => exact List.forall_mem_nil _
  | seen ctx s => exact List.forall_mem_singleton.2 h
  | applied settings entries => exact h

/-- A record tells no time that is NaN if no snapshot does. The gaps of a snapshot are filled with
the times of the record, which is why filling needs the record to be so. -/
theorem ProcessRecord.invariant_timed :
    Invariant ProcessSnapshot.Timed fun _ p => p.Timed where
  create _ _ _ hs := timed_create hs
  fill h hs := h.fill hs
  merge h hi _ hok := h.merge hi hok
  settle reported h := h.settle reported

/-- Filling a snapshot changes no time. -/
theorem ProcessSnapshot.FilledFrom.timed {s s' : ProcessSnapshot} (h : FilledFrom s s')
    (hs : s.Timed) : s'.Timed := by
  rcases h with rfl | ⟨identity, rfl⟩
  · exact hs
  · exact ⟨hs.time, hs.descriptors⟩

namespace Tracker

variable {t t' : Tracker} {ctx : CycleContext} {s : ProcessSnapshot}

/-- No time in a tracker is NaN. -/
def Timed (t : Tracker) : Prop := ∀ pid p, t.process? pid = some p → p.Timed

/-- An event with such snapshots leaves records with such times. -/
theorem Timed.handle (h : t.Timed) {e : Event} (he : e.Timed) : (t.handle e).Timed :=
  ProcessRecord.invariant_timed.handle h he.snapshots

/-- A run with such snapshots leaves records with such times. -/
theorem timed_after {events : List Event} (timed : ∀ e ∈ events, e.Timed) :
    (after events).Timed :=
  ProcessRecord.invariant_timed.after fun e he => (timed e he).snapshots

/-- To ask for the master process touches no record. -/
theorem Timed.resolved {σ : Type} (h : t.Timed) (env : Environment (StateM σ)) (s : σ) :
    (t.resolved env s).1.Timed := by
  rcases resolved_cases env t s with hsame | ⟨master, hmaster⟩
  · rw [hsame]
    exact h
  · rw [hmaster]
    exact h.handle (e := .identified master) trivial

/-- Statuses that were read from texts tell no time that is NaN. -/
theorem Cycles.timed {σ : Type} {env : Environment (StateM σ)} {settings : Settings}
    {statuses : List Applied} (run : Cycles env settings t statuses t') (h : t.Timed)
    (read : ∀ a ∈ statuses, ∃ text, Status.ofText text = .ok a.status) : t'.Timed := by
  induction run with
  | start => exact h
  | @failed statuses t' s failure before hfailed ih =>
    rw [poll_of_failed hfailed]
    exact (ih read).resolved env s
  | @told statuses t' s status before htold ih =>
    obtain ⟨hbefore, hlast⟩ := List.forall_mem_append.1 read
    obtain ⟨text, htext⟩ := List.forall_mem_singleton.1 hlast
    let a := t'.applied env s status
    -- the filling takes no time from the answers
    have entries_timed : ∀ s ∈ a.entries.snapshots, s.Timed := by
      intro s hs
      obtain ⟨came, hcame, hfilled⟩ := mem_enrich hs
      exact hfilled.timed (Entries.definite_ofStatus htext came hcame).toTimed
    rw [poll_of_told htold]
    exact Timed.handle (e := .applied settings a.entries) ((ih hbefore).resolved env s)
      entries_timed

/-- A snapshot that was merged is merged again without a change. -/
theorem track_again (timed : t.Timed) (clean : s.Clean) (definite : s.Definite)
    (h : t.track ctx s = .ok t') : t'.track ctx s = .ok t' := by
  cases hpid : s.pid with
  | none =>
    have herror : t.processes.track ctx s = .error .missingPid := by
      unfold ProcessTable.track
      rw [hpid]
    rw [track, herror] at h
    cases h
  | some pid =>
    rw [track, ProcessTable.track_of_renew hpid] at h
    cases hrenew : ProcessRecord.renew ctx pid (t.processes.get? pid) s with
    | error cause =>
      rw [hrenew] at h
      cases h
    | ok p =>
      rw [hrenew] at h
      cases h
      -- the record is renewed to itself, and inserting it again is no change
      have hagain := ProcessRecord.renew_again (timed pid) clean definite hrenew
      have hinsert : (t.processes.insert pid p).insert pid p = t.processes.insert pid p := by
        refine SortedMap.ext_get? fun k => ?_
        rw [SortedMap.get?_insert, SortedMap.get?_insert]
        split <;> rfl
      rw [track, ProcessTable.track_of_renew hpid]
      dsimp only
      rw [SortedMap.get?_insert_self, hagain]
      dsimp only
      rw [hinsert]
      rfl

/-- A snapshot that was read is merged twice as it is merged once: both times with the same outcome,
and the second time without a change, whatever the tracker knows of the process and its files. No
number in it is NaN, and none is in a value that was read from a text. -/
theorem seen_twice {events : List Event} (timed : ∀ e ∈ events, e.Timed) (ctx : CycleContext)
    {value : Json} (unique : value.Unique) (definite : value.Definite) {s : ProcessSnapshot}
    (h : ProcessSnapshot.ofJson value = .ok s) :
    let once := (after events).handle (.seen ctx s)
    once.track ctx s = (after events).track ctx s ∧ once.handle (.seen ctx s) = once := by
  intro once
  -- what was read is clean and definite, because the value was
  have hclean : s.Clean := ProcessSnapshot.clean_of_ofJson h unique
  have hdefinite : s.Definite := (ProcessSnapshot.faithful_of_ofJson h unique).definite definite
  cases hfirst : (after events).track ctx s with
  -- a clash leaves the tracker, so it happens again
  | error error =>
    have honce : once = after events := by
      show (after events).handle (.seen ctx s) = _
      rw [handle, hfirst]
    rw [honce, handle, hfirst]
    exact ⟨rfl, rfl⟩
  -- what was merged in is in the record already
  | ok t =>
    have honce : once = t := by
      show (after events).handle (.seen ctx s) = _
      rw [handle, hfirst]
    have hsecond : t.track ctx s = .ok t :=
      track_again (timed_after timed) hclean hdefinite hfirst
    rw [honce, handle, hsecond]
    exact ⟨rfl, rfl⟩

/-- So is a snapshot of a process that leaves out where the process stands in its file. -/
theorem seen_twice_gapped :
    let files (key : String) (n : Nat) : Json :=
      .object [("f", .object [("3", .object [(key, .nat n)])])]
    let first : Json := .object [("pid", .nat 1), ("time", .nat 5), ("open_files", files "pos" 7)]
    let value : Json := .object [("pid", .nat 1), ("open_files", files "size" 9)]
    let ctx (index : Nat) : CycleContext := ⟨index, none, ⟨2, by decide⟩, [], ["pos"]⟩
    ∃ s s', ProcessSnapshot.ofJson first = .ok s ∧ ProcessSnapshot.ofJson value = .ok s' ∧
      let t := after [.seen (ctx 0) s]
      let once := t.handle (.seen (ctx 1) s')
      (t.track (ctx 1) s').isOk = true ∧ once.track (ctx 1) s' = t.track (ctx 1) s' ∧
        once.handle (.seen (ctx 1) s') = once := by
  intro files first value ctx
  -- both values repeat no name and have no NaN, checked level by level
  have number (n : Nat) : (Json.nat n).Definite := .number (beq_self_eq_true (n : Int))
  have nodup (key : String) : [key].Nodup := List.nodup_cons.2 ⟨List.not_mem_nil, .nil⟩
  have files_unique (key : String) (n : Nat) : (files key n).Unique :=
    .object (nodup "f") <| List.forall_mem_singleton.2 <|
      .object (nodup "3") <| List.forall_mem_singleton.2 <|
        .object (nodup key) <| List.forall_mem_singleton.2 (.number _)
  have files_definite (key : String) (n : Nat) : (files key n).Definite :=
    .object <| List.forall_mem_singleton.2 <| .object <| List.forall_mem_singleton.2 <|
      .object <| List.forall_mem_singleton.2 (number n)
  have first_unique : first.Unique :=
    .object (by decide) <| by simpa using ⟨.number _, .number _, files_unique "pos" 7⟩
  have first_definite : first.Definite :=
    .object <| by simpa using ⟨number 1, number 5, files_definite "pos" 7⟩
  have unique : value.Unique :=
    .object (by decide) <| by simpa using ⟨.number _, files_unique "size" 9⟩
  have definite : value.Definite := .object <| by simpa using ⟨number 1, files_definite "size" 9⟩
  have timed {s : ProcessSnapshot} (h : ProcessSnapshot.ofJson first = .ok s) :
      ∀ e ∈ [Event.seen (ctx 0) s], e.Timed := by
    have hs : s.Definite :=
      (ProcessSnapshot.faithful_of_ofJson h first_unique).definite first_definite
    exact List.forall_mem_singleton.2 hs.toTimed
  refine ⟨_, _, rfl, rfl, by decide +kernel, ?_⟩
  exact seen_twice (timed rfl) (ctx 1) unique definite rfl

end Tracker

end ProcessWatch
