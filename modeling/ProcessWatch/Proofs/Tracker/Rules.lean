import ProcessWatch.Proofs.Record.Absorbs
import ProcessWatch.Proofs.Record.Samples
import ProcessWatch.Proofs.Tracker.Status

/-!
# The rules of a merge

What a snapshot makes of each field of a running process. What is reported counts, `null` takes
back, and what is left out stays; only the kind, the mode and the flags of a descriptor stay as they
were first seen. The gaps of a snapshot are filled in before its record is made, so the samples of
what is known on both sides show the values after the merge.

## The architecture

* **`Reported.over`** — a field after a snapshot; `value?_orKnown` for the filling of gaps.
* **`History.Extends`** — a history after one more sample.
* **`DescriptorRecord.FromSnapshot`**, **`FileRecord.FromSnapshot`** — what is made of a snapshot
  alone.
* **`DescriptorRecord.Updated`**, **`FileRecord.Updated`**, **`ProcessRecord.Updated`** — what is
  made of a record and a snapshot, from the inside out.
* **`Tracker.updated_track`** — the record of a running process after a snapshot.
-/

namespace ProcessWatch

/-! ## Fields and histories -/

/-- The value of a field after a report: what is reported counts, and what is left out stays. -/
def Reported.over {α : Type} (report : Reported α) (known : Option α) : Option α :=
  match report with
  | .absent => known
  | .null => none
  | .value a => some a

/-- A gap that is filled shows what was known, and a report shows itself. -/
theorem Reported.value?_orKnown {α : Type} (report : Reported α) (known : Option α) :
    (report.orKnown known).value? = report.over known := by
  cases report with
  | absent => cases known <;> rfl
  | null | value _ => rfl

namespace History

/-- A history after one more sample: it ends with that sample, with as many before it as there is
room for. A sample that equals the newest one is left out. -/
structure Extends (before : History Sample) (sample : Sample) (after : History Sample) : Prop where
  capacity : after.capacity = before.capacity
  samples : after.samples =
    if before.samples.getLast?.any (· == sample) then before.samples
    else newest before.capacity.count (before.samples ++ [sample])

/-- The samples of an incoming history that has one only extend a history by that one. -/
theorem extends_merge {incoming : History Sample} {sample : Sample}
    (hi : incoming.samples = [sample]) (h : History Sample) :
    h.Extends sample (h.merge incoming) := by
  have hrepeats : h.repeats sample = h.samples.getLast?.any (· == sample) := by
    unfold repeats latest?
    cases h.samples.getLast? <;> rfl
  rw [merge_of_samples hi]
  refine ⟨append_capacity h sample, ?_⟩
  rw [← hrepeats]
  unfold append
  split
  next => rfl
  next => rfl

end History

/-! ## Descriptors -/

namespace DescriptorRecord

variable {ctx : CycleContext} {time : Option Float} {id : String} {known m : DescriptorRecord}
  {d : DescriptorSnapshot}

/-- A descriptor that is made of a snapshot alone, with one sample. -/
structure FromSnapshot (ctx : CycleContext) (time : Option Float) (id : String)
    (d : DescriptorSnapshot) (m : DescriptorRecord) : Prop where
  id_eq : m.id = id
  kind : m.kind = d.kind
  readOnly : m.readOnly = d.readOnly
  flags : m.flags = d.flags
  pos : m.pos = d.pos.value?
  size : m.size = d.size.value?
  timeOfStat : m.timeOfStat = d.timeOfStat.value?
  attributes : m.attributes = d.fields
  capacity : m.history.capacity = ctx.capacity
  samples : m.history.samples = [Sample.ofFields ctx.index time ctx.fileKeys m.field]

/-- Making a descriptor of a snapshot does just that. -/
theorem fromSnapshot_ofSnapshot (ctx : CycleContext) (time : Option Float) (id : String)
    (d : DescriptorSnapshot) : FromSnapshot ctx time id d (ofSnapshot ctx time id d) :=
  ⟨rfl, rfl, rfl, rfl, rfl, rfl, rfl, rfl, History.append_capacity _ _,
    History.samples_empty_append _ _⟩

/-- A descriptor as a sample of a snapshot shows it: what is never filled in is the snapshot's. -/
def sampledAs (m : DescriptorRecord) (id : String) (d : DescriptorSnapshot) : DescriptorRecord :=
  { m with
    id
    kind := d.kind
    readOnly := d.readOnly
    flags := d.flags
    attributes := d.fields }

/-- A descriptor that was known, after a snapshot of it. -/
structure Updated (ctx : CycleContext) (time : Option Float) (id : String)
    (known : DescriptorRecord) (d : DescriptorSnapshot) (m : DescriptorRecord) : Prop where
  id_eq : m.id = known.id
  kind : m.kind = known.kind.or d.kind
  readOnly : m.readOnly = known.readOnly.or d.readOnly
  flags : m.flags = known.flags.or d.flags
  pos : m.pos = d.pos.over known.pos
  size : m.size = d.size.over known.size
  timeOfStat : m.timeOfStat = d.timeOfStat.over known.timeOfStat
  attributes : m.attributes = (Attributes.merge known.attributes d.fields).value
  history : known.history.Extends
    (Sample.ofFields ctx.index time ctx.fileKeys (m.sampledAs id d).field) m.history

/-- To merge a descriptor with the filled snapshot is to update it by the rules. -/
theorem updated_merge (hok : (known.merge (ofSnapshot ctx time id (known.fill d))).error = none) :
    Updated ctx time id known d (known.merge (ofSnapshot ctx time id (known.fill d))).value := by
  have made := fromSnapshot_ofSnapshot ctx time id (known.fill d)
  rw [merge_of_ok hok]
  -- what is filled in is position, size and time; the sample is made of the filled snapshot too
  refine ⟨rfl, rfl, rfl, rfl, ?_, ?_, ?_, rfl, ?_⟩
  · exact Reported.value?_orKnown d.pos known.pos
  · exact Reported.value?_orKnown d.size known.size
  · exact Reported.value?_orKnown d.timeOfStat known.timeOfStat
  · exact History.extends_merge made.samples known.history

end DescriptorRecord

/-! ## Files -/

namespace FileRecord

variable {ctx : CycleContext} {time : Option Float} {name : String} {known : FileRecord}
  {descriptors : SortedMap String DescriptorSnapshot}

/-- A file that is made of a snapshot alone. -/
structure FromSnapshot (ctx : CycleContext) (time : Option Float) (name : String)
    (descriptors : SortedMap String DescriptorSnapshot) (m : FileRecord) : Prop where
  name_eq : m.name = name
  isOpen : m.isOpen = true
  descriptors : ∀ id, Option.Rel (fun d' d => DescriptorRecord.FromSnapshot ctx time id d d')
    (m.descriptors.get? id) (descriptors.get? id)

/-- Making a file of descriptors makes each of them. -/
theorem fromSnapshot_ofSnapshot (ctx : CycleContext) (time : Option Float) (name : String)
    (descriptors : SortedMap String DescriptorSnapshot) :
    FromSnapshot ctx time name descriptors (ofSnapshot ctx time name descriptors) := by
  refine ⟨rfl, rfl, fun id => ?_⟩
  rw [get?_descriptors_ofSnapshot]
  exact rel_map (DescriptorRecord.fromSnapshot_ofSnapshot ctx time id) _

/-- A file that was open, after a snapshot that lists it. -/
structure Updated (ctx : CycleContext) (time : Option Float) (known : FileRecord)
    (descriptors : SortedMap String DescriptorSnapshot) (m : FileRecord) : Prop where
  name_eq : m.name = known.name
  isOpen : m.isOpen = true
  unlisted : ∀ id, descriptors.get? id = none →
    m.descriptors.get? id = known.descriptors.get? id
  added : ∀ id d, descriptors.get? id = some d → known.descriptors.get? id = none →
    ∃ d', m.descriptors.get? id = some d' ∧ DescriptorRecord.FromSnapshot ctx time id d d'
  updated : ∀ id d before, descriptors.get? id = some d →
    known.descriptors.get? id = some before →
      ∃ d', m.descriptors.get? id = some d' ∧ before.Updated ctx time id d d'

/-- The same for a file that was open. A descriptor is only filled from the one with its id. -/
theorem updated_merge (opened : known.isOpen = true)
    (hok : (known.merge (ofSnapshot ctx time name (known.fill descriptors))).error = none) :
    Updated ctx time known descriptors
      (known.merge (ofSnapshot ctx time name (known.fill descriptors))).value := by
  have hreopen : ¬ (known.isOpen = false ∧
      (ofSnapshot ctx time name (known.fill descriptors)).isOpen = true) := by
    rintro ⟨closed, _⟩
    rw [opened] at closed
    cases closed
  have hincoming (id : String) :
      (ofSnapshot ctx time name (known.fill descriptors)).descriptors.get? id
        = (descriptors.get? id).map fun d => DescriptorRecord.ofSnapshot ctx time id
          ((known.descriptors.get? id).elim d (·.fill d)) := by
    unfold fill
    rw [if_pos opened, get?_descriptors_ofSnapshot, SortedMap.get?_mapWithKey, Option.map_map]
    congr 1
    funext d
    cases known.descriptors.get? id <;> rfl
  rw [merge_of_not_reopened hreopen] at hok ⊢
  refine ⟨rfl, rfl, ?_, ?_, ?_⟩
  · intro id hid
    have hnone := hincoming id
    rw [hid] at hnone
    exact Merged.get?_maps_kept hok hnone
  · intro id d hid hnew
    have hsome := hincoming id
    rw [hid, hnew] at hsome
    exact ⟨_, Merged.get?_maps_added hok hnew hsome,
      DescriptorRecord.fromSnapshot_ofSnapshot ctx time id d⟩
  · intro id d before hid hbefore
    have hsome := hincoming id
    rw [hid, hbefore] at hsome
    obtain ⟨herr, hget⟩ := Merged.get?_maps_merged hok hbefore hsome
    exact ⟨_, hget, DescriptorRecord.updated_merge herr⟩

end FileRecord

/-! ## Processes -/

namespace ProcessRecord

variable {ctx : CycleContext} {known : ProcessRecord} {s : ProcessSnapshot}

/-- A process as a sample of a snapshot shows it: its attributes are those of the snapshot, without
the fields that the tracking decides. -/
def sampledAs (m : ProcessRecord) (s : ProcessSnapshot) : ProcessRecord :=
  { m with attributes := Fields.without trackedFields s.fields }

/-- A process that was running, after a snapshot of it. -/
structure Updated (ctx : CycleContext) (known : ProcessRecord) (s : ProcessSnapshot)
    (m : ProcessRecord) : Prop where
  pid : m.pid = known.pid
  parent : m.parent = s.parent.over known.parent
  time : m.time = s.time.over known.time
  isRunning : m.isRunning = true
  age : m.age = none
  isMaster : m.isMaster = true ↔ ctx.masterPid = some m.pid
  attributes : m.attributes
    = (Attributes.merge known.attributes (Fields.without trackedFields s.fields)).value
  history : known.history.Extends
    (Sample.ofFields ctx.index m.time ctx.processKeys (m.sampledAs s).field) m.history
  unlisted : ∀ name, s.openFiles.get? name = none → m.files.get? name = known.files.get? name
  opened : ∀ name descriptors, s.openFiles.get? name = some descriptors →
    (∀ before, known.files.get? name = some before → before.isOpen = false) →
      ∃ file, m.files.get? name = some file ∧
        FileRecord.FromSnapshot ctx m.time name descriptors file
  updated : ∀ name descriptors before, s.openFiles.get? name = some descriptors →
    known.files.get? name = some before → before.isOpen = true →
      ∃ file, m.files.get? name = some file ∧ before.Updated ctx m.time descriptors file

/-- The same for a process, where each listed file is opened or updated. -/
theorem updated_merge (hok : (known.merge (create ctx known.pid (known.fill s))).error = none) :
    Updated ctx known s (known.merge (create ctx known.pid (known.fill s))).value := by
  have hfiles := (merge_error_eq_none_iff.1 hok).2
  -- the files that come in are the listed ones, each filled from the known one of its name
  have hincoming (name : String) : (create ctx known.pid (known.fill s)).files.get? name
      = (s.openFiles.get? name).map fun descriptors =>
        FileRecord.ofSnapshot ctx (known.fill s).time.value? name
          ((known.files.get? name).elim descriptors (·.fill descriptors)) := by
    rw [create_files, SortedMap.get?_mapWithKey, get?_openFiles_fill, Option.map_map]
    congr 1
    funext descriptors
    cases known.files.get? name <;> rfl
  rw [merge_of_ok hok]
  refine ⟨rfl, Reported.value?_orKnown s.parent known.parent,
    Reported.value?_orKnown s.time known.time, rfl, rfl, beq_iff_eq, rfl,
    History.extends_merge (History.samples_empty_append _ _) known.history, ?_, ?_, ?_⟩
  · intro name hname
    have hnone := hincoming name
    rw [hname] at hnone
    exact Merged.get?_maps_kept hfiles hnone
  · intro name descriptors hname hclosed
    have hsome := hincoming name
    refine ⟨_, ?_, FileRecord.fromSnapshot_ofSnapshot ctx _ name descriptors⟩
    cases hbefore : known.files.get? name with
    | none =>
      rw [hname, hbefore] at hsome
      exact Merged.get?_maps_added hfiles hbefore hsome
    | some before =>
      -- nothing is filled in from a closed file, and nothing of it is kept
      have closed := hclosed before hbefore
      have hfill : before.fill descriptors = descriptors :=
        if_neg (by rw [closed]; exact Bool.false_ne_true)
      rw [hname, hbefore, Option.map_some, Option.elim_some, hfill] at hsome
      obtain ⟨_, hget⟩ := Merged.get?_maps_merged hfiles hbefore hsome
      rw [FileRecord.merge_reopened closed rfl] at hget
      exact hget
  · intro name descriptors before hname hbefore hopen
    have hsome := hincoming name
    rw [hname, hbefore] at hsome
    obtain ⟨herr, hget⟩ := Merged.get?_maps_merged hfiles hbefore hsome
    exact ⟨_, hget, FileRecord.updated_merge hopen herr⟩

end ProcessRecord

/-! ## Trackers -/

namespace Tracker

variable {t t' : Tracker} {ctx : CycleContext} {known : ProcessRecord} {s : ProcessSnapshot}

/-- A snapshot of a running process that does not clash leaves a record of it by the rules, and no
other record changes. -/
theorem updated_track (hknown : t.process? known.pid = some known)
    (running : known.isRunning = true) (hs : s.pid = some known.pid) (h : t.track ctx s = .ok t') :
    (∃ m, t'.process? known.pid = some m ∧ known.Updated ctx s m) ∧
      ∀ other, other ≠ known.pid → t'.process? other = t.process? other := by
  obtain ⟨table, htable, rfl⟩ := of_map_ok h
  rw [ProcessTable.track_of_renew hs] at htable
  cases hrenew : ProcessRecord.renew ctx known.pid (t.processes.get? known.pid) s with
  | error cause =>
    rw [hrenew] at htable
    cases htable
  | ok m =>
    rw [hrenew] at htable
    cases htable
    constructor
    · refine ⟨m, SortedMap.get?_insert_self _ _ _, ?_⟩
      rcases ProcessRecord.renew_cases hrenew with ⟨p, hp, _, hok, rfl⟩ | ⟨hstopped, _⟩
      · obtain rfl : known = p := Option.some.inj (hknown.symm.trans hp)
        exact ProcessRecord.updated_merge hok
      · rw [hstopped known hknown] at running
        cases running
    · exact fun other hother => SortedMap.get?_insert_of_ne _ _ hother

/-- A process with an open file and a closed one. -/
def desk : ProcessRecord :=
  { pid := 1
    parent := some 7
    isMaster := false
    isRunning := true
    age := none
    time := none
    attributes := [("name", .string "desk")]
    history := .empty ⟨2, Nat.two_pos⟩
    files := .ofList
      [("a", ⟨"a", true, .ofList [("3", ⟨"3", some "REG", none, none, some 5, some 9, none, [],
        .empty ⟨2, Nat.two_pos⟩⟩)]⟩),
       ("b", ⟨"b", false, .empty⟩)] }

/-- The first file has moved on and has a second descriptor, and the second file is open again. The
parent is taken back. -/
def deskSnapshot : ProcessSnapshot :=
  { pid := some 1
    parent := .null
    time := .absent
    openFiles := .ofList
      [("a", .ofList [("3", ⟨some "DIR", some true, none, .absent, .value 10, .absent, []⟩),
        ("4", .empty)]),
       ("b", .ofList [("5", .empty)])]
    fields := [] }

/-- The kind stays what was seen first, the position is kept where the snapshot leaves it out, and
the parent is taken back. -/
theorem updated_track_desk :
    let t : Tracker := ⟨.ofList [(1, desk)], none, 3⟩
    let ctx : CycleContext := ⟨3, some 1, ⟨2, Nat.two_pos⟩, ["parent_pid"], ["pos", "size"]⟩
    ∃ t' m, t.track ctx deskSnapshot = .ok t' ∧ t'.process? 1 = some m ∧
      desk.Updated ctx deskSnapshot m ∧ m.parent = none ∧ m.isMaster = true ∧
      ∃ file d, m.files.get? "a" = some file ∧ file.descriptors.get? "3" = some d ∧
        d.kind = some "REG" ∧ d.readOnly = some true ∧ d.pos = some 5 ∧ d.size = some 10 := by
  intro t ctx
  obtain ⟨t', ht'⟩ : ∃ t', t.track ctx deskSnapshot = .ok t' := ⟨_, rfl⟩
  have hknown : t.process? desk.pid = some desk := rfl
  obtain ⟨⟨m, hm, updated⟩, _⟩ := updated_track hknown rfl rfl ht'
  obtain ⟨file, hfile, file_updated⟩ := updated.updated "a" _ _ rfl rfl rfl
  obtain ⟨d, hd, d_updated⟩ := file_updated.updated "3" _ _ rfl rfl
  exact ⟨t', m, ht', hm, updated, updated.parent, updated.isMaster.2 (by rw [updated.pid]; rfl),
    file, d, hfile, hd, d_updated.kind, d_updated.readOnly, d_updated.pos, d_updated.size⟩

end Tracker

end ProcessWatch
