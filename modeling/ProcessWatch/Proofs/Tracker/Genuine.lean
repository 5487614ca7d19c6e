import ProcessWatch.Proofs.Enrichment

/-!
# Fields that no answer can set

The entries of a status can hold fields with the names of those that the tracking decides. Such a
field is read like any other one and stays in its snapshot while that is filled; the record that is
made of the snapshot does not have it. Here an entry is compared with its genuine part, which is all
but those fields: reading and filling keep the two apart by just these fields (`ofStatus_genuine`,
`enrich_genuine`), and the requests for identities and the tracking do not tell them apart at all
(`requests_genuine`, `apply_genuine`).
-/

namespace ProcessWatch

/-- An entry of a status without the fields that it cannot set. Those of the objects inside it are
its own business. -/
def Json.genuine : Json → Json
  | .object fields => .object (Fields.without trackedFields fields)
  | value => value

def Status.genuine : Status → Status
  | .byPid entries => .byPid (entries.map fun entry => (entry.1, entry.2.genuine))
  | .list entries => .list (entries.map Json.genuine)

def ProcessSnapshot.genuine (s : ProcessSnapshot) : ProcessSnapshot :=
  { s with fields := Fields.without trackedFields s.fields }

def Entries.genuine (entries : Entries) : Entries :=
  { entries with snapshots := entries.snapshots.map ProcessSnapshot.genuine }

/-! ## Reading -/

namespace ProcessSnapshot

variable {s : ProcessSnapshot} {key : String}

/-- A field that is not genuine is read, whatever its value is, and adds nothing genuine. -/
theorem readField_tracked (h : key ∈ trackedFields) (value : Json) :
    ∃ s', s.readField key value = .ok s' ∧ s'.genuine = s.genuine := by
  -- none of the names with a place of their own is tracked
  have hfree : key ∉ typedFields := by
    intro htyped
    have disjoint : ∀ key ∈ trackedFields, key ∉ typedFields := by decide
    exact disjoint key h htyped
  refine ⟨_, readField_other s value hfree, ?_⟩
  unfold genuine
  dsimp only
  rw [Fields.without_set_of_mem h]

/-- A genuine field is read alike beside others that are not. -/
theorem readField_genuine (h : key ∉ trackedFields) (value : Json) :
    s.genuine.readField key value = (s.readField key value).map genuine := by
  unfold readField
  split
  · cases value.toOption Json.toWord32 <;> rfl
  · cases Reported.ofJson Json.toWord32 value <;> rfl
  · cases Reported.ofJson Json.toDouble value <;> rfl
  · cases value.toMap (Json.toMap DescriptorSnapshot.ofJson) <;> rfl
  · dsimp only [pure, Except.pure, Except.map, genuine]
    rw [Fields.without_set_of_not_mem h]

/-- To read only the genuine fields is to read all of them and to leave out the others
afterwards. -/
theorem readFields_genuine (s : ProcessSnapshot) (fields : Fields) :
    s.genuine.readFields (Fields.without trackedFields fields)
      = (s.readFields fields).map genuine := by
  -- field by field; one that is not genuine changes nothing that is compared
  induction fields generalizing s with
  | nil => rfl
  | cons field rest ih =>
    obtain ⟨key, value⟩ := field
    by_cases h : key ∈ trackedFields
    · obtain ⟨s', hread, hsame⟩ := readField_tracked (s := s) h value
      rw [Fields.without_cons_of_mem h, readFields, hread, ← hsame]
      exact ih s'
    · rw [Fields.without_cons_of_not_mem h, readFields, readFields, readField_genuine h]
      cases s.readField key value with
      | error mismatch => rfl
      | ok s' => exact ih s'

theorem ofJson_genuine (entry : Json) : ofJson entry.genuine = (ofJson entry).map genuine := by
  cases entry with
  | object fields => exact readFields_genuine empty fields
  | null | bool _ | number _ | string _ | array _ => rfl

end ProcessSnapshot

namespace Entries

/-- The pid of an entry is genuine, so a rejected entry is blamed on the same process. -/
theorem pidField?_genuine (entry : Json) : pidField? entry.genuine = pidField? entry := by
  cases entry with
  | object fields =>
    have hpid : Fields.get? "pid" (Fields.without trackedFields fields)
        = Fields.get? "pid" fields := by
      rw [Fields.get?_without, if_neg (by decide)]
    unfold pidField? Json.genuine Json.field?
    dsimp only
    rw [hpid]
  | null | bool _ | number _ | string _ | array _ => rfl

/-- An entry and its genuine part are accepted together, or rejected for the same reason. -/
theorem readEntry_genuine (key : Option String) (entry : Json) :
    readEntry key entry.genuine = (readEntry key entry).map ProcessSnapshot.genuine := by
  unfold readEntry
  rw [ProcessSnapshot.ofJson_genuine, pidField?_genuine]
  cases ProcessSnapshot.ofJson entry with
  | error mismatch => rfl
  | ok s =>
    have hpid : s.genuine.pid = s.pid := rfl
    rw [Except.map]
    dsimp only
    rw [hpid]
    cases s.pid.or (key.bind Pid.parse?) <;> rfl

/-- Hence they go the same way, to the snapshots or to the rejected ones. -/
theorem push_genuine (entries : Entries) (key : Option String) (entry : Json) :
    entries.genuine.push key entry.genuine = (entries.push key entry).genuine := by
  unfold push
  rw [readEntry_genuine]
  cases readEntry key entry with
  | error rejected => rfl
  | ok s =>
    show Entries.mk (entries.snapshots.map _ ++ [s.genuine]) _
      = Entries.mk ((entries.snapshots ++ [s]).map _) _
    rw [List.map_append]
    rfl

/-- The entries of the genuine part of a status are the genuine parts of its entries. -/
theorem ofStatus_genuine (status : Status) :
    ofStatus status.genuine = (ofStatus status).genuine := by
  cases status with
  | byPid fields =>
    show (fields.map _).foldl _ empty.genuine = (fields.foldl _ empty).genuine
    rw [List.foldl_map]
    exact List.foldl_hom genuine fun entries field => push_genuine entries (some field.1) field.2
  | list items =>
    show (items.map _).foldl _ empty.genuine = (items.foldl _ empty).genuine
    rw [List.foldl_map]
    exact List.foldl_hom genuine fun entries item => push_genuine entries none item

end Entries

/-! ## Filling -/

/-- An identity fills no field that is not genuine. -/
theorem ProcessSnapshot.withIdentity_genuine (s : ProcessSnapshot) (identity : Identity) :
    s.genuine.withIdentity identity = (s.withIdentity identity).genuine := by
  have hcmdline (value : Json) (fields : Fields) :
      Fields.without trackedFields (Fields.setIfAbsent "cmdline" value fields)
        = Fields.setIfAbsent "cmdline" value (Fields.without trackedFields fields) :=
    Fields.without_setIfAbsent (by decide) value fields
  have hdirectory (value : Json) (fields : Fields) :
      Fields.without trackedFields (Fields.setIfAbsent "working_directory" value fields)
        = Fields.setIfAbsent "working_directory" value (Fields.without trackedFields fields) :=
    Fields.without_setIfAbsent (by decide) value fields
  unfold withIdentity genuine
  dsimp only
  cases identity.cmdline <;> cases identity.workingDirectory <;>
    simp only [hcmdline, hdirectory]

namespace Tracker

variable (t : Tracker)

/-- A process is asked for by its pid and its parent, which are genuine. -/
theorem requests_genuine (snapshots : List ProcessSnapshot) :
    t.requests (snapshots.map ProcessSnapshot.genuine) = t.requests snapshots := by
  unfold requests
  rw [List.filterMap_map]
  rfl

/-- An answer fills the genuine part as it fills the snapshot. -/
theorem fillAnswer_genuine (s : ProcessSnapshot) (answer : Except Failure Identity) :
    fillAnswer s.genuine answer = (fillAnswer s answer).genuine := by
  cases answer with
  | ok identity => exact s.withIdentity_genuine identity
  | error failure => rfl

theorem fillMaster_genuine (s : ProcessSnapshot) :
    t.fillMaster s.genuine = (t.fillMaster s).genuine := by
  have horphan : t.orphan? s.genuine = t.orphan? s := rfl
  unfold fillMaster
  rw [horphan]
  split
  next =>
    split
    next => exact s.withIdentity_genuine _
    next => rfl
  next => rfl

/-- The snapshots of a status are filled to the same genuine parts. -/
theorem enrich_genuine (snapshots : List ProcessSnapshot)
    (answers : List (Except Failure Identity)) :
    t.enrich (snapshots.map ProcessSnapshot.genuine) answers
      = (t.enrich snapshots answers).map ProcessSnapshot.genuine := by
  -- the cases are those of the filling: a snapshot with its answer, one whose answer is missing,
  -- and one that was not asked for
  fun_induction t.enrich snapshots answers with
  | case1 => rfl
  | case2 s rest pid answer answers hpid ih =>
    have hasked : t.request? s.genuine = some pid := hpid
    rw [List.map_cons, List.map_cons, enrich_asked hasked, ih, fillAnswer_genuine]
  | case3 s rest pid hpid ih =>
    have hasked : t.request? s.genuine = some pid := hpid
    rw [List.map_cons, List.map_cons, ← ih, enrich.eq_def]
    dsimp only
    rw [hasked]
  | case4 s rest answers hpid ih =>
    have hasked : t.request? s.genuine = none := hpid
    rw [List.map_cons, List.map_cons, enrich_not_asked hasked, ih, fillMaster_genuine]

end Tracker

/-! ## Tracking -/

/-- A record takes up only genuine fields, so the others make no difference to it. -/
theorem ProcessRecord.create_genuine (ctx : CycleContext) (pid : Pid) (s : ProcessSnapshot) :
    create ctx pid s.genuine = create ctx pid s := by
  unfold create ProcessSnapshot.genuine
  dsimp only
  rw [Fields.without_without]

/-- So they make none to a table. -/
theorem ProcessTable.track_genuine (ctx : CycleContext) (table : ProcessTable)
    (s : ProcessSnapshot) : table.track ctx s.genuine = table.track ctx s := by
  have hfill (p : ProcessRecord) : p.fill s.genuine = (p.fill s).genuine := rfl
  have hpid : s.genuine.pid = s.pid := rfl
  unfold track
  simp only [hfill, hpid, ProcessRecord.create_genuine]

/-- A step of a cycle does not see them. -/
theorem Tracking.step_genuine (ctx : CycleContext) (t : Tracking) (s : ProcessSnapshot) :
    t.step ctx s.genuine = t.step ctx s := by
  unfold step
  rw [ProcessTable.track_genuine]
  rfl

/-- The files that a status reports are genuine, too. -/
theorem Entries.reportedFiles_genuine (entries : Entries) (table : ProcessTable) :
    entries.genuine.reportedFiles table = entries.reportedFiles table := by
  unfold reportedFiles genuine
  dsimp only
  rw [List.filterMap_map]
  rfl

/-- A status and its genuine part do the same: to the table, in the report and in what is told. -/
theorem Tracker.apply_genuine (t : Tracker) (settings : Settings) (entries : Entries) :
    t.apply settings entries.genuine = t.apply settings entries := by
  have hstep (tracking : Tracking) :
      entries.genuine.snapshots.foldl (Tracking.step (t.context settings)) tracking
        = entries.snapshots.foldl (Tracking.step (t.context settings)) tracking := by
    show (entries.snapshots.map _).foldl _ tracking = _
    rw [List.foldl_map]
    simp only [Tracking.step_genuine]
  unfold apply
  dsimp only
  rw [Entries.reportedFiles_genuine, hstep]
  rfl

/-- Two statuses with the same genuine part do the same. -/
theorem Tracker.apply_eq_of_genuine {t : Tracker} {settings : Settings} {entries entries' : Entries}
    (h : entries.genuine = entries'.genuine) :
    t.apply settings entries = t.apply settings entries' := by
  rw [← apply_genuine, h, apply_genuine]

end ProcessWatch
