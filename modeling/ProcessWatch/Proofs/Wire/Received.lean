import ProcessWatch.Enrichment
import ProcessWatch.Proofs.Wire.Reading

/-!
# Snapshots as they are received

Where the snapshots come from that a tracker is given, and what their origin says about the fields
of which nothing else is known.

* **`ProcessSnapshot.Received`** — read from JSON, then given the pid of a key or filled with an
  identity.
* **`Received.get?_typed`** — the fields with places of their own are not among the others.
* **`Entries.received_ofStatus`** — the snapshots of a status were received.
-/

namespace ProcessWatch

namespace ProcessSnapshot

/-! ## Where snapshots come from -/

/-- A snapshot that a monitor sent: it was read from JSON, and may have got the pid of its key or
have been filled with an identity. -/
inductive Received : ProcessSnapshot → Prop where
  | read {value : Json} {s : ProcessSnapshot} (h : ofJson value = .ok s) : Received s
  | keyed {s : ProcessSnapshot} (pid : Pid) (h : Received s) : Received { s with pid := some pid }
  | filled {s : ProcessSnapshot} (identity : Identity) (h : Received s) :
      Received (s.withIdentity identity)

/-- Fields with places of their own are never among the others. -/
theorem readFields_typed {s s' : ProcessSnapshot} {fields : Fields}
    (h : s.readFields fields = .ok s') {key : String} (hkey : key ∈ typedFields)
    (hs : Fields.get? key s.fields = none) : Fields.get? key s'.fields = none := by
  -- field by field: only a name without a place is set among the others
  induction fields generalizing s with
  | nil =>
    cases h
    exact hs
  | cons field rest ih =>
    obtain ⟨k, v⟩ := field
    rw [readFields] at h
    cases hread : s.readField k v with
    | error mismatch =>
      rw [hread] at h
      cases h
    | ok s₁ =>
      rw [hread] at h
      refine ih h ?_
      rw [(reads_of_readField hread).fields]
      split
      next => exact hs
      next hk =>
        rw [Fields.get?_set, if_neg, hs]
        rintro rfl
        exact hk hkey

/-- The fields with places of their own are not among the others. -/
theorem Received.get?_typed {s : ProcessSnapshot} (h : s.Received) {key : String}
    (hkey : key ∈ typedFields) : Fields.get? key s.fields = none := by
  induction h with
  | @read value s h =>
    cases value with
    | object fields => exact readFields_typed h hkey rfl
    | null | bool _ | number _ | string _ | array _ => cases h
  | keyed pid _ ih => exact ih
  | @filled s identity _ ih =>
    have hcmdline : "cmdline" ≠ key := by
      rintro rfl
      exact absurd hkey (by decide)
    have hdirectory : "working_directory" ≠ key := by
      rintro rfl
      exact absurd hkey (by decide)
    show Fields.get? key (s.withIdentity identity).fields = none
    unfold withIdentity
    cases identity.cmdline <;> cases identity.workingDirectory <;>
      simp only [Fields.get?_setIfAbsent_of_ne hcmdline,
        Fields.get?_setIfAbsent_of_ne hdirectory, ih]

end ProcessSnapshot

/-! ## Whole statuses -/

/-- The entries of a status as they came, without their keys. -/
def Status.items : Status → List Json
  | .byPid fields => fields.map (·.2)
  | .list items => items

/-- What is read from a text is what the fields of one name are merged of. -/
theorem Status.of_ofText {text : String} {status : Status} (h : ofText text = .ok status) :
    ∃ value, (Json.scanText text).1.value? = some value ∧ ofJson value.collapse = .ok status := by
  unfold ofText at h
  dsimp only at h
  cases hvalue : (Json.scanText text).1.value? with
  | none =>
    rw [hvalue] at h
    cases h
  | some value =>
    rw [hvalue] at h
    dsimp only at h
    cases hread : ofJson value.collapse with
    | error mismatch =>
      rw [hread] at h
      cases h
    | ok read =>
      rw [hread] at h
      cases herror : (Json.scanText text).2 with
      | some error =>
        rw [herror] at h
        cases h
      | none =>
        rw [herror] at h
        cases h
        exact ⟨value, rfl, hread⟩

/-- A status is an object with an entry for each field, or an array of entries. -/
theorem Status.of_ofJson {value : Json} {status : Status} (h : ofJson value = .ok status) :
    (∃ fields, value = .object fields ∧ status.items = fields.map (·.2)) ∨
      ∃ items, value = .array items ∧ status.items = items := by
  cases value with
  | object fields =>
    cases h
    exact .inl ⟨fields, rfl, rfl⟩
  | array items =>
    cases h
    exact .inr ⟨items, rfl, rfl⟩
  | null | bool _ | number _ | string _ => cases h

namespace Entries

/-- No name is repeated in an entry of a status that was read from a text. -/
theorem unique_items_ofText {text : String} {status : Status}
    (h : Status.ofText text = .ok status) : ∀ entry ∈ status.items, entry.Unique := by
  obtain ⟨value, _, hread⟩ := Status.of_ofText h
  have unique := Json.unique_collapse value
  rcases Status.of_ofJson hread with ⟨fields, hfields, hitems⟩ | ⟨items, harray, hitems⟩
  · rw [hfields] at unique
    rw [hitems]
    exact List.forall_mem_map.2 (Json.unique_object_iff.1 unique).2
  · rw [harray] at unique
    cases unique with
    | array items_unique => exact hitems ▸ items_unique

/-- One more entry adds its snapshot at most. -/
theorem mem_snapshots_push {entries : Entries} {key : Option String} {entry : Json}
    {s : ProcessSnapshot} (h : s ∈ (entries.push key entry).snapshots) :
    s ∈ entries.snapshots ∨ readEntry key entry = .ok s := by
  unfold push at h
  cases hread : readEntry key entry with
  | error rejected =>
    rw [hread] at h
    exact .inl h
  | ok snapshot =>
    rw [hread] at h
    rcases List.mem_append.1 h with hbefore | hnew
    · exact .inl hbefore
    · rw [List.mem_singleton.1 hnew]
      exact .inr rfl

/-- Every snapshot of a status is read from an entry of it. -/
theorem of_mem_ofStatus {status : Status} {s : ProcessSnapshot}
    (h : s ∈ (ofStatus status).snapshots) :
    ∃ key entry, entry ∈ status.items ∧ readEntry key entry = .ok s := by
  have fold {α : Type} (key : α → Option String) (entry : α → Json) (items : List α)
      (entries : Entries)
      (hmem : s ∈ (items.foldl (fun es x => es.push (key x) (entry x)) entries).snapshots) :
      s ∈ entries.snapshots ∨ ∃ x ∈ items, readEntry (key x) (entry x) = .ok s := by
    -- the snapshots are collected from the front, so those of before are part of the statement
    induction items generalizing entries with
    | nil => exact .inl hmem
    | cons x rest ih =>
      rcases ih _ hmem with hbefore | ⟨y, hy, hread⟩
      · rcases mem_snapshots_push hbefore with hstart | hread
        · exact .inl hstart
        · exact .inr ⟨x, List.mem_cons_self, hread⟩
      · exact .inr ⟨y, List.mem_cons_of_mem _ hy, hread⟩
  cases status with
  | byPid fields =>
    rcases fold (fun field : String × Json => some field.1) Prod.snd fields empty h with
      hstart | ⟨field, hmem, hread⟩
    · cases hstart
    · exact ⟨_, field.2, List.mem_map.2 ⟨field, hmem, rfl⟩, hread⟩
  | list items =>
    rcases fold (fun _ : Json => none) id items empty h with hstart | ⟨entry, hmem, hread⟩
    · cases hstart
    · exact ⟨_, entry, hmem, hread⟩

/-- A snapshot has the fields that its entry has, and may have the pid of its key. -/
theorem of_readEntry {key : Option String} {entry : Json} {s : ProcessSnapshot}
    (h : readEntry key entry = .ok s) :
    ∃ read pid, ProcessSnapshot.ofJson entry = .ok read ∧ s = { read with pid := some pid } := by
  unfold readEntry at h
  cases hread : ProcessSnapshot.ofJson entry with
  | error mismatch =>
    rw [hread] at h
    cases h
  | ok snapshot =>
    rw [hread] at h
    dsimp only at h
    cases hpid : snapshot.pid.or (key.bind Pid.parse?) with
    | none =>
      rw [hpid] at h
      cases h
    | some pid =>
      rw [hpid] at h
      cases h
      exact ⟨snapshot, pid, rfl, rfl⟩

/-- The snapshots of a status were received. -/
theorem received_ofStatus (status : Status) : ∀ s ∈ (ofStatus status).snapshots, s.Received := by
  intro s hs
  obtain ⟨key, entry, _, hentry⟩ := of_mem_ofStatus hs
  obtain ⟨read, pid, hread, rfl⟩ := of_readEntry hentry
  exact .keyed pid (.read hread)

end Entries

end ProcessWatch
