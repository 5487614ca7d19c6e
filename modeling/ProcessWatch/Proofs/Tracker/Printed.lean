import ProcessWatch.Proofs.Record.Printed
import ProcessWatch.Proofs.Tracker.Run

/-!
# What a tracker prints

Every record that a run leads to is printed without a repeated name at the level of the process, of
its files and of all samples, whatever fields are sampled. A descriptor repeats a name if an answer
gave it a field that is named like its id or its history, and only then.

* **`ProcessRecord.invariant_printable`** — what everything that happens to a record keeps, and
  **`Tracker.printable_after`** for the records that a run leads to.
* **`Tracker.printed_after`** — where the printed records repeat a name.
-/

namespace ProcessWatch

/-! ## Descriptors that are clear of such fields -/

/-- No descriptor of a snapshot has a field that is named like one that its record writes itself. -/
def ProcessSnapshot.Clear (s : ProcessSnapshot) : Prop :=
  ∀ name descriptors id d, s.openFiles.get? name = some descriptors → descriptors.get? id = some d →
    ∀ key ∈ DescriptorRecord.ownFields, key ∉ Fields.names d.fields

instance (s : ProcessSnapshot) : Decidable s.Clear :=
  decidable_of_iff
    (∀ file ∈ s.openFiles.entries, ∀ d ∈ file.2.entries,
      ∀ key ∈ DescriptorRecord.ownFields, key ∉ Fields.names d.2.fields)
    ⟨fun h name descriptors id d hname hid =>
        h (name, descriptors) (SortedMap.mem_entries_iff.2 hname) (id, d)
          (SortedMap.mem_entries_iff.2 hid),
      fun h file hfile d hd =>
        h file.1 file.2 d.1 d.2 (SortedMap.mem_entries_iff.1 hfile)
          (SortedMap.mem_entries_iff.1 hd)⟩

/-- Then all that a descriptor writes itself is kept apart from what came with it. -/
theorem ProcessSnapshot.Clear.apart {s : ProcessSnapshot} (h : s.Clear) (sent : s.Sent) :
    s.Apart (DescriptorRecord.ownFields ++ DescriptorSnapshot.typedFields) := by
  refine ⟨sent.apart.fields, fun name descriptors id d hname hid => ?_⟩
  have hkept := sent.apart.descriptors name descriptors id d hname hid
  refine ⟨hkept.unique, fun key hkey hreserved => ?_⟩
  rcases List.mem_append.1 hreserved with hown | htyped
  · exact h name descriptors id d hname hid key hown hkey
  · exact hkept.untyped key hkey htyped

/-- What printing needs of a record is kept if the snapshots keep their fields apart. -/
theorem ProcessRecord.invariant_printable (reserved : List String) :
    Invariant (·.Apart reserved) fun _ p => p.Printable reserved where
  create ctx pid _ hs := printable_create ctx pid hs
  fill _ hs := apart_fill _ hs
  merge h hi _ hok := h.merge hi hok
  settle reported h := h.settle reported

/-! ## All runs -/

namespace Tracker

variable {reserved : List String} {events : List Event}

/-- Then it holds of every record that a run leads to. -/
theorem printable_after (apart : ∀ e ∈ events, ∀ s ∈ e.snapshots, s.Apart reserved) {pid : Pid}
    {p : ProcessRecord} (tracked : (after events).process? pid = some p) : p.Printable reserved :=
  (ProcessRecord.invariant_printable reserved).after apart pid p tracked

/-- Where the record of a process repeats a name when it is printed. The process itself does not,
nor do the maps of its files and descriptors, a file, or any sample. A descriptor does exactly if it
has an attribute that is named like its id or its history, and there is none if no answer told
one. -/
theorem printed_after (sent : ∀ e ∈ events, ∀ s ∈ e.snapshots, s.Sent) {pid : Pid} {p : ProcessRecord}
    (tracked : (after events).process? pid = some p) :
    p.toJson.names.Nodup ∧
    (Json.ofMap FileRecord.toJson p.files).names.Nodup ∧
    (∀ sample ∈ p.history.samples, sample.toJson.Unique) ∧
    (∀ name file, p.files.get? name = some file →
      file.toJson.names.Nodup ∧
      (Json.ofMap DescriptorRecord.toJson file.descriptors).names.Nodup ∧
      ∀ id d, file.descriptors.get? id = some d →
        (d.toJson.names.Nodup ↔ d.Clear) ∧ ∀ sample ∈ d.history.samples, sample.toJson.Unique) ∧
    (p.toJson.Unique ↔ ∀ name file id d, p.files.get? name = some file →
      file.descriptors.get? id = some d → d.Clear) ∧
    ((∀ e ∈ events, ∀ s ∈ e.snapshots, s.Clear) → p.toJson.Unique) := by
  have printable := printable_after (fun e he s hs => (sent e he s hs).apart) tracked
  refine ⟨ProcessRecord.nodup_names_toJson printable, Json.nodup_names_ofMap _ _, printable.history,
    ?_, ProcessRecord.unique_toJson_iff printable, ?_⟩
  · intro name file hfile
    refine ⟨file.nodup_names_toJson, Json.nodup_names_ofMap _ _, fun id d hd => ?_⟩
    have hprintable := printable.files name file hfile id d hd
    exact ⟨DescriptorRecord.nodup_names_toJson hprintable.attributes, hprintable.history⟩
  · intro clear
    have hclear :=
      printable_after (fun e he s hs => (clear e he s hs).apart (sent e he s hs)) tracked
    refine (ProcessRecord.unique_toJson_iff printable).2 fun name file id d hfile hd => ?_
    exact (hclear.files name file hfile id d hd).clear fun key hown => List.mem_append_left _ hown

/-- A run with two statuses about a process and a file that it has open. All that is told is
sampled, and so is what every sample has anyway. -/
def sampledRun : List Event :=
  let entry (rss pos : Nat) : Json := .object
    [("memory_rss", .nat rss), ("history", .nat 7),
     ("open_files", .object [("/log", .object [("3", .object [("pos", .nat pos)])])])]
  let settings := { Settings.default with
    processKeys := ["memory_rss", "index", "time"], fileKeys := ["pos", "index", "id"] }
  [.applied settings (.ofStatus (.byPid [("1", entry 512 0)])),
   .applied settings (.ofStatus (.byPid [("1", entry 640 80)]))]

/-- Two cycles with samples and attributes, printed without a repeated name. -/
theorem printed_after_sampledRun :
    (∀ e ∈ sampledRun, ∀ s ∈ e.snapshots, s.Sent) ∧ (∀ e ∈ sampledRun, ∀ s ∈ e.snapshots, s.Clear) ∧
      ∃ p, (after sampledRun).process? 1 = some p ∧ p.history.samples.length = 2 ∧
        p.toJson.Unique := by
  have sent : ∀ e ∈ sampledRun, ∀ s ∈ e.snapshots, s.Sent := by
    refine List.forall_mem_cons.2 ⟨?_, List.forall_mem_singleton.2 ?_⟩
    · exact Entries.sent_of_items <| List.forall_mem_singleton.2 (Json.unique_of_collapse rfl)
    · exact Entries.sent_of_items <| List.forall_mem_singleton.2 (Json.unique_of_collapse rfl)
  have clear : ∀ e ∈ sampledRun, ∀ s ∈ e.snapshots, s.Clear := by decide
  have hsamples : ((after sampledRun).process? 1).map (·.history.samples.length) = some 2 := by
    decide
  obtain ⟨p, tracked, hlength⟩ := Option.map_eq_some_iff.1 hsamples
  obtain ⟨_, _, _, _, _, hunique⟩ := printed_after sent tracked
  exact ⟨sent, clear, p, tracked, hlength, hunique clear⟩

/-- A run with one status, in which a descriptor has fields named like its id and its history. -/
def clashingRun : List Event :=
  [.applied .default (.ofStatus (.byPid [("1", .object [("open_files", .object
    [("/f", .object [("3", .object [("id", .string "x"), ("history", .nat 7)])])])])]))]

/-- A record is not always printed without repeated names. -/
theorem not_distinct_of_clashing :
    ¬ ∀ events : List Event, (∀ e ∈ events, ∀ s ∈ e.snapshots, s.Sent) →
      ∀ pid p, (after events).process? pid = some p → p.toJson.Unique := by
  intro distinct
  have sent : ∀ e ∈ clashingRun, ∀ s ∈ e.snapshots, s.Sent :=
    List.forall_mem_singleton.2 <| Entries.sent_of_items <|
      List.forall_mem_singleton.2 (Json.unique_of_collapse rfl)
  have hprinted : ((after clashingRun).process? 1).bind (fun p =>
      (p.files.get? "/f").bind fun file => (file.descriptors.get? "3").map (·.toJson.names))
        = some ["id", "id", "history", "history"] := by decide
  -- the descriptor that the run leaves, and the names that it is printed with
  obtain ⟨p, tracked, hfiles⟩ := Option.bind_eq_some_iff.1 hprinted
  obtain ⟨file, hfile, hdescriptors⟩ := Option.bind_eq_some_iff.1 hfiles
  obtain ⟨d, hd, hnames⟩ := Option.map_eq_some_iff.1 hdescriptors
  have printable := printable_after (fun e he s hs => (sent e he s hs).apart) tracked
  have hclear := (ProcessRecord.unique_toJson_iff printable).1
    (distinct clashingRun sent 1 p tracked) "/f" file "3" d hfile hd
  have hnodup := (DescriptorRecord.nodup_names_toJson
    (printable.files "/f" file hfile "3" d hd).attributes).2 hclear
  rw [hnames] at hnodup
  exact absurd hnodup (by decide)

end Tracker

end ProcessWatch
