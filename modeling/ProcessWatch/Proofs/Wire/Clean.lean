import ProcessWatch.Proofs.Wire.Received

/-!
# Snapshots without repeated names

The fields of which a snapshot knows nothing but their names are kept as they came. Where an answer
repeats no name, neither do they; and an answer that was read from a text never does.

* **`ProcessSnapshot.Clean`** — no name is repeated among these fields, of the process and of each
  descriptor.
* **`ProcessSnapshot.clean_of_ofJson`** — what is read from a value without repeated names is clean.
* **`Entries.clean_ofStatus`** — so are the snapshots of a status that was read from a text.
-/

namespace ProcessWatch

namespace ProcessSnapshot

/-- No name is repeated among the fields without places of their own. -/
structure Clean (s : ProcessSnapshot) : Prop where
  fields : s.fields.Unique
  descriptors : ∀ name descriptors id d, s.openFiles.get? name = some descriptors →
    descriptors.get? id = some d → d.fields.Unique

/-- What is read of a value without a repeated name is clean. -/
theorem clean_of_ofJson {value : Json} {s : ProcessSnapshot} (h : ofJson value = .ok s)
    (hvalue : value.Unique) : s.Clean := by
  have faithful : s.Faithful value := faithful_of_ofJson h hvalue
  refine ⟨faithful.fields ▸ Json.unique_others hvalue typedFields, ?_⟩
  intro name descriptors id d hname hid
  obtain ⟨files, file, v, hfiles, hfile, hv, hd⟩ := faithful.descriptor hname hid
  have hfile_unique : file.Unique :=
    Json.unique_of_field? (Json.unique_of_field? hvalue hfiles) hfile
  have hunique : v.Unique := Json.unique_of_field? hfile_unique hv
  exact hd.fields ▸ Json.unique_others hunique DescriptorSnapshot.typedFields

end ProcessSnapshot

namespace Entries

/-- The snapshots of a status that was read from a text are clean. -/
theorem clean_ofStatus {text : String} {status : Status} (h : Status.ofText text = .ok status) :
    ∀ s ∈ (ofStatus status).snapshots, s.Clean := by
  intro s hs
  obtain ⟨key, entry, hentry, hkeyed⟩ := of_mem_ofStatus hs
  obtain ⟨read, pid, hread, rfl⟩ := of_readEntry hkeyed
  have hclean : read.Clean :=
    ProcessSnapshot.clean_of_ofJson hread (unique_items_ofText h entry hentry)
  exact ⟨hclean.fields, hclean.descriptors⟩

end Entries

end ProcessWatch
