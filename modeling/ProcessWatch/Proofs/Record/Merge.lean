import ProcessWatch.Record.Process
import ProcessWatch.Proofs.Merged

/-!
# When records merge, and to what

The merge of two records as equations: when it goes through, and which record comes of it.

* **`DescriptorRecord.merge_error`**, **`ProcessRecord.merge_error_eq_none_iff`** — where the clash
  of a merge comes from, if there is one.
* **`DescriptorRecord.merge_of_ok`**, **`ProcessRecord.merge_of_ok`** — the result if there is none.
* **`FileRecord.merge_reopened`**, **`FileRecord.merge_of_not_reopened`** — the two cases of a file.
-/

namespace ProcessWatch

namespace DescriptorRecord

/-- Only the attributes of two descriptors can clash. -/
theorem merge_error (d incoming : DescriptorRecord) :
    (d.merge incoming).error = (Attributes.merge d.attributes incoming.attributes).error := by
  unfold merge
  dsimp only
  split
  next error herr => rw [herr]
  next herr => rw [herr]; rfl

/-- What two descriptors become: the kind, the mode and the flags that were seen first, the
position, size and time that were seen last, and the attributes and samples of both. -/
theorem merge_of_ok {d incoming : DescriptorRecord} (h : (d.merge incoming).error = none) :
    (d.merge incoming).value =
      { id := d.id
        kind := keepFirst d.kind incoming.kind
        readOnly := keepFirst d.readOnly incoming.readOnly
        flags := keepFirst d.flags incoming.flags
        pos := incoming.pos
        size := incoming.size
        timeOfStat := incoming.timeOfStat
        attributes := (Attributes.merge d.attributes incoming.attributes).value
        history := d.history.merge incoming.history } := by
  rw [merge_error] at h
  unfold merge
  dsimp only
  rw [h]
  rfl

end DescriptorRecord

namespace FileRecord

/-- A file that was closed and is open again gives way to the new one. -/
theorem merge_reopened {file incoming : FileRecord} (closed : file.isOpen = false)
    (opened : incoming.isOpen = true) : file.merge incoming = .done incoming := by
  unfold merge
  rw [closed, opened]
  rfl

/-- A file that is not opened again keeps its descriptors, and those that come in are merged into
them. -/
theorem merge_of_not_reopened {file incoming : FileRecord}
    (h : ¬ (file.isOpen = false ∧ incoming.isOpen = true)) :
    file.merge incoming =
      ⟨⟨file.name, incoming.isOpen,
        (Merged.maps DescriptorRecord.merge file.descriptors incoming.descriptors).value⟩,
        (Merged.maps DescriptorRecord.merge file.descriptors incoming.descriptors).error⟩ := by
  unfold merge
  rw [if_neg]
  simpa using h

end FileRecord

namespace ProcessRecord

/-- Two records merge exactly if their attributes and their files do. -/
theorem merge_error_eq_none_iff {p incoming : ProcessRecord} :
    (p.merge incoming).error = none ↔
      (Attributes.merge p.attributes incoming.attributes).error = none ∧
        (Merged.maps FileRecord.merge p.files incoming.files).error = none := by
  unfold merge
  dsimp only
  cases (Attributes.merge p.attributes incoming.attributes).error with
  | some error => simp
  | none =>
    cases (Merged.maps FileRecord.merge p.files incoming.files).error with
    | some error => simp
    | none => simp [Merged.done]

/-- What two records become. All but the attributes, the samples and the files is what was seen
last, and the pid is the same for both. -/
theorem merge_of_ok {p incoming : ProcessRecord} (h : (p.merge incoming).error = none) :
    (p.merge incoming).value =
      { pid := p.pid
        parent := incoming.parent
        isMaster := incoming.isMaster
        isRunning := incoming.isRunning
        age := incoming.age
        time := incoming.time
        attributes := (Attributes.merge p.attributes incoming.attributes).value
        history := p.history.merge incoming.history
        files := (Merged.maps FileRecord.merge p.files incoming.files).value } := by
  obtain ⟨hattributes, hfiles⟩ := merge_error_eq_none_iff.1 h
  unfold merge
  dsimp only
  rw [hattributes, hfiles]
  rfl

end ProcessRecord

end ProcessWatch
