import ProcessWatch.Proofs.Record.Placed

/-!
# The samples in the histories of records

A record that was made in a cycle has one sample in every history, that of the cycle. When it is
merged into another record, every history gets that one sample more, unless the record it belongs to
has one of the same cycle already. So a history is told by the cycles whose samples went into it.

* **`History.Records`** — a history holds the newest samples of a list of cycles.
* **`History.OfCycle`** — a history holds the one sample of the cycle it was made in.
* **`History.Records.merge`** — what merging the second into the first makes of the list.
* **`DescriptorRecord.Records`**, **`DescriptorRecord.Records.merge`** — the same for a descriptor
  that need not be there.
-/

namespace ProcessWatch

namespace History

variable {α β : Type}

/-- Mapping commutes with taking the newest items. -/
theorem map_newest (f : α → β) (count : Nat) (items : List α) :
    (newest count items).map f = newest count (items.map f) := by
  unfold newest
  rw [List.map_drop, List.length_map]

/-- Items that were dropped already are not missed when room is made for one more. -/
theorem newest_newest_append (count : Nat) (items : List α) (item : α) :
    newest count (newest count items ++ [item]) = newest count (items ++ [item]) := by
  by_cases h : items.length ≤ count
  · rw [newest_of_length_le h]
  · unfold newest
    have hlength : items.length - count ≤ items.length := Nat.sub_le _ _
    rw [← List.drop_append_of_le_length hlength, List.drop_drop]
    simp only [List.length_append, List.length_drop, List.length_singleton]
    congr 1
    omega

theorem mem_of_mem_newest {count : Nat} {items : List α} {item : α}
    (h : item ∈ newest count items) : item ∈ items :=
  List.mem_of_mem_drop h

/-- The newest sample is the one that was pushed last. -/
theorem latest?_push (h : History α) (sample : α) : (h.push sample).latest? = some sample := by
  have hpos := h.capacity.pos
  unfold latest? push newest
  rw [List.drop_append_of_le_length, List.getLast?_concat]
  rw [List.length_append, List.length_singleton]
  omega

/-- The first sample is never a repetition. -/
theorem samples_empty_append [BEq α] (capacity : Capacity) (sample : α) :
    ((empty capacity).append sample).1.samples = [sample] :=
  newest_of_length_le capacity.pos

/-- To merge a history of one sample is to append that sample. -/
theorem merge_of_samples [BEq α] {incoming : History α} {sample : α}
    (hi : incoming.samples = [sample]) (h : History α) :
    h.merge incoming = (h.append sample).1 := by
  rw [merge, hi]
  rfl

/-! ## Histories of samples -/

variable {h incoming : History Sample} {capacity : Capacity} {log : List Nat} {ctx : CycleContext}
  {time : Option Float}

/-- A history holds the samples of the newest cycles of a list, as many as it has room for. -/
def Records (h : History Sample) (capacity : Capacity) (log : List Nat) : Prop :=
  h.capacity = capacity ∧ h.samples.map (·.index) = newest capacity.count log

/-- A history holds one sample, of the cycle that it was made in. -/
def OfCycle (h : History Sample) (ctx : CycleContext) (time : Option Float) : Prop :=
  ∃ sample, h = ((empty ctx.capacity).append sample).1 ∧ sample.index = ctx.index ∧
    sample.time = time

theorem records_empty (capacity : Capacity) : (empty capacity).Records capacity [] :=
  ⟨rfl, (newest_of_length_le (Nat.zero_le _)).symm⟩

/-- The first sample of a cycle repeats none of the samples before it. -/
theorem Records.append (hr : h.Records capacity log) {sample : Sample} (new : sample.index ∉ log) :
    (h.append sample).1.Records capacity (log ++ [sample.index]) ∧
      (h.append sample).1.latest? = some sample := by
  obtain ⟨hcapacity, hsamples⟩ := hr
  -- a sample of a new cycle differs from the newest one by its index already
  have hrepeats : h.repeats sample = false := by
    unfold repeats
    split
    next latest hlatest =>
      have hmem : latest.index ∈ h.samples.map (·.index) :=
        List.mem_map.2 ⟨latest, List.mem_of_getLast? hlatest, rfl⟩
      rw [hsamples] at hmem
      have hne : latest.index ≠ sample.index := by
        intro heq
        rw [heq] at hmem
        exact new (mem_of_mem_newest hmem)
      show latest.same sample = false
      rw [Sample.same, beq_false_of_ne hne]
      rfl
    next => rfl
  have hpush : (h.append sample).1 = h.push sample := by
    unfold History.append
    rw [hrepeats]
    rfl
  rw [hpush]
  refine ⟨⟨hcapacity, ?_⟩, latest?_push h sample⟩
  show (newest h.capacity.count (h.samples ++ [sample])).map (·.index) = _
  rw [map_newest, List.map_append, hsamples, hcapacity]
  exact newest_newest_append capacity.count log sample.index

/-- Merging in a record of a cycle adds the sample of that cycle. -/
theorem Records.merge (hr : h.Records ctx.capacity log) (hi : incoming.OfCycle ctx time)
    (new : ctx.index ∉ log) :
    (h.merge incoming).Records ctx.capacity (log ++ [ctx.index]) ∧
      (h.merge incoming).latest?.map (·.time) = some time := by
  obtain ⟨sample, rfl, hindex, rfl⟩ := hi
  rw [← hindex] at new ⊢
  obtain ⟨hrecords, hlatest⟩ := hr.append new
  rw [merge_of_samples (samples_empty_append ctx.capacity sample), hlatest]
  exact ⟨hrecords, rfl⟩

/-- The history of a new record has one sample, that of its cycle. -/
theorem OfCycle.records (hi : h.OfCycle ctx time) :
    h.Records ctx.capacity [ctx.index] ∧ h.latest?.map (·.time) = some time := by
  obtain ⟨sample, rfl, hindex, rfl⟩ := hi
  have hnew : sample.index ∉ ([] : List Nat) := List.not_mem_nil
  obtain ⟨hrecords, hlatest⟩ := (records_empty ctx.capacity).append hnew
  rw [← hindex, hlatest]
  exact ⟨hrecords, rfl⟩

end History

namespace ProcessSnapshot

/-- A snapshot lists a descriptor of an open file. -/
def lists (s : ProcessSnapshot) (name id : String) : Bool :=
  ((s.openFiles.get? name).bind (·.get? id)).isSome

/-- A descriptor is only listed together with its file. -/
theorem contains_of_lists {s : ProcessSnapshot} {name id : String} (h : s.lists name id = true) :
    s.openFiles.contains name = true := by
  unfold lists at h
  unfold SortedMap.contains
  cases hget : s.openFiles.get? name with
  | none =>
    rw [hget] at h
    cases h
  | some descriptors => rfl

end ProcessSnapshot

/-! ## Descriptors -/

namespace DescriptorRecord

variable {d incoming : Option DescriptorRecord} {ctx : CycleContext} {time : Option Float}
  {log : List Nat}

/-- The history of a descriptor holds the newest samples of a list of cycles; without a descriptor
there are no such cycles. -/
def Records (d : Option DescriptorRecord) (capacity : Capacity) (log : List Nat) : Prop :=
  match d with
  | some d => d.history.Records capacity log
  | none => log = []

theorem records_of_ofCycle (hi : ∀ d', incoming = some d' → d'.history.OfCycle ctx time) :
    Records incoming ctx.capacity (if incoming.isSome then [ctx.index] else []) := by
  cases incoming with
  | none => rfl
  | some y => exact (hi y rfl).records.1

/-- Merging in what a cycle listed adds that cycle to the list, and where the cycle listed nothing
the list stays. -/
theorem Records.merge (hr : Records d ctx.capacity log)
    (hi : ∀ d', incoming = some d' → d'.history.OfCycle ctx time) (new : ctx.index ∉ log)
    (hok : ∀ x y, d = some x → incoming = some y → (x.merge y).error = none) :
    Records (d.merge (fun x y => (x.merge y).value) incoming) ctx.capacity
      (log ++ if incoming.isSome then [ctx.index] else []) := by
  cases incoming with
  | none =>
    rw [Option.merge_none_right]
    simpa using hr
  | some y =>
    have hy := hi y rfl
    cases d with
    | none =>
      -- a new descriptor has no cycles behind it
      obtain rfl : log = [] := hr
      exact hy.records.1
    | some x =>
      show (x.merge y).value.history.Records ctx.capacity (log ++ [ctx.index])
      rw [merge_of_ok (hok x y rfl rfl)]
      exact (History.Records.merge hr hy new).1

end DescriptorRecord

/-! ## Records of one cycle -/

namespace ProcessRecord

variable {ctx : CycleContext} {pid : Pid} {s : ProcessSnapshot} {name : String}

/-- A new process has the one sample that was made of it. -/
theorem history_create (ctx : CycleContext) (pid : Pid) (s : ProcessSnapshot) :
    (create ctx pid s).history.OfCycle ctx (create ctx pid s).time :=
  ⟨_, rfl, rfl, rfl⟩

/-- A file of a new record has the descriptors that the snapshot lists, with one sample in each of
their histories. -/
theorem descriptors_create {file : FileRecord}
    (h : (create ctx pid s).files.get? name = some file) :
    file.isOpen = true ∧ (∀ id, (file.descriptors.get? id).isSome = s.lists name id) ∧
      ∀ id d, file.descriptors.get? id = some d → d.history.OfCycle ctx s.time.value? := by
  rw [create_files, SortedMap.get?_mapWithKey] at h
  obtain ⟨descriptors, hdescriptors, rfl⟩ := Option.map_eq_some_iff.1 h
  refine ⟨rfl, ?_, ?_⟩
  · intro id
    rw [FileRecord.get?_descriptors_ofSnapshot, ProcessSnapshot.lists, hdescriptors,
      Option.isSome_map]
    rfl
  · intro id d hd
    rw [FileRecord.get?_descriptors_ofSnapshot] at hd
    obtain ⟨snapshot, _, rfl⟩ := Option.map_eq_some_iff.1 hd
    exact ⟨_, rfl, rfl, rfl⟩

/-- A new record has exactly the listed files. -/
theorem isSome_files_create :
    ((create ctx pid s).files.get? name).isSome = s.openFiles.contains name := by
  rw [create_files, SortedMap.get?_mapWithKey, Option.isSome_map]
  rfl

/-- Filling a snapshot with what is known changes nothing of what it lists. -/
theorem contains_fill (p : ProcessRecord) (s : ProcessSnapshot) (name : String) :
    (p.fill s).openFiles.contains name = s.openFiles.contains name := by
  unfold SortedMap.contains fill
  rw [SortedMap.get?_mapWithKey, Option.isSome_map]

/-- Filling lists no other descriptors. -/
theorem lists_fill (p : ProcessRecord) (s : ProcessSnapshot) (name id : String) :
    (p.fill s).lists name id = s.lists name id := by
  unfold ProcessSnapshot.lists fill
  rw [SortedMap.get?_mapWithKey]
  cases s.openFiles.get? name with
  | none => rfl
  | some descriptors =>
    cases p.files.get? name with
    | none => rfl
    | some file =>
      show ((file.fill descriptors).get? id).isSome = (descriptors.get? id).isSome
      unfold FileRecord.fill
      split
      next => rw [SortedMap.get?_mapWithKey, Option.isSome_map]
      next => rfl

end ProcessRecord

end ProcessWatch
