import Mathlib.Data.List.DropRight
import ProcessWatch.Proofs.Record.Samples

/-!
# Histories as the ends of logs

A log keeps everything that is written to it. A history keeps the last samples of such a log: it
drops the oldest ones, but what the next sample is compared with is always still there, so a history
and its log leave out the same samples.

## The architecture

* **`History.Edit`** — what is done to a history, and to any other one before it is merged in.
* **`History.editAll`**, **`History.Log.editAll`** — the edits of a history, and those of a log,
  which has no capacity.
* **`History.Ends`** — a history holds the end of a log. `Ends.push`, `Ends.append` and
  `Ends.foldl_append` keep that, and so does every edit.
* **`History.samples_ofEdits`** — what a history holds after edits, and what it gives out.
-/

namespace ProcessWatch

namespace History

/-- Something that is done to a history. What is merged in is an empty history after edits. -/
inductive Edit (α : Type) where
  | push (sample : α)
  | append (sample : α)
  | merge (capacity : Capacity) (edits : List (Edit α))

variable {α : Type}

/-! ## Logs -/

namespace Log

variable [BEq α]

/-- A log after a sample that is left out if it equals the last one. -/
def append (log : List α) (sample : α) : List α :=
  if log.getLast?.any (· == sample) then log else log ++ [sample]

mutual

/-- A log after an edit. Of a log that is merged in, what a history would hold of it is appended. -/
def edit (log : List α) : Edit α → List α
  | .push sample => log ++ [sample]
  | .append sample => append log sample
  | .merge capacity edits => ((editAll [] edits).rtake capacity.count).foldl append log

def editAll (log : List α) : List (Edit α) → List α
  | [] => log
  | e :: rest => editAll (edit log e) rest

end

/-- What edits make of an empty log. -/
def ofEdits (edits : List (Edit α)) : List α := editAll [] edits

/-- Appending makes a log longer exactly if its newest sample is another one. -/
theorem length_lt_append_iff {log : List α} {sample : α} :
    log.length < (append log sample).length ↔ log.getLast?.any (· == sample) = false := by
  unfold append
  cases log.getLast?.any (· == sample) with
  | true => simp
  | false => simp

end Log

/-! ## Histories

A history keeps the end of a log, as long as both go through the same edits. They agree on what to
leave out because the newest sample is the one that is compared, and that is the last thing a
history forgets. -/

/-- A history holds the end of a log, as much of it as there is room for. -/
def Ends (h : History α) (capacity : Capacity) (log : List α) : Prop :=
  h.capacity = capacity ∧ h.samples = log.rtake capacity.count

section

variable {h : History α} {capacity : Capacity} {log : List α}

/-- To take more items than there are is to take all. -/
theorem rtake_min_length (count : Nat) (items : List α) :
    items.rtake (min count items.length) = items.rtake count := by
  have hdropped : items.length - min count items.length = items.length - count := by omega
  rw [List.rtake, hdropped, List.rtake]

theorem ends_empty (capacity : Capacity) : (empty capacity : History α).Ends capacity [] :=
  ⟨rfl, (List.rtake_nil _).symm⟩

/-- There is room for one sample at least, so the newest one is the last one of the log. -/
theorem Ends.latest?_eq (he : h.Ends capacity log) : h.latest? = log.getLast? := by
  have hpos := capacity.pos
  rw [latest?, he.2, List.rtake, List.getLast?_drop]
  split
  next hlength =>
    have hnil : log = [] := List.length_eq_zero_iff.1 (by omega)
    rw [hnil, List.getLast?_nil]
  next => rfl

/-- Pushing a sample keeps the buffer the end of the log. -/
theorem Ends.push (he : h.Ends capacity log) (sample : α) :
    (h.push sample).Ends capacity (log ++ [sample]) := by
  obtain ⟨rfl, hsamples⟩ := he
  refine ⟨rfl, ?_⟩
  show newest h.capacity.count (h.samples ++ [sample]) = _
  rw [hsamples]
  exact newest_newest_append h.capacity.count log sample

/-- Such a buffer is full, or has the whole log. -/
theorem Ends.size_eq (he : h.Ends capacity log) : h.size = min capacity.count log.length := by
  rw [size, he.2]
  exact length_newest capacity.count log

variable [BEq α]

/-- A history leaves out what its log leaves out. -/
theorem Ends.repeats_eq (he : h.Ends capacity log) (sample : α) :
    h.repeats sample = log.getLast?.any (· == sample) := by
  unfold repeats
  rw [he.latest?_eq]
  cases log.getLast? <;> rfl

/-- Appending keeps it, because buffer and log have the same newest sample to compare with. -/
theorem Ends.append (he : h.Ends capacity log) (sample : α) :
    (h.append sample).1.Ends capacity (Log.append log sample) := by
  unfold History.append Log.append
  rw [← he.repeats_eq]
  split
  next => exact he
  next => exact he.push sample

/-- And it reports a change exactly if the log became longer. -/
theorem Ends.append_eq_true_iff (he : h.Ends capacity log) (sample : α) :
    (h.append sample).2 = true ↔ log.length < (Log.append log sample).length := by
  rw [Log.length_lt_append_iff, ← he.repeats_eq]
  unfold History.append
  cases h.repeats sample with
  | true => simp
  | false => simp

theorem Ends.foldl_append (he : h.Ends capacity log) (samples : List α) :
    (samples.foldl (fun h sample => (h.append sample).1) h).Ends capacity
      (samples.foldl Log.append log) := by
  induction samples generalizing h log with
  | nil => exact he
  | cons sample rest ih => exact ih (he.append sample)

end

variable [BEq α]

mutual

/-- A history after an edit. -/
def edit (h : History α) : Edit α → History α
  | .push sample => h.push sample
  | .append sample => (h.append sample).1
  | .merge capacity edits => h.merge (editAll (empty capacity) edits)

def editAll (h : History α) : List (Edit α) → History α
  | [] => h
  | e :: rest => editAll (edit h e) rest

end

mutual

/-- Every edit keeps the buffer the end of the log. -/
theorem ends_edit {h : History α} {capacity : Capacity} {log : List α}
    (he : h.Ends capacity log) (e : Edit α) : (edit h e).Ends capacity (Log.edit log e) := by
  cases e with
  | push sample => exact he.push sample
  | append sample => exact he.append sample
  | merge other edits =>
    -- what is merged in holds the end of a log of its own
    have hother := ends_editAll (ends_empty other) edits
    rw [Log.edit, ← hother.2]
    exact he.foldl_append _

/-- So do all edits of a list, one by one. -/
theorem ends_editAll {h : History α} {capacity : Capacity} {log : List α}
    (he : h.Ends capacity log) (edits : List (Edit α)) :
    (editAll h edits).Ends capacity (Log.editAll log edits) := by
  cases edits with
  | nil => exact he
  | cons e rest => exact ends_editAll (ends_edit he e) rest

end

/-- What edits make of an empty history. -/
def ofEdits (capacity : Capacity) (edits : List (Edit α)) : History α :=
  editAll (empty capacity) edits

/-- A buffer that was only ever edited holds the end of the log of these edits. -/
theorem ends_ofEdits (capacity : Capacity) (edits : List (Edit α)) :
    (ofEdits capacity edits).Ends capacity (Log.ofEdits edits) :=
  ends_editAll (ends_empty capacity) edits

/-- After any edits a history holds the last samples of its log, and of these the newest ones are
given out. A sample is taken if the log takes it, and of a history that is merged in the log takes
what that one holds. -/
theorem samples_ofEdits (capacity : Capacity) (edits : List (Edit α)) :
    (ofEdits capacity edits).capacity = capacity ∧
    (ofEdits capacity edits).size = min capacity.count (Log.ofEdits edits).length ∧
    (ofEdits capacity edits).samples
      = (Log.ofEdits edits).rtake (min capacity.count (Log.ofEdits edits).length) ∧
    (∀ sample, ((ofEdits capacity edits).append sample).2 = true ↔
      (Log.ofEdits edits).length < (Log.append (Log.ofEdits edits) sample).length) ∧
    (∀ other further, Log.edit (Log.ofEdits edits) (.merge other further)
      = (ofEdits other further).samples.foldl Log.append (Log.ofEdits edits)) ∧
    ∀ count, (ofEdits capacity edits).recent count
      = (ofEdits capacity edits).samples.rtake (min count (ofEdits capacity edits).size) := by
  have he := ends_ofEdits capacity edits
  refine ⟨he.1, he.size_eq, ?_, he.append_eq_true_iff, ?_, ?_⟩
  · rw [he.2, rtake_min_length]
  · intro other further
    rw [Log.edit, (ends_ofEdits other further).2]
    rfl
  · intro count
    rw [size, rtake_min_length]
    rfl

example : (ofEdits ⟨2, by decide⟩
    [.push 1, .append 1, .push 1, .merge ⟨1, by decide⟩ [.push 5, .push 1], .append 3]).samples
      = [1, 3] := by decide

end History

end ProcessWatch
