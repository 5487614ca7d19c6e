import ProcessWatch.Proofs.Json.Numerals

/-!
# Values that are read from a text

All values that a reader holds are made of words, strings and numerals, none of which is NaN. So no
number of the value that a text holds is NaN, nor is one after the fields of one name are merged.

* **`Json.Reader.Definite`** — no value that a reader holds has a NaN, be it complete or not.
* **`Json.Reader.kept_step`**, **`Json.Reader.Definite.run`** — no character changes that, and no
  text does.
* **`Json.definite_of_scanText`**, **`Json.definite_collapse`** — what a text holds has no NaN.
-/

namespace ProcessWatch.Json

/-! ## What a reader holds

A reader holds the values of the objects and arrays that are still open, and a word or a text that
has begun. Only the former are values, so only they have to be definite. -/

/-- No value of an open array or object has a NaN. -/
def Frame.Definite : Frame → Prop
  | .array items => ∀ item ∈ items, item.Definite
  | .object fields _ => ∀ field ∈ fields, field.2.Definite

/-- Nor has the value of a word, or a complete one. -/
def Scan.Definite : Scan → Prop
  | .word _ v | .finished v => v.Definite
  | .value | .itemOrEnd | .keyOrEnd | .key | .colon | .next | .text _ _ _ | .numeral _ => True

namespace Reader

/-- No value that a reader holds has a NaN. -/
structure Definite (r : Reader) : Prop where
  stack : ∀ frame ∈ r.stack, frame.Definite
  scan : r.scan.Definite

/-- What a character left has no NaN, if it was taken. -/
def Kept : Except Refusal Reader → Prop
  | .ok r => r.Definite
  | .error _ => True

variable {r : Reader} {stack : List Frame} {c : Char}

/-- A reader has read nothing to begin with. -/
theorem definite_initial : initial.Definite := ⟨nofun, trivial⟩

/-! ## Parts of a step

Every part of a step either delivers a value to what is open, goes on without one, or refuses the
text. -/

/-- A finished value goes into the innermost frame, or it is the whole value. -/
theorem definite_deliver {value : Json} (hvalue : value.Definite)
    (h : ∀ frame ∈ stack, frame.Definite) : (deliver value stack).Definite := by
  cases stack with
  | nil => exact ⟨nofun, hvalue⟩
  | cons frame outer =>
    obtain ⟨hframe, houter⟩ := List.forall_mem_cons.1 h
    cases frame with
    | array items =>
      exact ⟨List.forall_mem_cons.2 ⟨List.forall_mem_cons.2 ⟨hvalue, hframe⟩, houter⟩, trivial⟩
    | object fields key =>
      exact ⟨List.forall_mem_cons.2 ⟨List.forall_mem_cons.2 ⟨hvalue, hframe⟩, houter⟩, trivial⟩

/-- A new frame is empty but for the key that it may wait for. -/
theorem kept_openFrame {frame : Frame} {scan : Scan} (h : ∀ frame ∈ stack, frame.Definite)
    (hframe : frame.Definite) (hscan : scan.Definite) : Kept (openFrame stack frame scan) := by
  unfold openFrame
  split
  · exact ⟨List.forall_mem_cons.2 ⟨hframe, h⟩, hscan⟩
  · trivial

/-- A closed frame becomes a value: its items or fields were definite one by one. -/
theorem kept_closeFrame (h : ∀ frame ∈ stack, frame.Definite) : Kept (closeFrame c stack) := by
  cases stack with
  | nil => trivial
  | cons frame outer =>
    obtain ⟨hframe, houter⟩ := List.forall_mem_cons.1 h
    cases frame with
    -- what a frame has collected is the other way round
    | array items =>
      have hitems : (array items.reverse).Definite :=
        .array fun item hitem => hframe item (List.mem_reverse.1 hitem)
      rw [closeFrame]
      split
      · exact definite_deliver hitems houter
      · trivial
    | object fields key =>
      have hfields : (object fields.reverse).Definite :=
        .object fun field hfield => hframe field (List.mem_reverse.1 hfield)
      rw [closeFrame]
      split
      · exact definite_deliver hfields houter
      · trivial

/-- The beginning of a value opens a frame or leads to another scan. -/
theorem kept_startValue (h : ∀ frame ∈ stack, frame.Definite) : Kept (startValue stack c) := by
  unfold startValue
  repeat' split
  · exact kept_openFrame h (List.forall_mem_nil _) trivial
  · exact kept_openFrame h (List.forall_mem_nil _) trivial
  · exact ⟨h, trivial⟩
  · exact ⟨h, .null⟩
  · exact ⟨h, .bool true⟩
  · exact ⟨h, .bool false⟩
  · exact ⟨h, trivial⟩
  · trivial

/-- Behind a value comes a comma or the end of the frame. -/
theorem kept_afterValue (h : ∀ frame ∈ stack, frame.Definite) : Kept (afterValue stack c) := by
  unfold afterValue
  repeat' split
  · exact ⟨h, trivial⟩
  · exact ⟨h, trivial⟩
  · exact ⟨h, trivial⟩
  · trivial
  · exact kept_closeFrame h

/-- A finished text is a value or the name of a field. -/
theorem definite_finishText (h : ∀ frame ∈ stack, frame.Definite) (isKey : Bool) (s : String) :
    (finishText stack isKey s).Definite := by
  unfold finishText
  split
  · obtain ⟨hframe, houter⟩ := List.forall_mem_cons.1 h
    exact ⟨List.forall_mem_cons.2 ⟨hframe, houter⟩, trivial⟩
  · exact definite_deliver (.string s) h

/-- A character of a text changes the text only, whatever escape it belongs to. -/
theorem kept_takeText (h : ∀ frame ∈ stack, frame.Definite) (isKey : Bool) (chars : List Char)
    (escape : Escape) : Kept (takeText stack isKey chars c escape) := by
  -- a character either ends the text, belongs to it, or is refused; only its end makes a value
  cases escape with
  | none =>
    rw [takeText]
    repeat' split
    · exact definite_finishText h isKey _
    · exact ⟨h, trivial⟩
    · trivial
    · exact ⟨h, trivial⟩
  | backslash =>
    rw [takeText]
    repeat' split
    · exact ⟨h, trivial⟩
    · exact ⟨h, trivial⟩
    · trivial
  | unit lead value seen =>
    rw [takeText]
    repeat' split
    · trivial
    · exact ⟨h, trivial⟩
    next d _ _ =>
      cases finishUnit chars lead (value * 16 + d) with
      | error refusal => trivial
      | ok taken => exact ⟨h, trivial⟩
  | pairBackslash lead | pairLetter lead =>
    rw [takeText]
    split
    · exact ⟨h, trivial⟩
    · trivial

/-! ## Steps and runs -/

/-- A numeral ends where the next character does not continue it, and becomes a value. -/
theorem Definite.settle (h : r.Definite) (c : Char) : (r.settle c).Definite := by
  unfold Reader.settle
  split
  next n _ =>
    split
    next hvalue => exact definite_deliver (.number (Numeral.beq_self_of_value? hvalue)) h.stack
    next => exact h
  next => exact h

/-- What a character leaves has no NaN if there was none before. -/
theorem kept_step (h : r.Definite) (c : Char) : Kept (r.step c) := by
  -- one case for every state of the scan, in the order of its constructors
  have hscan : r.scan.Definite := h.scan
  unfold step
  split
  next =>
    split
    · exact h
    · exact kept_startValue h.stack
  next =>
    repeat' split
    · exact h
    · exact kept_closeFrame h.stack
    · exact kept_startValue h.stack
  next =>
    repeat' split
    · exact h
    · exact kept_closeFrame h.stack
    · exact ⟨h.stack, trivial⟩
    · trivial
  next =>
    repeat' split
    · exact h
    · exact ⟨h.stack, trivial⟩
    · trivial
  next =>
    repeat' split
    · exact h
    · exact ⟨h.stack, trivial⟩
    · trivial
  next => exact kept_afterValue h.stack
  next heq =>
    rw [heq] at hscan
    exact definite_deliver hscan h.stack
  next heq =>
    rw [heq] at hscan
    split
    · exact definite_deliver hscan h.stack
    · trivial
  next heq =>
    rw [heq] at hscan
    split
    · exact ⟨h.stack, hscan⟩
    · trivial
  next => exact kept_takeText h.stack _ _ _
  next =>
    split
    · exact ⟨h.stack, trivial⟩
    · trivial
    · trivial
  next =>
    split
    · exact h
    · trivial

/-- The end of the text ends a numeral that may be left. -/
theorem Definite.finish (h : r.Definite) : r.finish.1.Definite := by
  unfold Reader.finish
  split
  next => exact h
  next =>
    split
    next =>
      split
      next => exact h
      next hvalue => exact definite_deliver (.number (Numeral.beq_self_of_value? hvalue)) h.stack
    next => exact h
  next => exact h

/-- Reading as far as a text goes keeps a reader without NaN. -/
theorem Definite.run (h : r.Definite) (chars : List Char) : (r.run chars).1.Definite := by
  induction chars generalizing r with
  | nil => exact h.finish
  | cons c rest ih =>
    have hsettled := h.settle c
    have hkept := kept_step hsettled c
    rw [Reader.run]
    split
    next hstep =>
      rw [hstep] at hkept
      exact ih hkept
    next => exact hsettled

/-- What a reader has read is definite. -/
theorem Definite.value? {value : Json} (h : r.Definite) (hvalue : r.value? = some value) :
    value.Definite := by
  obtain ⟨stack, scan⟩ := r
  cases scan with
  | finished v =>
    cases hvalue
    exact h.scan
  | value | itemOrEnd | keyOrEnd | key | colon | next | word _ _ | text _ _ _ | numeral _ =>
    cases hvalue

end Reader

/-! ## What a text holds -/

/-- Every value that was read from a text is definite, even if the text goes wrong behind it. -/
theorem definite_of_scanText {text : String} {value : Json}
    (h : (scanText text).1.value? = some value) : value.Definite :=
  (Reader.definite_initial.run text.toList).value? h

mutual

/-- Merging the fields of one name brings no NaN. -/
theorem definite_collapse : {value : Json} → value.Definite → value.collapse.Definite
  | .null, h | .bool _, h | .number _, h | .string _, h => h
  | .array _, .array h => .array (definite_collapseItems h)
  | .object _, .object h => .object (definite_collapseFields (List.forall_mem_nil _) h)

/-- The items of an array are collapsed one by one. -/
theorem definite_collapseItems : {items : List Json} → (∀ item ∈ items, item.Definite) →
    ∀ item ∈ collapseItems items, item.Definite
  | [], _, item, hitem => absurd hitem List.not_mem_nil
  | first :: rest, h, item, hitem => by
    obtain ⟨hfirst, hrest⟩ := List.forall_mem_cons.1 h
    rcases List.mem_cons.1 hitem with rfl | hitem
    · exact definite_collapse hfirst
    · exact definite_collapseItems hrest item hitem

/-- Collapsing keeps definite fields definite, since each value stays what it was or replaces
another one. -/
theorem definite_collapseFields {merged : Fields} (hmerged : merged.Definite) :
    {fields : List (String × Json)} → Fields.Definite fields →
      (collapseFields merged fields).Definite
  | [], _ => hmerged
  | (key, value) :: rest, h => by
    obtain ⟨hvalue, hrest⟩ := List.forall_mem_cons.1 h
    exact definite_collapseFields (hmerged.set key (definite_collapse hvalue)) hrest

end

end ProcessWatch.Json
