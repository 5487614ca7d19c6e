import ProcessWatch.Proofs.Text.Lines

/-!
# JSON on one line

The compact text of a value has no line break, whatever strings the value holds: between quotes a
line break is escaped, and a number has digits, a sign, a point and an exponent only.

* **`Number.breaks_text`** — of numbers; `Json.breaks_quote`: of strings.
* **`Json.breaks_compact`** — of every value, by recursion over it.
-/

namespace ProcessWatch

open Text (breaks breaks_append breaks_ofList breaks_eq_zero_iff)

/-! ## Digits -/

/-- No digit breaks a line. -/
theorem digitChar_ne_break (n : Nat) : n.digitChar ≠ '\n' := by
  have hsmall : ∀ n < 16, Nat.digitChar n ≠ '\n' := by decide
  by_cases h : n < 16
  · exact hsmall n h
  · rw [Nat.digitChar_eq_star.2 (by omega)]
    decide

/-- A natural number is written on one line. -/
theorem breaks_repr (n : Nat) : breaks n.repr = 0 := by
  refine breaks_eq_zero_iff.2 fun hmem => ?_
  rw [Nat.toList_repr] at hmem
  exact absurd (Nat.isDigit_of_mem_toDigits (by decide) (by decide) hmem) (by decide)

theorem breaks_toString_int (n : Int) : breaks (toString n) = 0 := by
  have hsign : breaks "-" = 0 := by decide
  rw [Int.toString_eq_repr, Int.repr_eq_if]
  split
  · exact breaks_repr _
  · rw [breaks_append, hsign, breaks_repr]

namespace Number

variable {digits : List Char}

/-- Digits with a point among them, and zeros where they are needed, are on one line. -/
theorem breaks_positional (h : '\n' ∉ digits) (exponent : Int) :
    breaks (positional digits exponent) = 0 := by
  have hpoint : breaks "." = 0 := by decide
  have hzero : breaks "0" = 0 := by decide
  have hbelow : breaks "0." = 0 := by decide
  have hzeros (count : Nat) : '\n' ∉ List.replicate count '0' := by simp
  unfold positional
  split
  · rw [breaks_append, hbelow, breaks_ofList, List.count_append, List.count_eq_zero.2 (hzeros _),
      List.count_eq_zero.2 h]
  · -- the digits are filled up with zeros and cut at the point
    have hpadded (count : Nat) : '\n' ∉ digits ++ List.replicate count '0' := by simp [h]
    dsimp only
    rw [breaks_append, breaks_append, Text.breaks_take (hpadded _), hpoint]
    split
    · rw [hzero]
    · rw [Text.breaks_drop (hpadded _)]

theorem breaks_scientific (h : '\n' ∉ digits) (exponent : Int) :
    breaks (scientific digits exponent) = 0 := by
  have hmark : breaks "e" = 0 := by decide
  have hsign : breaks (if exponent < 0 then "-" else "+") = 0 := by
    split <;> decide
  have hpower : breaks (toString exponent.natAbs) = 0 := breaks_repr _
  unfold scientific
  simp only [breaks_append, hmark, hsign, hpower, Nat.add_zero]
  -- a point stands only after the first of several digits
  rcases digits with _ | ⟨d, _ | ⟨e, rest⟩⟩
  · decide
  · exact (breaks_ofList [d]).trans (List.count_eq_zero.2 h)
  · refine (breaks_ofList _).trans (List.count_eq_zero.2 ?_)
    simpa using h

/-- A double is written on one line, with its sign, in either notation or as `null`. -/
theorem breaks_floatText (x : Float) : breaks (floatText x) = 0 := by
  -- every text of a double is put together of pieces on one line
  have hsign (negative : Bool) : breaks (if negative then "-" else "") = 0 := by
    cases negative <;> decide
  have hnull : breaks "null" = 0 := by decide
  have hzero : breaks "0.0" = 0 := by decide
  have hdigits (digits : List Nat) : '\n' ∉ digits.map Nat.digitChar := by
    intro hmem
    obtain ⟨n, _, hn⟩ := List.mem_map.1 hmem
    exact digitChar_ne_break n hn
  unfold floatText
  split
  · exact hnull
  · exact hnull
  · dsimp only
    split
    · rw [breaks_append, hsign, hzero]
    · split
      · rw [breaks_append, hsign, breaks_positional (hdigits _)]
      · rw [breaks_append, hsign, breaks_scientific (hdigits _)]

/-- A number is written on one line. -/
theorem breaks_text (n : Number) : breaks n.text = 0 := by
  cases n with
  | int value => exact breaks_toString_int value
  | float value => exact breaks_floatText value

end Number

namespace Json

/-- No character breaks the line when it stands between quotes. -/
theorem count_escape (c : Char) : (escape c).count '\n' = 0 := by
  by_cases hc : c = '\n'
  · rw [hc]
    decide
  · unfold escape
    repeat' split
    all_goals first | decide | simp [digitChar_ne_break, hc]

/-- A quoted text has no break: those inside it are escaped. -/
theorem breaks_quote (s : String) : breaks (quote s) = 0 := by
  have hquote : breaks "\"" = 0 := by decide
  have hescaped : (s.toList.flatMap escape).count '\n' = 0 := by
    refine List.count_eq_zero.2 fun hmem => ?_
    obtain ⟨c, _, hc⟩ := List.mem_flatMap.1 hmem
    exact List.count_eq_zero.1 (count_escape c) hc
  rw [quote, breaks_append, breaks_append, hquote, breaks_ofList, hescaped]

mutual

/-- A value is written on one line. -/
theorem breaks_compact : (value : Json) → breaks value.compact = 0
  | .null => by decide
  | .bool true => by decide
  | .bool false => by decide
  | .number n => n.breaks_text
  | .string s => breaks_quote s
  | .array items => by
    have hopen : breaks "[" = 0 := by decide
    have hclose : breaks "]" = 0 := by decide
    rw [compact, breaks_append, breaks_append, breaks_compactItems items, hopen, hclose]
  | .object fields => by
    have hopen : breaks "\x7b" = 0 := by decide
    have hclose : breaks "\x7d" = 0 := by decide
    rw [compact, breaks_append, breaks_append, breaks_compactFields fields, hopen, hclose]

/-- The items of an array, with commas between them. -/
theorem breaks_compactItems : (items : List Json) → breaks (compactItems items) = 0
  | [] => by decide
  | [item] => breaks_compact item
  | item :: next :: rest => by
    have hcomma : breaks "," = 0 := by decide
    rw [compactItems, breaks_append, breaks_append, breaks_compact item, hcomma,
      breaks_compactItems (next :: rest)]

/-- The fields of an object, with names and colons. -/
theorem breaks_compactFields : (fields : List (String × Json)) → breaks (compactFields fields) = 0
  | [] => by decide
  | [(key, value)] => by
    have hcolon : breaks ":" = 0 := by decide
    rw [compactFields, breaks_append, breaks_append, breaks_quote, hcolon, breaks_compact value]
  | (key, value) :: next :: rest => by
    have hcolon : breaks ":" = 0 := by decide
    have hcomma : breaks "," = 0 := by decide
    rw [compactFields]
    simp only [breaks_append, breaks_quote, hcolon, hcomma, breaks_compact value,
      breaks_compactFields (next :: rest)]

end

end Json

end ProcessWatch
