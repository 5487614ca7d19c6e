import Mathlib.Algebra.Order.Field.Rat
import Mathlib.Data.Nat.Prime.Basic
import Mathlib.Tactic.FieldSimp
import Mathlib.Tactic.Linarith
import ProcessWatch.Display.Quantity
import ProcessWatch.Proofs.Decimal.Rounded
import ProcessWatch.Text.Digits

/-!
# Sizes of memory as they are shown

A size is shown as a decimal and a unit. The text is read back, so that what it says can be compared
with the number of bytes: the unit is the greatest one that the size reaches, and the decimal is the
size in that unit, rounded to tenths. Since the unit is chosen before the number is rounded, a size
that is close below the next unit is shown as 1024 of its own.

## The architecture

* **`Text.decimal?`**, **`Display.size?`** — reading a decimal and a size.
* **`Display.inPower`** — a number of bytes that is divided by a power of 1024, as a double; none of
  the divisions rounds.
* **`Display.inUnit_eq`** — the unit by the number of binary digits of the size.
* **`Display.memory_eq`** — the text by the quotient of whole numbers.
* **`Display.size?_memory`** — what the text says, and how far that is from the size.
-/

namespace ProcessWatch

/-! ## Decimals -/

namespace Text

/-- Decimal digits are read back as the number that they were written of. -/
theorem digits?_toDigits (n : Nat) : digits? 10 (Nat.toDigits 10 n) = some n := by
  have hdigit : ∀ d < 10, digit? 10 d.digitChar = some d := by decide
  induction n using Nat.strong_induction_on with
  | _ n ih =>
    rcases Nat.lt_or_ge n 10 with hone | hmore
    · rw [Nat.toDigits_of_lt_base hone, digits?, List.foldlM_cons, hdigit n hone]
      simp
    · rw [Nat.toDigits_of_base_le (by decide) hmore, digits?, List.foldlM_append, ← digits?,
        ih (n / 10) (by omega), Option.bind_eq_bind, Option.bind_some, List.foldlM_cons,
        hdigit _ (Nat.mod_lt n (by decide))]
      have hn := Nat.div_add_mod' n 10
      simp [hn]

/-- So they are as a natural number, since there is at least one of them. -/
theorem natural?_toDigits (n : Nat) : natural? 10 (Nat.toDigits 10 n) = some n := by
  unfold natural?
  rw [if_neg, digits?_toDigits]
  rw [List.isEmpty_iff]
  exact Nat.toDigits_ne_nil

/-- Reads a decimal: a row of digits, and perhaps another one behind a point. -/
def decimal? (text : List Char) : Option ℚ :=
  match text.splitOn '.' with
  | [whole] => (natural? 10 whole).map fun (n : Nat) => (n : ℚ)
  | [whole, places] =>
    match natural? 10 whole, natural? 10 places with
    | some n, some m => some (n + m / 10 ^ places.length)
    | _, _ => none
  | _ => none

/-- Only digits are written. -/
theorem not_mem_toDigits {c : Char} (h : c.isDigit = false) (n : Nat) : c ∉ Nat.toDigits 10 n := by
  intro hmem
  rw [Nat.isDigit_of_mem_toDigits (by decide) (by decide) hmem] at h
  cases h

/-- A text is cut where it was joined. -/
theorem splitOn_append {c : Char} {left right : List Char} (hl : c ∉ left) (hr : c ∉ right) :
    (left ++ c :: right).splitOn c = [left, right] := by
  have hjoined : left ++ c :: right = [c].intercalate [left, right] := by simp
  rw [hjoined, List.splitOn_intercalate c (by simp [hl, hr]) (by simp)]

/-- A text without the separator is one piece. -/
theorem splitOn_of_not_mem {c : Char} {chars : List Char} (h : c ∉ chars) :
    chars.splitOn c = [chars] := by
  have hjoined : chars = [c].intercalate [chars] := by simp
  nth_rewrite 1 [hjoined]
  rw [List.splitOn_intercalate c (by simpa using h) (by simp)]

/-- Digits without a point are read back as an integer. -/
theorem decimal?_toDigits (n : Nat) : decimal? (Nat.toDigits 10 n) = some (n : ℚ) := by
  unfold decimal?
  rw [splitOn_of_not_mem (not_mem_toDigits (by decide) n)]
  dsimp only
  rw [natural?_toDigits, Option.map_some]

/-- A number of tenths. -/
theorem decimal?_tenths (n : Nat) :
    decimal? (Nat.toDigits 10 (n / 10) ++ ['.', (n % 10).digitChar]) = some ((n : ℚ) / 10) := by
  have hdigit : [(n % 10).digitChar] = Nat.toDigits 10 (n % 10) :=
    (Nat.toDigits_of_lt_base (Nat.mod_lt n (by decide))).symm
  -- neither half has a point, so the text is split into the two of them
  have hpoint (n : Nat) : '.' ∉ Nat.toDigits 10 n := not_mem_toDigits (by decide) n
  have hn : (n : ℚ) = (n / 10 : Nat) * 10 + (n % 10 : Nat) := by
    exact_mod_cast (Nat.div_add_mod' n 10).symm
  unfold decimal?
  rw [hdigit, splitOn_append (hpoint _) (hpoint _)]
  dsimp only
  rw [natural?_toDigits, natural?_toDigits, ← hdigit, List.length_singleton, hn]
  dsimp only
  congr 1
  field_simp

end Text

/-! ## Sizes as they are shown

To say how far a size is off, what is shown is read back as a rational number and a unit. The reader
is independent of the printer: it splits the text at the blank and the number at the point. -/

namespace Display

/-- The units that sizes are shown in, from bytes on. -/
def units : List String := "B" :: largerUnits

/-- A size as it is shown: the number of units, and the power of 1024 bytes that is the unit. -/
structure Size where
  number : ℚ
  power : Nat
deriving DecidableEq

/-- Reads a size: a decimal, a blank, and a unit. -/
def size? (text : String) : Option Size :=
  match text.toList.splitOn ' ' with
  | [number, unit] =>
    match Text.decimal? number, units.idxOf? (String.ofList unit) with
    | some number, some power => some ⟨number, power⟩
    | _, _ => none
  | _ => none

/-- A size is read as the number before the blank and the unit behind it. -/
theorem size?_eq {text unit : String} {number : List Char} {n : ℚ} {power : Nat}
    (htext : text.toList = number ++ ' ' :: unit.toList) (hblank : ' ' ∉ number)
    (hnumber : Text.decimal? number = some n) (hunit : units[power]? = some unit) :
    size? text = some ⟨n, power⟩ := by
  obtain ⟨hpower, rfl⟩ := List.getElem?_eq_some_iff.1 hunit
  have hunits : ∀ power (h : power < units.length),
      ' ' ∉ units[power].toList ∧ units.idxOf? units[power] = some power := by decide
  obtain ⟨hunit_blank, hindex⟩ := hunits power hpower
  unfold size?
  rw [htext, Text.splitOn_append hblank hunit_blank]
  dsimp only
  rw [hnumber, String.ofList_toList, hindex]

/-- A place that is zero is not shown. -/
theorem toList_dropZeroPlace {text : String} {whole : List Char} {digit : Char}
    (h : text.toList = whole ++ ['.', digit]) :
    (dropZeroPlace text).toList = if digit = '0' then whole else whole ++ ['.', digit] := by
  -- the point is there in any case, so only the digit behind it counts
  have hends : text.endsWith ".0" = true ↔ digit = '0' := by
    rw [← String.endsWith_toSlice, String.Slice.endsWith_string_iff, String.copy_toSlice, h]
    constructor
    · rintro ⟨before, hbefore⟩
      have hplace : ['.', '0'] = ['.', digit] := List.append_inj_right' hbefore rfl
      simpa using hplace.symm
    · rintro rfl
      exact List.suffix_append whole _
  unfold dropZeroPlace
  by_cases hzero : digit = '0'
  · rw [if_pos (hends.2 hzero), if_pos hzero]
    have hcopy : (text.dropEnd 2).toString = (text.dropEnd 2).copy := rfl
    rw [hcopy, String.toList_copy_dropEnd, h, List.length_append, List.length_cons,
      List.length_singleton]
    exact List.take_left
  · rw [if_neg fun heq => hzero (hends.1 heq), if_neg hzero, h]

/-- A number of tenths is read as that, whether or not its place is shown. -/
theorem decimal?_dropZeroPlace (tenths : Nat) :
    Text.decimal? (dropZeroPlace (Decimal.placePoint tenths 1)).toList
        = some ((tenths : ℚ) / 10) ∧
      ' ' ∉ (dropZeroPlace (Decimal.placePoint tenths 1)).toList := by
  have hdigits (n : Nat) : ' ' ∉ Nat.toDigits 10 n := Text.not_mem_toDigits (by decide) n
  have hplace : ∀ d < 10, (d.digitChar = '0' ↔ d = 0) ∧ ' ' ≠ d.digitChar := by decide
  obtain ⟨hzero, hblank⟩ := hplace (tenths % 10) (Nat.mod_lt _ (by decide))
  rw [toList_dropZeroPlace (Decimal.toList_placePoint_one tenths)]
  split
  next hdropped =>
    -- a dropped zero means that the tenths are a multiple of ten
    have htenths : (tenths : ℚ) = (tenths / 10 : Nat) * 10 := by
      have hn := Nat.div_add_mod' tenths 10
      rw [hzero.1 hdropped] at hn
      exact_mod_cast hn.symm
    refine ⟨?_, hdigits _⟩
    rw [Text.decimal?_toDigits, htenths, mul_div_cancel_right₀ _ (by norm_num)]
  next =>
    refine ⟨Text.decimal?_tenths tenths, ?_⟩
    simp [hdigits, hblank]

theorem size?_bytes (b : Nat) : size? (Decimal.placePoint b 0 ++ " B") = some ⟨b, 0⟩ := by
  have hunit : units[0]? = some "B" := rfl
  refine size?_eq ?_ (Text.not_mem_toDigits (by decide) b) (Text.decimal?_toDigits b) hunit
  rw [String.toList_append, Decimal.toList_placePoint_zero]
  rfl

/-- A size with a place behind the point is read back as its tenths, with the zero dropped or
not. -/
theorem size?_tenths {unit : String} {power : Nat} (hunit : units[power]? = some unit)
    (tenths : Nat) :
    size? (dropZeroPlace (Decimal.placePoint tenths 1) ++ " " ++ unit)
      = some ⟨(tenths : ℚ) / 10, power⟩ := by
  obtain ⟨hnumber, hblank⟩ := decimal?_dropZeroPlace tenths
  refine size?_eq ?_ hblank hnumber hunit
  rw [String.toList_append, String.toList_append, List.append_assoc]
  rfl

/-! ## Numbers of bytes

The loop divides by 1024 as long as a size is not less than that. No division rounds, so the unit it
ends with is told by the logarithm, and all of the error comes from the one place behind the
point. -/

section

variable {b : Nat} (pos : 0 < b) (h : b < 2 ^ 53)

/-- A number of bytes that is divided by a power of 1024, which is not greater. -/
def inPower (power : Nat) (hp : 10 * power ≤ b.log2) : Double.Normal :=
  (Double.Normal.ofNat b pos h).lower (10 * power) (by
    show -1074 ≤ (b.log2 : Int) - 52 - (10 * power : Nat)
    omega)

theorem inPower_zero : inPower pos h 0 (Nat.zero_le _) = Double.Normal.ofNat b pos h :=
  Double.Normal.lower_zero _ _

/-- Dividing by 1024 goes from one unit to the next, without rounding. -/
theorem toFloat_inPower_div {power : Nat} (hp : 10 * power ≤ b.log2)
    (hnext : 10 * (power + 1) ≤ b.log2) :
    (inPower pos h power hp).toFloat / 1024 = (inPower pos h (power + 1) hnext).toFloat := by
  have hunit : (1024 : Float) = (Double.Normal.twoTo 10 (by decide)).toFloat := rfl
  have hrange : -1074 < (inPower pos h power hp).exponent - (10 : Nat) := by
    show -1074 < (b.log2 : Int) - 52 - (10 * power : Nat) - 10
    omega
  rw [hunit, Double.Normal.toFloat_div _ (by decide) hrange]
  exact congrArg Double.Normal.toFloat (Double.Normal.lower_lower _ _ _ _)

/-- So a size is still too large for its unit exactly if the logarithm says so. -/
theorem le_inPower_iff {power : Nat} (hp : 10 * power ≤ b.log2) :
    1024 ≤ (inPower pos h power hp).toFloat ↔ 10 * (power + 1) ≤ b.log2 := by
  have hunit : (1024 : Float) = (Double.Normal.twoTo 10 (by decide)).toFloat := rfl
  have hexponent :
      (inPower pos h power hp).exponent = (b.log2 : Int) - 52 - (10 * power : Nat) := rfl
  have hleast : 2 ^ 52 ≤ (inPower pos h power hp).significand := by
    have hfull := (inPower pos h power hp).full
    have := Nat.log2_self_le (Nat.ne_of_gt (inPower pos h power hp).pos)
    rwa [hfull] at this
  rw [hunit, Double.Normal.le_iff, hexponent]
  show -42 < _ ∨ -42 = _ ∧ 2 ^ 52 ≤ _ ↔ _
  omega

/-- The unit is the greatest power of 1024 bytes that is not greater than the size. -/
theorem inUnit_eq (rest : List String) (unit : String) {power : Nat} (hp : 10 * power ≤ b.log2)
    (hunits : units.drop power = unit :: rest) :
    ∃ top unit', ∃ htop : 10 * top ≤ b.log2, b.log2 < 10 * (top + 1) ∧
      units[top]? = some unit' ∧
      inUnit (inPower pos h power hp).toFloat unit rest
        = ((inPower pos h top htop).toFloat, unit') := by
  have hunit : units[power]? = some unit := by rw [← List.head?_drop, hunits, List.head?_cons]
  induction rest generalizing unit power with
  | nil =>
    -- no number of bytes is greater than all units
    have hlog := (Nat.log2_lt (Nat.ne_of_gt pos)).2 h
    have hlast : units.length - power = 1 := by
      rw [← List.length_drop, hunits, List.length_singleton]
    have hlength : units.length = 6 := rfl
    exact ⟨power, unit, hp, by omega, hunit, rfl⟩
  | cons larger rest ih =>
    unfold inUnit
    by_cases hnext : 10 * (power + 1) ≤ b.log2
    · have hdrop : units.drop (power + 1) = larger :: rest := by
        rw [← List.tail_drop, hunits, List.tail_cons]
      rw [if_pos ((le_inPower_iff pos h hp).2 hnext), toFloat_inPower_div pos h hp hnext]
      exact ih larger hnext hdrop (by rw [← List.head?_drop, hdrop, List.head?_cons])
    · rw [if_neg fun hle => hnext ((le_inPower_iff pos h hp).1 hle)]
      exact ⟨power, unit, hp, Nat.not_le.1 hnext, hunit, rfl⟩

/-- The places of a size in a unit are those of the quotient of whole numbers. -/
theorem fixed_inPower (places : Nat) {power : Nat} (hp : 10 * power ≤ b.log2) :
    Decimal.fixed places (inPower pos h power hp).toFloat
      = Decimal.placePoint (Decimal.roundHalfEven (b * 10 ^ places) (1024 ^ power)) places := by
  have hlog := (Nat.log2_lt (Nat.ne_of_gt pos)).2 h
  have hexponent : (inPower pos h power hp).exponent
      = -((10 * power + (52 - b.log2) : Nat) : Int) := by
    show (b.log2 : Int) - 52 - (10 * power : Nat) = _
    omega
  have hsignificand : (inPower pos h power hp).significand * 10 ^ places
      = b * 10 ^ places * 2 ^ (52 - b.log2) := by
    show b <<< (52 - b.log2) * 10 ^ places = _
    rw [Nat.shiftLeft_eq, Nat.mul_right_comm]
  rw [Decimal.fixed_toFloat places _ hexponent, hsignificand, Nat.pow_add, Nat.pow_mul,
    Decimal.roundHalfEven_mul _ _ (Nat.two_pow_pos _)]

end

/-- The text of a size is that of the quotient by its unit, with a place behind the point from the
first kilobyte on. -/
theorem memory_eq {b : Nat} (pos : 0 < b) (h : b < 2 ^ 53) :
    ∃ power unit, units[power]? = some unit ∧ 10 * power ≤ b.log2 ∧ b.log2 < 10 * (power + 1) ∧
      memory (Float.ofNat b) =
        if power = 0 then Decimal.placePoint b 0 ++ " B"
        else dropZeroPlace (Decimal.placePoint
          (Decimal.roundHalfEven (b * 10) (1024 ^ power)) 1) ++ " " ++ unit := by
  obtain ⟨power, unit, hp, hmost, hunit, hin⟩ :=
    inUnit_eq pos h largerUnits "B" (show 10 * 0 ≤ b.log2 from Nat.zero_le _) rfl
  -- bytes alone have no place behind the point
  have hbytes : unit = "B" ↔ power = 0 := by
    obtain ⟨hpower, rfl⟩ := List.getElem?_eq_some_iff.1 hunit
    exact (by decide : ∀ power (h : power < units.length), units[power] = "B" ↔ power = 0) _ hpower
  refine ⟨power, unit, hunit, hp, hmost, ?_⟩
  unfold memory
  rw [Double.Normal.toFloat_ofNat pos h, if_pos (Double.Normal.toFloat_pos _), ← inPower_zero]
  dsimp only
  rw [hin]
  dsimp only
  simp only [hbytes, fixed_inPower pos h]
  split
  next hzero =>
    rw [hzero, Nat.pow_zero, Nat.pow_zero, Nat.mul_one, Decimal.roundHalfEven_one]
  next => rw [Nat.pow_one]

/-- A size is shown in tenths of the unit, rounded. -/
theorem size?_memory_eq {b : Nat} (h : b < 2 ^ 53) :
    ∃ power, (power = 0 ∨ 1024 ^ power ≤ b) ∧ b < 1024 ^ (power + 1) ∧
      size? (memory (Float.ofNat b))
        = some ⟨(Decimal.roundHalfEven (b * 10) (1024 ^ power) : ℚ) / 10, power⟩ := by
  rcases Nat.eq_zero_or_pos b with rfl | pos
  · have hzero : size? (memory (Float.ofNat 0)) = some ⟨0, 0⟩ := by decide +kernel
    refine ⟨0, .inl rfl, by decide, ?_⟩
    rw [hzero, Nat.pow_zero, Decimal.roundHalfEven_one]
    simp
  · -- the unit is told by the logarithm; in terms of powers of 1024 that is a bound on the size
    obtain ⟨power, unit, hunit, hleast, hmost, htext⟩ := memory_eq pos h
    have hpower (k : Nat) : 1024 ^ k = 2 ^ (10 * k) := (Nat.pow_mul 2 10 k).symm
    refine ⟨power, .inr ?_, ?_, ?_⟩
    · rw [hpower]
      exact (Nat.le_log2 (Nat.ne_of_gt pos)).1 hleast
    · rw [hpower]
      exact (Nat.log2_lt (Nat.ne_of_gt pos)).1 hmost
    · rw [htext]
      split
      next hzero =>
        have htenths : (b : ℚ) = ((b * 10 : Nat) : ℚ) / 10 := by simp
        rw [hzero, size?_bytes, Nat.pow_zero, Decimal.roundHalfEven_one, ← htenths]
      next => exact size?_tenths hunit _

/-- Rounding reaches the next unit from half a tenth below it on. There is no tie, since the unit is
no multiple of five. -/
theorem tenths_below_iff {b unit tenths : Nat} (hbound : b < 1024 * unit) (hfive : ¬ 5 ∣ unit)
    (hup : 2 * (b * 10) ≤ 2 * (tenths * unit) + unit)
    (hdown : 2 * (tenths * unit) ≤ 2 * (b * 10) + unit) :
    tenths ≤ 10240 ∧ (tenths < 10240 ↔ 20 * b < 20479 * unit) := by
  -- one tenth more would be above the size by more than half a tenth
  have hle : tenths ≤ 10240 := by
    by_contra hgt
    have hmul : 10241 * unit ≤ tenths * unit := Nat.mul_le_mul_right unit (by omega)
    omega
  refine ⟨hle, ?_, ?_⟩
  · intro hlt
    have hmul : tenths * unit ≤ 10239 * unit := Nat.mul_le_mul_right unit (by omega)
    -- a tie cannot happen, because 5 does not divide a power of two
    have hne : 20 * b ≠ 20479 * unit := fun heq => hfive (by omega)
    omega
  · intro hlt
    refine Nat.lt_of_le_of_ne hle ?_
    rintro rfl
    omega

/-- A size below `2 ^ 53` bytes is shown in the greatest unit that it reaches, and at most a
twentieth of the unit away. What is shown is less than 1024 units unless the size is less than a
twentieth of a unit below the next unit; then it is 1024 units. -/
theorem size?_memory {b : Nat} (h : b < 2 ^ 53) :
    ∃ size, size? (memory (Float.ofNat b)) = some size ∧
      (size.power = 0 ∨ 1024 ^ size.power ≤ b) ∧ b < 1024 ^ (size.power + 1) ∧
      |size.number * 1024 ^ size.power - b| ≤ 1024 ^ size.power / 20 ∧
      size.number ≤ 1024 ∧
      (size.number < 1024 ↔ (b : ℚ) < (1024 - 1 / 20) * 1024 ^ size.power) := by
  obtain ⟨power, hleast, hmost, hsize⟩ := size?_memory_eq h
  refine ⟨_, hsize, hleast, hmost, ?_⟩
  have hunit : 0 < 1024 ^ power := Nat.pow_pos (by decide)
  have hcast : (1024 : ℚ) ^ power = (1024 ^ power : Nat) := by push_cast; rfl
  have hbound : b < 1024 * 1024 ^ power := by rwa [Nat.pow_succ'] at hmost
  have hfive : ¬ 5 ∣ 1024 ^ power := fun hdvd =>
    absurd (Nat.prime_five.dvd_of_dvd_pow hdvd) (by decide)
  obtain ⟨hup, hdown⟩ := Decimal.roundHalfEven_near (b * 10) hunit
  dsimp only
  rw [hcast]
  -- from here on it is arithmetic about two numbers
  generalize Decimal.roundHalfEven (b * 10) (1024 ^ power) = tenths at *
  generalize 1024 ^ power = unit at *
  obtain ⟨hle, hlt_iff⟩ := tenths_below_iff hbound hfive hup hdown
  have hnumber : (tenths : ℚ) / 10 < 1024 ↔ tenths < 10240 := by
    rw [div_lt_iff₀ (by norm_num)]
    norm_num
  have hup' : 2 * ((b : ℚ) * 10) ≤ 2 * (tenths * unit) + unit := by exact_mod_cast hup
  have hdown' : 2 * ((tenths : ℚ) * unit) ≤ 2 * (b * 10) + unit := by exact_mod_cast hdown
  have hle' : (tenths : ℚ) ≤ 10240 := by exact_mod_cast hle
  refine ⟨?_, by linarith, ?_⟩
  · rw [abs_le]
    constructor <;> linarith
  · rw [hnumber, hlt_iff]
    have hlt : (b : ℚ) < (1024 - 1 / 20) * unit ↔ 20 * (b : ℚ) < 20479 * unit := by
      constructor <;> intro hlt <;> linarith
    rw [hlt]
    exact_mod_cast Iff.rfl

/-- The greatest number of bytes that is shown as less than a megabyte. -/
theorem size?_memory_belowMega :
    1048524 < 2 ^ 53 ∧ ∃ size, size? (memory (Float.ofNat 1048524)) = some size ∧
      (size.power = 0 ∨ 1024 ^ size.power ≤ 1048524) ∧ 1048524 < 1024 ^ (size.power + 1) ∧
      |size.number * 1024 ^ size.power - (1048524 : Nat)| ≤ 1024 ^ size.power / 20 ∧
      size.number ≤ 1024 ∧
      (size.number < 1024 ↔ ((1048524 : Nat) : ℚ) < (1024 - 1 / 20) * 1024 ^ size.power) :=
  ⟨by decide, size?_memory (by decide)⟩

example :
    memory (Float.ofNat 1048524) = "1023.9 KB" ∧ memory (Float.ofNat 1048525) = "1024 KB" := by
  decide +kernel

/-- A size is not always shown as less than 1024 units, whatever the unit. -/
theorem not_below_of_rounded_up :
    ¬ ∀ b < 2 ^ 53, ∃ size, size? (memory (Float.ofNat b)) = some size ∧
      (size.number < 1024 ∨ units[size.power]? = some "PB") ∧
      |size.number * 1024 ^ size.power - b| ≤ 1024 ^ size.power / 20 := by
  intro shown_below
  have hshown : size? (memory (Float.ofNat 1048575)) = some ⟨1024, 1⟩ := by decide +kernel
  obtain ⟨size, hsize, hbelow, -⟩ := shown_below 1048575 (by decide)
  obtain rfl : ⟨1024, 1⟩ = size := Option.some_inj.1 (hshown.symm.trans hsize)
  exact absurd hbelow (by decide)

end Display

end ProcessWatch
