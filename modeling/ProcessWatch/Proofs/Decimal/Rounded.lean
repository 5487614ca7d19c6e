import ProcessWatch.Decimal.Fixed
import ProcessWatch.Proofs.Decimal.Normal

/-!
# Doubles that are rounded to decimal places

A quotient is rounded to a whole number that is at most half a unit away, and does not depend on the
common factors of the two. So a double with a full significand is written as the quotient that it
is.

* **`Decimal.roundHalfEven_near`**, **`Decimal.roundHalfEven_mul`** — the two rules of rounding.
* **`Decimal.fixed_toFloat`** — the text of a double that has no whole powers of two.
* **`Decimal.toList_placePoint_one`** — one place after the point: the last digit.
-/

namespace ProcessWatch.Decimal

/-! ## Rounding -/

/-- Rounding moves a quotient by half a unit at most. -/
theorem roundHalfEven_near (n : Nat) {d : Nat} (hd : 0 < d) :
    2 * n ≤ 2 * (roundHalfEven n d * d) + d ∧ 2 * (roundHalfEven n d * d) ≤ 2 * n + d := by
  have hn : n / d * d + n % d = n := Nat.div_add_mod' n d
  have hrest : n % d < d := Nat.mod_lt n hd
  have hup : (n / d + 1) * d = n / d * d + d := Nat.succ_mul _ _
  unfold roundHalfEven
  dsimp only
  split
  next => omega
  next =>
    split
    next => omega
    next => split <;> omega

/-- Common factors do not matter. -/
theorem roundHalfEven_mul (n d : Nat) {c : Nat} (hc : 0 < c) :
    roundHalfEven (n * c) (d * c) = roundHalfEven n d := by
  have hdouble : 2 * (n % d * c) = 2 * (n % d) * c := (Nat.mul_assoc _ _ _).symm
  unfold roundHalfEven
  dsimp only
  rw [Nat.mul_div_mul_right _ _ hc, Nat.mul_mod_mul_right, hdouble]
  simp only [Nat.mul_lt_mul_right hc]

theorem roundHalfEven_one (n : Nat) : roundHalfEven n 1 = n := by
  have := roundHalfEven_near n Nat.one_pos
  omega

/-- The text of a significand that is divided by a power of two. -/
theorem fixed_toFloat (places : Nat) (n : Double.Normal) {down : Nat} (h : n.exponent = -down) :
    fixed places n.toFloat
      = placePoint (roundHalfEven (n.significand * 10 ^ places) (2 ^ down)) places := by
  have hup : (-(down : Int)).toNat = 0 := by omega
  have hdown : (- -(down : Int)).toNat = down := by omega
  unfold fixed
  rw [Double.Normal.ofFloat_toFloat, h]
  dsimp only
  rw [hup, hdown, Nat.shiftLeft_zero, Nat.one_shiftLeft]
  exact String.empty_append

/-! ## Places -/

/-- Without a place behind the point there are just the digits. -/
theorem toList_placePoint_zero (units : Nat) :
    (placePoint units 0).toList = Nat.toDigits 10 units := Nat.toList_repr

/-- The last digit stands behind the point. -/
theorem toList_placePoint_one (units : Nat) :
    (placePoint units 1).toList
      = Nat.toDigits 10 (units / 10) ++ ['.', (units % 10).digitChar] := by
  have hdigits : (toString units).toList = Nat.toDigits 10 units := Nat.toList_repr
  -- the padding is counted in characters of the string, the digits in those of a list
  have hlength : (toString units).length = (Nat.toDigits 10 units).length := by
    rw [← hdigits, String.length_toList]
  have hpadded : (String.ofList (List.replicate (1 + 1 - (toString units).length) '0')
      ++ toString units).toList = Nat.toDigits 10 (units / 10) ++ [(units % 10).digitChar] := by
    rw [String.toList_append, String.toList_ofList, hdigits, hlength]
    rcases Nat.lt_or_ge units 10 with hone | hmore
    · -- a single digit gets a zero before it
      rw [Nat.toDigits_of_lt_base hone, Nat.div_eq_of_lt hone, Nat.mod_eq_of_lt hone]
      rfl
    · rw [Nat.toDigits_of_base_le (by decide) hmore, List.length_append]
      have hpos := List.length_pos_iff.2 (Nat.toDigits_ne_nil (n := units / 10) (b := 10))
      have hnone : 1 + 1 - ((Nat.toDigits 10 (units / 10)).length + 1) = 0 := by omega
      rw [List.length_singleton, hnone]
      rfl
  unfold placePoint
  rw [if_neg (by decide)]
  dsimp only
  rw [← String.length_toList, hpadded, List.length_append, List.length_singleton,
    Nat.add_sub_cancel, List.take_left, List.drop_left]
  simp only [String.toList_append, String.toList_ofList, List.append_assoc]
  rfl

end ProcessWatch.Decimal
