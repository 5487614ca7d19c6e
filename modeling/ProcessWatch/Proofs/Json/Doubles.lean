import ProcessWatch.Json.Numeral

/-!
# Doubles that equal themselves

Every double equals itself but NaN, and whole numbers never round to NaN.

* **`Double.beq_self_iff`** — a double equals itself unless it is NaN.
* **`Double.Exists.mul`**, **`Double.Exists.div`** — neither the product with a regular double
  nor the quotient is NaN.
* **`Double.exists_ofInt`** — nor is a whole number as a double.
-/

namespace ProcessWatch

namespace Double

open Float.Model (UnpackedFloat Format)
open Float.Model.UnpackedFloat (notANumber infinity zero finite packComponents
  shiftToTargetExponent unpackMantissa_packComponents unpackExponent_packComponents)

/-- A double is no NaN. -/
def Exists (x : Float) : Prop := x.toModel.unpack ≠ notANumber

/-- Whether an unpacked double is neither NaN nor an infinity nor a zero. -/
def regular : UnpackedFloat → Bool
  | finite _ _ _ _ => true
  | notANumber | infinity _ | zero _ => false

/-- A double is neither NaN nor an infinity nor a zero. -/
def Regular (x : Float) : Prop := regular x.toModel.unpack = true

instance (x : Float) : Decidable (Regular x) := inferInstanceAs (Decidable (_ = true))

section

variable {sign : UnpackedFloat.Sign} {m : Nat} {e : Int} {pos : 0 < m}

/-- An infinity is a number as far as comparing goes. -/
theorem infinity_ne : infinity sign ≠ notANumber := UnpackedFloat.noConfusion

theorem zero_ne : zero sign ≠ notANumber := UnpackedFloat.noConfusion

theorem finite_ne : finite sign m e pos ≠ notANumber := UnpackedFloat.noConfusion

end

/-- Neither of two branches, so not the choice between them. -/
theorem ite_ne {c : Prop} [Decidable c] {u v w : UnpackedFloat} (hu : u ≠ w) (hv : v ≠ w) :
    (if c then u else v) ≠ w := by
  split
  · exact hu
  · exact hv

/-! ## Equality -/

/-- Every number compares equal to itself. Negative ones are compared the other way round, which
makes no difference here. -/
theorem compare_self {u : UnpackedFloat} (h : u ≠ notANumber) : u.compare u = some .eq := by
  cases u with
  | notANumber => exact absurd rfl h
  | infinity sign => cases sign <;> rfl
  | zero sign => rfl
  | finite sign mantissa exponent pos =>
    have hself : (compare exponent exponent).then (compare mantissa mantissa) = .eq := by
      rw [Std.compare_self, Std.compare_self]
      rfl
    cases sign with
    | negative =>
      show some ((compare exponent exponent).then (compare mantissa mantissa)).swap = some .eq
      rw [hself]
      rfl
    | positive => exact congrArg some hself

/-- A double exists in this sense exactly if it equals itself. -/
theorem beq_self_iff {x : Float} : (x == x) = true ↔ Exists x := by
  show (x.toModel.unpack.compare x.toModel.unpack == some .eq) = true ↔ _
  constructor
  · intro heq hnan
    rw [hnan] at heq
    cases heq
  · intro h
    rw [compare_self h]
    rfl

/-! ## Packing -/

/-- Bits are those of a NaN only if the exponent is the greatest and the mantissa is not zero. -/
theorem unpack_packComponents {sign : UnpackedFloat.Sign}
    {exponent : BitVec Format.binary64.exponentBits}
    {mantissa : BitVec Format.binary64.mantissaBitsWithoutImplicit}
    (h : exponent = -1#_ → mantissa = 0#_) :
    UnpackedFloat.unpack .binary64 (packComponents .binary64 sign exponent mantissa)
      ≠ notANumber := by
  unfold UnpackedFloat.unpack
  dsimp only
  -- the cases of unpacking: the greatest exponent, the least one, and those between
  by_cases hlast : exponent = -1#_
  · rw [if_pos (unpackExponent_packComponents.trans hlast),
      if_pos (unpackMantissa_packComponents.trans (h hlast))]
    exact infinity_ne
  · rw [if_neg fun heq => hlast (unpackExponent_packComponents.symm.trans heq)]
    by_cases hfirst : exponent = 0#_
    · rw [if_pos (unpackExponent_packComponents.trans hfirst)]
      by_cases hzero : mantissa = 0#_
      · rw [dif_pos (unpackMantissa_packComponents.trans hzero)]
        exact zero_ne
      · rw [dif_neg fun heq => hzero (unpackMantissa_packComponents.symm.trans heq)]
        exact finite_ne
    · rw [if_neg fun heq => hfirst (unpackExponent_packComponents.symm.trans heq)]
      exact finite_ne

/-- What is packed is a NaN only if it was one. -/
theorem unpack_pack {u : UnpackedFloat} (h : u ≠ notANumber) :
    (Float.Model.pack u).unpack ≠ notANumber := by
  show UnpackedFloat.unpack .binary64 (UnpackedFloat.pack .binary64 u) ≠ notANumber
  have hfirst : (0 : BitVec 11) ≠ -1#11 := by decide
  cases u with
  | notANumber => exact absurd rfl h
  | infinity sign => exact unpack_packComponents fun _ => rfl
  | zero sign => exact unpack_packComponents fun heq => absurd heq hfirst
  | finite sign mantissa exponent pos =>
    unfold UnpackedFloat.pack
    dsimp only
    split
    next => exact unpack_packComponents fun _ => rfl
    next hsmall =>
      split
      next =>
        refine unpack_packComponents fun heq => ?_
        -- the exponent is below the greatest one
        have hnat := congrArg BitVec.toNat heq
        rw [BitVec.toNat_ofNat] at hnat
        have hlast : (-BitVec.ofNat Format.binary64.exponentBits 1).toNat = 2047 := by decide
        have hbits : 2 ^ Format.binary64.exponentBits = 2048 := by decide
        rw [hlast, hbits] at hnat
        omega
      next => exact unpack_packComponents fun heq => absurd heq hfirst

/-! ## Arithmetic

NaN comes of a product or quotient of zero and infinity, of two zeros or of two infinities. A regular
power of ten is neither of the two, so scaling by it makes no NaN. -/

/-- Rounding gives a zero, a finite number or an infinity. -/
theorem roundWithAccuracy_ne (sign : UnpackedFloat.Sign) (mantissa : Nat) (exponent : Int)
    (accuracy : UnpackedFloat.Accuracy) :
    UnpackedFloat.roundWithAccuracy .binary64 sign mantissa exponent accuracy ≠ notANumber := by
  unfold UnpackedFloat.roundWithAccuracy
  dsimp only
  generalize shiftToTargetExponent .binary64 _ _ .exact = cut
  by_cases hzero : cut.1.mantissa = 0
  · rw [dif_pos hzero]
    exact zero_ne
  · rw [dif_neg hzero]
    exact finite_ne

/-- A regular double unpacks to a finite number. -/
theorem Regular.unpack {x : Float} (h : Regular x) :
    ∃ sign mantissa exponent pos, x.toModel.unpack = finite sign mantissa exponent pos := by
  unfold Regular at h
  cases hu : x.toModel.unpack with
  | notANumber | infinity _ | zero _ =>
    rw [hu] at h
    cases h
  | finite sign mantissa exponent pos => exact ⟨sign, mantissa, exponent, pos, rfl⟩

/-- A product exists if one factor is regular: what is excluded is zero times infinity. -/
theorem Exists.mul {x y : Float} (hx : Exists x) (hy : Regular y) : Exists (x * y) := by
  obtain ⟨_, _, _, _, hfinite⟩ := hy.unpack
  refine unpack_pack ?_
  rw [hfinite]
  unfold Exists at hx
  cases hu : x.toModel.unpack with
  | notANumber => exact absurd hu hx
  | infinity _ => exact infinity_ne
  | zero _ => exact zero_ne
  | finite _ _ _ _ => exact roundWithAccuracy_ne _ _ _ _

/-- A quotient exists if the divisor is regular. -/
theorem Exists.div {x y : Float} (hx : Exists x) (hy : Regular y) : Exists (x / y) := by
  obtain ⟨_, _, _, _, hfinite⟩ := hy.unpack
  refine unpack_pack ?_
  rw [hfinite]
  unfold Exists at hx
  cases hu : x.toModel.unpack with
  | notANumber => exact absurd hu hx
  | infinity _ => exact infinity_ne
  | zero _ => exact zero_ne
  | finite _ _ _ _ => exact roundWithAccuracy_ne _ _ _ _

/-- A change of the sign makes no NaN. -/
theorem Exists.neg {x : Float} (hx : Exists x) : Exists (-x) := by
  refine unpack_pack ?_
  unfold Exists at hx
  cases hu : x.toModel.unpack with
  | notANumber => exact absurd hu hx
  | infinity _ => exact infinity_ne
  | zero _ => exact zero_ne
  | finite _ _ _ _ => exact finite_ne

/-! ## Whole numbers -/

/-- Every word is a number as a double. -/
theorem exists_toFloat (n : UInt64) : Exists n.toFloat := by
  refine unpack_pack ?_
  unfold UnpackedFloat.ofUInt64 UnpackedFloat.ofNat UnpackedFloat.ofInt UnpackedFloat.normalize
  split
  next => exact roundWithAccuracy_ne _ _ _ _
  next => exact zero_ne
  next => exact roundWithAccuracy_ne _ _ _ _

/-- The first of the exact powers of ten is one. -/
theorem regular_one : Regular Float.exactlyRepresentablePowersOfTen[0] := rfl

/-- A decimal with an exponent is rounded to a number, or overflows to an infinity. -/
theorem ofScientific_ne (mantissa : Nat) (exponent : Int) :
    UnpackedFloat.ofScientific .binary64 mantissa exponent ≠ notANumber := by
  unfold UnpackedFloat.ofScientific
  by_cases hmantissa : mantissa = 0
  · rw [dif_pos hmantissa]
    exact zero_ne
  · rw [dif_neg hmantissa]
    refine ite_ne infinity_ne (ite_ne zero_ne (ite_ne ?_ ?_))
    · exact roundWithAccuracy_ne _ _ _ _
    · exact roundWithAccuracy_ne _ _ _ _

/-- Every natural number is a number as a double. -/
theorem exists_ofNat (n : Nat) : Exists (Float.ofNat n) := by
  show Exists (Float.ofScientific n false 0)
  unfold Float.ofScientific
  split
  next => exact (exists_toFloat _).mul regular_one
  next => exact unpack_pack (ofScientific_ne _ _)

theorem exists_ofInt (n : Int) : Exists (Float.ofInt n) := by
  cases n with
  | ofNat n => exact exists_ofNat n
  | negSucc n => exact (exists_ofNat (n + 1)).neg

end Double

end ProcessWatch
