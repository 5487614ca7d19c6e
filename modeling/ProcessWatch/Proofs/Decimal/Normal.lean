import Mathlib.Algebra.GroupWithZero.Nat
import ProcessWatch.Decimal.Fixed
import ProcessWatch.Proofs.Json.Numerals

/-!
# Doubles with a full significand

A positive double that is neither very small nor infinite is a significand of 53 bits times a power
of two. Arithmetic rounds to such doubles, and what needs no rounding stays as it is: a whole number
below `2 ^ 53`, and a double that is divided by a power of two.

## The architecture

* **`Binary64.ofFloat_eq`** — the parts that are read from the bits are those that the double is
  unpacked to.
* **`Double.Normal`** — a significand of 53 bits with a power of two, and the double that it is.
* **`Double.roundWithAccuracy_shiftLeft`** — zeros after the 53 bits are rounded away without loss.
* **`Double.Normal.toFloat_ofNat`**, **`Double.Normal.toFloat_div`** — whole numbers, and the
  quotient by a power of two.
* **`Double.Normal.le_iff`** — one power of two up is more than any significand.
-/

namespace ProcessWatch

open Float.Model (UnpackedFloat Format)
open Float.Model.UnpackedFloat (finite)

/-! ## The parts of a double -/

namespace Binary64

/-- The parts of a double that is unpacked. -/
def ofUnpacked : UnpackedFloat → Binary64
  | .notANumber => .nan
  | .infinity sign => .infinite (sign == .negative)
  | .zero sign => .finite (sign == .negative) 0 (-1074)
  | .finite sign significand exponent _ => .finite (sign == .negative) significand exponent

section

variable (bits : BitVec Format.binary64.numBits)

/-- The exponent of a double, as a number: the eleven bits above the mantissa. -/
theorem toNat_unpackExponent :
    (UnpackedFloat.unpackExponent bits).toNat = bits.toNat >>> 52 % 1 <<< 11 := by
  unfold UnpackedFloat.unpackExponent
  simp [BitVec.extractLsb]

/-- The mantissa, as a number: the lowest 52 bits. -/
theorem toNat_unpackMantissa :
    (UnpackedFloat.unpackMantissa bits).toNat = bits.toNat % 1 <<< 52 := by
  unfold UnpackedFloat.unpackMantissa
  simp [BitVec.extractLsb]

theorem toNat_unpackSign : (UnpackedFloat.unpackSign bits).toNat = bits.toNat >>> 63 := by
  have hbits : bits.toNat < 2 ^ 64 := bits.isLt
  unfold UnpackedFloat.unpackSign
  simp [BitVec.extractLsb, Nat.shiftRight_eq_div_pow]
  omega

/-- The highest bit is set in the negative doubles. -/
theorem negative_unpackSign :
    (UnpackedFloat.Sign.ofBitVec (UnpackedFloat.unpackSign bits) == .negative)
      = (bits.toNat >>> 63 == 1) := by
  rw [← toNat_unpackSign]
  generalize UnpackedFloat.unpackSign bits = sign
  revert sign
  decide

end

/-- The bits of a double spell the parts that it is unpacked to. -/
theorem ofFloat_eq (x : Float) : ofFloat x = ofUnpacked x.toModel.unpack := by
  obtain ⟨bits, hbits⟩ : ∃ bits : BitVec Format.binary64.numBits,
      x.toModel.toBits.toBitVec = bits := ⟨_, rfl⟩
  have hnat : x.toBits.toNat = bits.toNat := congrArg BitVec.toNat hbits
  unfold ofFloat Float.Model.unpack UnpackedFloat.unpack
  rw [hnat, hbits]
  dsimp only
  rw [← toNat_unpackExponent, ← toNat_unpackMantissa, ← negative_unpackSign]
  have hlast (v : BitVec 11) : v = -1#11 ↔ v.toNat = 1 <<< 11 - 1 :=
    ⟨fun h => by rw [h]; rfl, fun h => BitVec.eq_of_toNat_eq h⟩
  have hzero {n : Nat} (v : BitVec n) : v = 0#n ↔ v.toNat = 0 := by
    rw [← BitVec.toNat_inj, BitVec.toNat_ofNat, Nat.zero_mod]
  by_cases hinfinite : UnpackedFloat.unpackExponent bits = -1#11
  · rw [if_pos ((hlast _).1 hinfinite), if_pos hinfinite]
    by_cases hm : UnpackedFloat.unpackMantissa bits = 0#52
    · rw [if_pos ((hzero _).1 hm), if_pos hm]
      rfl
    · rw [if_neg fun h => hm ((hzero _).2 h), if_neg hm]
      rfl
  · rw [if_neg fun h => hinfinite ((hlast _).2 h), if_neg hinfinite]
    by_cases hsmall : UnpackedFloat.unpackExponent bits = 0#11
    · rw [if_pos ((hzero _).1 hsmall), if_pos hsmall]
      by_cases hm : UnpackedFloat.unpackMantissa bits = 0#52
      · rw [dif_pos hm, (hzero _).1 hm]
        rfl
      · rw [dif_neg hm, (hzero _).1 hsmall]
        rfl
    · rw [if_neg fun h => hsmall ((hzero _).2 h), if_neg hsmall]
      -- the first bit of a full significand is not written
      have hfirst : (1#1 ++ UnpackedFloat.unpackMantissa bits).toNat
          = 1 <<< 52 + (UnpackedFloat.unpackMantissa bits).toNat := by
        rw [BitVec.toNat_append, ← Nat.shiftLeft_add_eq_or_of_lt (BitVec.isLt _)]
        rfl
      exact congrArg (Binary64.finite _ · _) hfirst.symm

end Binary64

namespace Double

open Float.Model (totalExponent)
open Float.Model.UnpackedFloat (ExtendedMantissa roundWithAccuracy shiftToTargetExponent)

/-! ## Rounding without loss

A result that is exact up to zeros at its end is rounded to itself. This is all that is needed of
rounding here: whole numbers, quotients by powers of two and products with one are of that kind. -/

/-- Zeros that are shifted out leave nothing behind. -/
theorem shiftLeft_shiftRight (m k : Nat) :
    ExtendedMantissa.ofMantissaAndAccuracy (m <<< k) .exact >>> k
      = .ofMantissaAndAccuracy m .exact := by
  induction k generalizing m with
  | zero => rfl
  | succ k ih =>
    have hdouble : m <<< (k + 1) = (m <<< 1) <<< k := by
      rw [← Nat.shiftLeft_add, Nat.add_comm]
    show ExtendedMantissa.shiftRightOne
      (ExtendedMantissa.ofMantissaAndAccuracy (m <<< (k + 1)) .exact >>> k) = _
    rw [hdouble, ih]
    simp [ExtendedMantissa.ofMantissaAndAccuracy, ExtendedMantissa.shiftRightOne,
      Nat.shiftLeft_eq]

/-- Shifting a number that is not zero adds to its logarithm. -/
theorem log2_shiftLeft {m : Nat} (h : m ≠ 0) (k : Nat) : (m <<< k).log2 = m.log2 + k := by
  induction k with
  | zero => rfl
  | succ k ih =>
    have hk : m <<< k ≠ 0 := Nat.ne_of_gt (Nat.shiftLeft_pos_iff.2 (Nat.pos_of_ne_zero h))
    rw [Nat.shiftLeft_succ, Nat.log2_two_mul hk, ih]
    rfl

/-- A significand of 53 bits with zeros after it is rounded to itself. -/
theorem roundWithAccuracy_shiftLeft {m : Nat} {e : Int} (sign : UnpackedFloat.Sign) (pos : 0 < m)
    (hm : m.log2 = 52) (he : -1074 ≤ e) (k : Nat) :
    roundWithAccuracy .binary64 sign (m <<< k) (e - k) .exact = finite sign m e pos := by
  have htarget (k : Nat) :
      Format.binary64.targetExponent (totalExponent (m <<< k) (e - k)) = e := by
    show max (((m <<< k).log2 : Int) + 1 + (e - k) - 53) (-1074) = e
    rw [log2_shiftLeft (Nat.ne_of_gt pos)]
    omega
  -- the zeros that were shifted in are all that is cut off
  have hcut (k : Nat) : shiftToTargetExponent .binary64 (m <<< k) (e - k) .exact
      = (.ofMantissaAndAccuracy m .exact, e) := by
    unfold shiftToTargetExponent UnpackedFloat.shiftToExponent
    dsimp only
    rw [htarget]
    have hshift : (e - (e - k)).toNat = k := by omega
    rw [hshift, shiftLeft_shiftRight, Int.sub_add_cancel]
  -- the second pass, after the rounding, has nothing left to cut
  have hagain : shiftToTargetExponent .binary64 m e .exact
      = (.ofMantissaAndAccuracy m .exact, e) := by simpa using hcut 0
  unfold roundWithAccuracy
  rw [hcut]
  dsimp only
  have hrounded : (ExtendedMantissa.ofMantissaAndAccuracy m .exact).roundedMantissa = m := rfl
  rw [hrounded, hagain]
  exact dif_neg (Nat.ne_of_gt pos)

/-- Rounding leaves a mantissa of 53 bits alone. -/
theorem roundWithAccuracy_full {m : Nat} {e : Int} (sign : UnpackedFloat.Sign) (pos : 0 < m)
    (hm : m.log2 = 52) (he : -1074 ≤ e) :
    roundWithAccuracy .binary64 sign m e .exact = finite sign m e pos := by
  have hexact := roundWithAccuracy_shiftLeft sign pos hm he 0
  rwa [Nat.shiftLeft_zero, Int.natCast_zero, Int.sub_zero] at hexact

/-- A significand of 53 bits is divided by another one after 53 zeros. -/
theorem divCore_eq {m d : Nat} {e f : Int} (hm : m.log2 = 52) (hd : d.log2 = 52)
    (h : -1074 ≤ e - f - 53) :
    UnpackedFloat.divCore .binary64 m e d f
      = ((m <<< 53) / d, e - f - 53, UnpackedFloat.accuracyOfFraction ((m <<< 53) % d) d) := by
  have htarget : Format.binary64.targetExponent (totalExponent m e - totalExponent d f)
      = e - f - 53 := by
    show max ((m.log2 : Int) + 1 + e - ((d.log2 : Int) + 1 + f) - 53) (-1074) = _
    rw [hm, hd]
    omega
  have hmin : min (e - f) (e - f - 53) = e - f - 53 := by omega
  have hshift : (e - f - (e - f - 53)).toNat = 53 := by omega
  unfold UnpackedFloat.divCore
  dsimp only
  rw [htarget, hmin, hshift]

/-- A power of two leaves one of the zeros. -/
theorem divCore_twoTo {m k : Nat} {e : Int} (hm : m.log2 = 52) (h : -1074 < e - k) :
    UnpackedFloat.divCore .binary64 m e (2 ^ 52) (k - 52)
      = (m <<< 1, e - k - (1 : Nat), .exact) := by
  have hexponent : e - (k - 52) - 53 = e - k - (1 : Nat) := by omega
  have hzeros : m <<< 53 = m <<< 1 * 2 ^ 52 := by
    rw [← Nat.shiftLeft_eq, ← Nat.shiftLeft_add]
  rw [divCore_eq hm (by decide) (by omega), hexponent, hzeros,
    Nat.mul_div_cancel _ (Nat.two_pow_pos 52), Nat.mul_mod_left]
  rfl

/-! ## Full significands -/

/-- A significand of 53 bits, and a power of two in the range of doubles. -/
structure Normal where
  significand : Nat
  exponent : Int
  full : significand.log2 = 52
  least : -1074 ≤ exponent
  greatest : exponent ≤ 971

namespace Normal

/-- The significand of a normal number is positive. -/
theorem pos (n : Normal) : 0 < n.significand := by
  refine Nat.pos_of_ne_zero fun hzero => ?_
  have hfull := n.full
  rw [hzero] at hfull
  exact absurd hfull (by decide)

/-- The double `significand * 2 ^ exponent`. -/
def toFloat (n : Normal) : Float :=
  ⟨Float.Model.pack (finite .positive n.significand n.exponent n.pos)⟩

/-- The double of a normal number unpacks to its significand and exponent. -/
theorem unpack_toFloat (n : Normal) :
    n.toFloat.toModel.unpack = finite .positive n.significand n.exponent n.pos :=
  unpack_pack_finite n.full n.least n.greatest

/-- So the decimal side sees the same number as the arithmetic does. -/
theorem ofFloat_toFloat (n : Normal) :
    Binary64.ofFloat n.toFloat = .finite false n.significand n.exponent := by
  rw [Binary64.ofFloat_eq, unpack_toFloat]
  rfl

/-- The same significand with a power of two that is `down` lower. -/
def lower (n : Normal) (down : Nat) (h : -1074 ≤ n.exponent - down) : Normal where
  significand := n.significand
  exponent := n.exponent - down
  full := n.full
  least := h
  greatest := by
    have := n.greatest
    omega

theorem lower_zero (n : Normal) (h : -1074 ≤ n.exponent - (0 : Nat)) : n.lower 0 h = n := by
  unfold lower
  simp

/-- To lower an exponent twice is to lower it by both at once. -/
theorem lower_lower (n : Normal) {down further : Nat} (h : -1074 ≤ n.exponent - down)
    (hfurther : -1074 ≤ (n.lower down h).exponent - further)
    (hboth : -1074 ≤ n.exponent - (down + further : Nat)) :
    (n.lower down h).lower further hfurther = n.lower (down + further) hboth := by
  unfold lower
  simp [Int.sub_sub]

/-- A power of two as a double. -/
def twoTo (k : Nat) (h : k ≤ 1023) : Normal := ⟨2 ^ 52, k - 52, by decide, by omega, by omega⟩

/-- A double that is divided by a power of two keeps its significand. -/
theorem toFloat_div (n : Normal) {k : Nat} (hk : k ≤ 1023) (h : -1074 < n.exponent - k) :
    n.toFloat / (twoTo k hk).toFloat = (n.lower k (Int.le_of_lt h)).toFloat := by
  have hdiv : n.toFloat / (twoTo k hk).toFloat
      = ⟨Float.Model.pack (UnpackedFloat.div .binary64 n.toFloat.toModel.unpack
          (twoTo k hk).toFloat.toModel.unpack)⟩ := rfl
  -- the significand of a power of two divides exactly, so the quotient only loses exponent
  have hquotient : UnpackedFloat.div .binary64
      (finite .positive n.significand n.exponent n.pos)
        (finite .positive (2 ^ 52) (k - 52) (twoTo k hk).pos)
      = finite .positive n.significand (n.exponent - k) n.pos := by
    unfold UnpackedFloat.div
    dsimp only
    rw [divCore_twoTo n.full h]
    exact roundWithAccuracy_shiftLeft _ n.pos n.full (Int.le_of_lt h) 1
  rw [hdiv, unpack_toFloat, unpack_toFloat]
  exact congrArg (fun u => (⟨Float.Model.pack u⟩ : Float)) hquotient

/-- The least of the listed powers of ten is one. -/
theorem toFloat_mul_one (n : Normal) :
    n.toFloat * Float.exactlyRepresentablePowersOfTen[0] = n.toFloat := by
  have hone : Float.exactlyRepresentablePowersOfTen[0].toModel.unpack
      = finite .positive (2 ^ 52) (-52) (Nat.two_pow_pos 52) := rfl
  have hmul : n.toFloat * Float.exactlyRepresentablePowersOfTen[0]
      = ⟨Float.Model.pack (UnpackedFloat.mul .binary64 n.toFloat.toModel.unpack
          Float.exactlyRepresentablePowersOfTen[0].toModel.unpack)⟩ := rfl
  -- one is a significand of 53 bits too, so the product has zeros behind it
  have hproduct : UnpackedFloat.mul .binary64
      (finite .positive n.significand n.exponent n.pos)
        (finite .positive (2 ^ 52) (-52) (Nat.two_pow_pos 52))
      = finite .positive n.significand n.exponent n.pos := by
    unfold UnpackedFloat.mul
    dsimp only
    rw [← Nat.shiftLeft_eq]
    exact roundWithAccuracy_shiftLeft _ n.pos n.full n.least 52
  rw [hmul, unpack_toFloat, hone, hproduct]
  rfl

/-- A whole number with zeros after it up to 53 bits. -/
def ofNat (b : Nat) (pos : 0 < b) (h : b < 2 ^ 53) : Normal where
  significand := b <<< (52 - b.log2)
  exponent := b.log2 - 52
  full := by
    have hlog := (Nat.log2_lt (Nat.ne_of_gt pos)).2 h
    rw [log2_shiftLeft (Nat.ne_of_gt pos)]
    omega
  least := by omega
  greatest := by
    have hlog := (Nat.log2_lt (Nat.ne_of_gt pos)).2 h
    omega

section

variable {b : Nat} (pos : 0 < b) (h : b < 2 ^ 53)

/-- An integer below 2 ^ 53 is rounded to the normal number that it is. -/
theorem round_ofNat : UnpackedFloat.round .binary64 .positive b 0
    = finite .positive (ofNat b pos h).significand (ofNat b pos h).exponent
      (ofNat b pos h).pos := by
  have hlog := (Nat.log2_lt (Nat.ne_of_gt pos)).2 h
  have htarget : Format.binary64.targetExponent (totalExponent b 0) = b.log2 - 52 := by
    show max ((b.log2 : Int) + 1 + 0 - 53) (-1074) = _
    omega
  have hshift : (0 - ((b.log2 : Int) - 52)).toNat = 52 - b.log2 := by omega
  have hexponent : (0 : Int) - (52 - b.log2 : Nat) = b.log2 - 52 := by omega
  unfold UnpackedFloat.round UnpackedFloat.decreaseExponent
  dsimp only
  rw [htarget, hshift, hexponent]
  exact roundWithAccuracy_full _ (ofNat b pos h).pos (ofNat b pos h).full (ofNat b pos h).least

/-- Its double is that normal number. -/
theorem toFloat_toUInt64 : b.toUInt64.toFloat = (ofNat b pos h).toFloat := by
  have hcompare : compare (b : Int) 0 = .gt := Int.compare_eq_gt.2 (by omega)
  have hnat : b.toUInt64.toNat = b := UInt64.toNat_ofNat_of_lt' (Nat.lt_trans h (by decide))
  show (⟨Float.Model.pack (UnpackedFloat.normalize .binary64 (b.toUInt64.toNat : Int) 0
    .positive)⟩ : Float) = _
  rw [hnat]
  unfold UnpackedFloat.normalize
  rw [hcompare]
  dsimp only
  rw [Int.toNat_natCast, round_ofNat pos h]
  rfl

/-- A whole number below `2 ^ 53` is a double without rounding. -/
theorem toFloat_ofNat : Float.ofNat b = (ofNat b pos h).toFloat := by
  have hof : Float.ofNat b = b.toUInt64.toFloat * Float.exactlyRepresentablePowersOfTen[0] := by
    show Float.ofScientific b false 0 = _
    unfold Float.ofScientific
    rw [dif_pos ⟨h, by decide⟩]
    rfl
  rw [hof, toFloat_toUInt64 pos h, toFloat_mul_one]

end

/-- Normal numbers here have no sign, so they are all positive. -/
theorem toFloat_pos (n : Normal) : 0 < n.toFloat := by
  have hlt : 0 < n.toFloat ↔
      ((0 : Float).toModel.unpack.compare n.toFloat.toModel.unpack == some .lt) = true :=
    decide_eq_true_iff
  have hzero : (0 : Float).toModel.unpack = .zero .positive := rfl
  rw [hlt, unpack_toFloat, hzero]
  rfl

/-- Of two doubles the one with the higher power of two is greater, or else the one with the greater
significand. -/
theorem le_iff (m n : Normal) : m.toFloat ≤ n.toFloat ↔
    m.exponent < n.exponent ∨ m.exponent = n.exponent ∧ m.significand ≤ n.significand := by
  have hle : m.toFloat ≤ n.toFloat ↔
      (m.toFloat.toModel.unpack.compare n.toFloat.toModel.unpack).any Ordering.isLE = true :=
    decide_eq_true_iff
  rw [hle, unpack_toFloat, unpack_toFloat]
  show ((compare m.exponent n.exponent).then (compare m.significand n.significand)).isLE = true ↔ _
  rw [Ordering.isLE_then_iff_or, Int.compare_eq_lt, Int.compare_eq_eq, Nat.isLE_compare]

end Normal

end Double

end ProcessWatch
