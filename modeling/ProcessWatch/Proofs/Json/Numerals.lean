import ProcessWatch.Proofs.Json.Definite

/-!
# Numbers that are read

A numeral that is no whole number is read as a double and multiplied or divided by powers of ten.
These are rounded to doubles that are neither zero nor infinite, so what is read is never NaN.

* **`Double.roundWithAccuracy_eq`**, **`Double.unpack_pack_finite`** — rounding leaves 53 bits, and
  packing keeps them if the exponent is within the range.
* **`Double.regular_tenTo`** — the powers of ten that numerals are scaled by are regular.
* **`Numeral.beq_self_of_value?`** — the number that a numeral stands for equals itself.
-/

namespace ProcessWatch

namespace Double

open Float.Model (UnpackedFloat Format)
open Float.Model.UnpackedFloat (finite shiftToTargetExponent unpackExponent_packComponents
  unpackMantissa_packComponents)

/-! ## Rounding

A mantissa is cut at the target exponent, rounded, and cut once more if rounding carried over. After
that it has 53 bits at most, and the exponent is at least the least one. -/

/-- A right shift cuts the bits off a significand, whatever it notes down of them. -/
theorem mantissa_shiftRight (em : UnpackedFloat.ExtendedMantissa) (n : Nat) :
    (em >>> n).mantissa = em.mantissa >>> n := by
  induction n with
  | zero => rfl
  | succ n ih =>
    rw [Nat.shiftRight_succ, ← ih]
    rfl

/-- Rounding adds one to the significand at most. -/
theorem roundedMantissa_cases (em : UnpackedFloat.ExtendedMantissa) :
    em.roundedMantissa = em.mantissa ∨ em.roundedMantissa = em.mantissa + 1 := by
  unfold UnpackedFloat.ExtendedMantissa.roundedMantissa UnpackedFloat.Accuracy.roundToNearestEven
  split
  next => exact .inl rfl
  next => exact .inl rfl
  next => rcases Nat.mod_two_eq_zero_or_one em.mantissa with h | h <;> simp [h]
  next => exact .inr rfl

/-- A mantissa of more than 53 bits is cut to 53. -/
theorem log2_shiftRight {n : Nat} (h : 52 ≤ n.log2) : (n >>> (n.log2 - 52)).log2 = 52 := by
  have hn : n ≠ 0 := by
    rintro rfl
    exact absurd h (by decide)
  -- what is left of the number lies between the powers of two that make 53 bits
  have hpow : 2 ^ n.log2 = 2 ^ (n.log2 - 52) * 2 ^ 52 := by
    rw [← Nat.pow_add, Nat.sub_add_cancel h]
  have hlow : 2 ^ 52 ≤ n >>> (n.log2 - 52) := by
    rw [Nat.shiftRight_eq_div_pow, Nat.le_div_iff_mul_le (Nat.two_pow_pos _), Nat.mul_comm, ← hpow]
    exact Nat.log2_self_le hn
  have hhigh : n >>> (n.log2 - 52) < 2 ^ 53 := by
    rw [Nat.shiftRight_eq_div_pow, Nat.div_lt_iff_lt_mul (Nat.two_pow_pos _)]
    calc n < 2 ^ (n.log2 + 1) := Nat.lt_log2_self
      _ = 2 ^ 53 * 2 ^ (n.log2 - 52) := by rw [← Nat.pow_add]; congr 1; omega
  exact (Nat.log2_eq_iff (by omega)).2 ⟨hlow, hhigh⟩

/-- A number of at least 53 bits is shifted until 53 are left, if the exponent does not get too
small. -/
theorem shiftToTargetExponent_eq {n : Nat} {e : Int} (accuracy : UnpackedFloat.Accuracy)
    (hn : 52 ≤ n.log2) (he : -1074 ≤ e) :
    (shiftToTargetExponent .binary64 n e accuracy).1.mantissa = n >>> (n.log2 - 52) ∧
      (shiftToTargetExponent .binary64 n e accuracy).2 = e + (n.log2 - 52 : Nat) := by
  have htarget : Format.binary64.targetExponent (Float.Model.totalExponent n e)
      = e + (n.log2 - 52 : Nat) := by
    show max ((n.log2 : Int) + 1 + e - 53) (-1074) = _
    omega
  have hshift : (e + (n.log2 - 52 : Nat) - e).toNat = n.log2 - 52 := by omega
  unfold shiftToTargetExponent UnpackedFloat.shiftToExponent
  dsimp only
  rw [htarget, hshift]
  refine ⟨?_, rfl⟩
  rw [mantissa_shiftRight]
  unfold UnpackedFloat.ExtendedMantissa.ofMantissaAndAccuracy
  split <;> rfl

/-- Rounding gives a mantissa of 53 bits. -/
theorem roundWithAccuracy_eq {n : Nat} {e : Int} (sign : UnpackedFloat.Sign)
    (accuracy : UnpackedFloat.Accuracy) (hn : 52 ≤ n.log2) (he : -1074 ≤ e) :
    ∃ m e' pos, UnpackedFloat.roundWithAccuracy .binary64 sign n e accuracy = finite sign m e' pos ∧
      m.log2 = 52 ∧ e ≤ e' ∧ e' ≤ e + n.log2 - 51 := by
  obtain ⟨hcut, hcut_exponent⟩ := shiftToTargetExponent_eq accuracy hn he
  have hcut_log2 := log2_shiftRight hn
  rw [← hcut] at hcut_log2
  unfold UnpackedFloat.roundWithAccuracy
  generalize shiftToTargetExponent .binary64 n e accuracy = cut at *
  obtain ⟨em, e₁⟩ := cut
  dsimp only at *
  -- rounding up may give one bit more, which is cut again
  have hrounded : em.roundedMantissa.log2 = 52 ∨ em.roundedMantissa.log2 = 53 := by
    obtain ⟨hlow, hhigh⟩ := (Nat.log2_eq_iff (by rintro heq; simp [heq] at hcut_log2)).1 hcut_log2
    rcases roundedMantissa_cases em with heq | heq
    · rw [heq]
      exact .inl hcut_log2
    · rcases Nat.lt_or_ge (em.mantissa + 1) (2 ^ 53) with hlt | hge
      · exact .inl (heq ▸ (Nat.log2_eq_iff (by omega)).2 ⟨by omega, hlt⟩)
      · exact .inr (heq ▸ (Nat.log2_eq_iff (by omega)).2 ⟨by omega, by omega⟩)
  obtain ⟨hagain, hagain_exponent⟩ := shiftToTargetExponent_eq .exact
    (n := em.roundedMantissa) (e := e₁) (by omega) (by omega)
  have hagain_log2 := log2_shiftRight (n := em.roundedMantissa) (by omega)
  rw [← hagain] at hagain_log2
  have hpos : (shiftToTargetExponent .binary64 em.roundedMantissa e₁ .exact).1.mantissa ≠ 0 := by
    intro hzero
    rw [hzero] at hagain_log2
    exact absurd hagain_log2 (by decide)
  refine ⟨_, _, _, dif_neg hpos, hagain_log2, ?_, ?_⟩
  · rw [hagain_exponent]
    omega
  · rw [hagain_exponent]
    omega

/-- Finite numbers with equal parts are equal, whatever the proofs that they are positive. -/
theorem finite_congr {sign sign' : UnpackedFloat.Sign} {m m' : Nat} {e e' : Int} {pos : 0 < m}
    {pos' : 0 < m'} (hsign : sign = sign') (hm : m = m') (he : e = e') :
    finite sign m e pos = finite sign' m' e' pos' := by
  subst hsign hm he
  rfl

/-- The sign that was packed is unpacked. -/
theorem unpackSign_packComponents {sign : UnpackedFloat.Sign} {exponent : BitVec 11}
    {mantissa : BitVec 52} :
    UnpackedFloat.unpackSign (UnpackedFloat.packComponents .binary64 sign exponent mantissa)
      = sign.toBitVec := by
  show (sign.toBitVec ++ exponent ++ mantissa).extractLsb' 63 1 = sign.toBitVec
  rw [BitVec.extractLsb'_append_eq_of_le (by decide),
    BitVec.extractLsb'_append_eq_of_le (by decide)]
  cases sign <;> rfl

/-- A mantissa of 53 bits is packed as it is. -/
theorem unpack_pack_finite {sign : UnpackedFloat.Sign} {m : Nat} {e : Int} {pos : 0 < m}
    (hm : m.log2 = 52) (hmin : -1074 ≤ e) (hmax : e ≤ 971) :
    (Float.Model.pack (finite sign m e pos)).unpack = finite sign m e pos := by
  have hbias : (Format.binary64.exponentBias : Int) = 1023 := by decide
  -- the exponent as it is stored: neither the least nor the greatest, which stand for other numbers
  obtain ⟨biased, hbiased, hlow, hhigh⟩ : ∃ biased,
      (e + (Format.binary64.exponentBias : Int) + (52 : Nat)).toNat = biased ∧ 0 < biased ∧
        biased < 2047 := ⟨_, rfl, by omega, by omega⟩
  have hbits : m.log2 + 1 = Format.binary64.mantissaBits := congrArg (· + 1) hm
  have hpack : UnpackedFloat.pack .binary64 (finite sign m e pos)
      = UnpackedFloat.packComponents .binary64 sign (BitVec.ofNat 11 biased)
          (BitVec.ofNat 52 m) := by
    unfold UnpackedFloat.pack
    dsimp only
    rw [hbiased, if_neg (show ¬ 2048 ≤ biased + 1 by omega), if_pos hbits]
  have hnat : (BitVec.ofNat 11 biased).toNat = biased := Nat.mod_eq_of_lt (by omega)
  have hnot_last : BitVec.ofNat 11 biased ≠ -1#11 := by
    intro heq
    have hlast : (-1#11).toNat = 2047 := by decide
    rw [heq] at hnat
    omega
  have hnot_first : BitVec.ofNat 11 biased ≠ 0#11 := by
    intro heq
    rw [heq] at hnat
    exact absurd hnat (Nat.ne_of_lt hlow)
  have hunpack : (Float.Model.pack (finite sign m e pos)).unpack
      = UnpackedFloat.unpack .binary64 (UnpackedFloat.packComponents .binary64 sign
          (BitVec.ofNat 11 biased) (BitVec.ofNat 52 m)) :=
    congrArg (UnpackedFloat.unpack .binary64) hpack
  -- the first of the 53 bits is not stored, and it is put back when the number is unpacked
  have hmantissa : (1#1 ++ BitVec.ofNat 52 m).toNat = m := by
    obtain ⟨hleast, hmost⟩ := (Nat.log2_eq_iff (Nat.ne_of_gt pos)).1 hm
    rw [BitVec.toNat_append, BitVec.toNat_ofNat, BitVec.toNat_ofNat, Nat.shiftLeft_eq,
      Nat.mul_comm, ← Nat.two_pow_add_eq_or_of_lt (Nat.mod_lt _ (Nat.two_pow_pos 52))]
    omega
  have hexponent : (biased : Int)
      - ((Format.binary64.exponentBias : Int) + (52 : Nat)) = e := by
    omega
  rw [hunpack]
  unfold UnpackedFloat.unpack
  dsimp only
  rw [if_neg fun heq => hnot_last (unpackExponent_packComponents.symm.trans heq),
    if_neg fun heq => hnot_first (unpackExponent_packComponents.symm.trans heq)]
  refine finite_congr ?_ ?_ ?_
  · rw [unpackSign_packComponents]
    cases sign <;> rfl
  · rw [unpackMantissa_packComponents]
    exact hmantissa
  · rw [unpackExponent_packComponents, hnat]
    exact hexponent

/-- So a number of 53 bits in this range is regular as a double. -/
theorem regular_pack {sign : UnpackedFloat.Sign} {m : Nat} {e : Int} {pos : 0 < m}
    (hm : m.log2 = 52) (hmin : -1074 ≤ e) (hmax : e ≤ 971) :
    Regular ⟨Float.Model.pack (finite sign m e pos)⟩ :=
  congrArg regular (unpack_pack_finite hm hmin hmax)

/-! ## Powers of ten -/

/-- A power of ten beyond those that are listed, and well below the greatest double. -/
theorem regular_tenTo_of_lt {k : Nat} (hk : 22 < k) (hmax : k < 308) :
    Regular (Numeral.tenTo k) := by
  have hpower : 10 ^ k < 2 ^ 1020 :=
    calc 10 ^ k ≤ 10 ^ 307 := Nat.pow_le_pow_right (by decide) (by omega)
      _ < 2 ^ 1020 := by decide +kernel
  have hten : 0 < 10 ^ k := Nat.pow_pos (by decide)
  -- the power is rounded with 53 further bits
  let n := 2 ^ 53 * 10 ^ k
  have hn : n ≠ 0 := Nat.ne_of_gt (Nat.mul_pos (by decide) hten)
  have hlow : 52 ≤ n.log2 := (Nat.le_log2 hn).2 (by show 2 ^ 52 ≤ 2 ^ 53 * 10 ^ k; omega)
  have hhigh : n.log2 < 1073 := (Nat.log2_lt hn).2 (by
    show 2 ^ 53 * 10 ^ k < 2 ^ 1073
    omega)
  obtain ⟨m, e, pos, hround, hm, hfrom, hto⟩ :=
    roundWithAccuracy_eq (e := -53) .positive .exact hlow (by decide)
  have hscientific : Numeral.tenTo k
      = ⟨Float.Model.pack (UnpackedFloat.ofScientific .binary64 1 k)⟩ := by
    show Float.ofScientific 1 false k = _
    unfold Float.ofScientific
    rw [dif_neg (by omega)]
    rfl
  have hof : UnpackedFloat.ofScientific .binary64 1 k
      = UnpackedFloat.roundWithAccuracy .binary64 .positive n (-53) .exact := by
    have hlimit : (2 : Int) ^ Format.binary64.exponentBits = 2048 := by decide
    unfold UnpackedFloat.ofScientific
    rw [dif_neg (by decide), hlimit, if_neg (by omega), if_neg (by omega),
      if_pos (Int.natCast_nonneg k)]
    rfl
  rw [hscientific, hof, hround]
  exact regular_pack hm (by omega) (by omega)

/-- The first powers of ten are listed as doubles, and the last one is rounded close to the greatest
double. -/
theorem regular_tenTo {k : Nat} (h : k ≤ 308) : Regular (Numeral.tenTo k) := by
  have hexact : ∀ k < 23, Regular (Numeral.tenTo k) := by decide +kernel
  rcases Nat.lt_or_ge k 23 with hlt | hge
  · exact hexact k hlt
  · rcases Nat.lt_or_ge k 308 with hlt | hge
    · exact regular_tenTo_of_lt hge hlt
    · obtain rfl : k = 308 := by omega
      decide +kernel

end Double

/-! ## Numerals -/

namespace Numeral

/-- A number that is scaled by a power of ten does not become NaN. The powers are regular, and a
number that is too small for one of them is divided in two steps. -/
theorem exists_of_scale? {x y : Float} {power : Int} (hx : Double.Exists x)
    (h : scale? x power = some y) : Double.Exists y := by
  -- each way scales by regular powers of ten, once or twice, or gives zero
  unfold scale? at h
  split at h
  next =>
    split at h
    next =>
      cases h
      exact hx
    next => cases h
  next =>
    split at h
    next =>
      dsimp only at h
      split at h
      next => cases h
      next =>
        cases h
        exact hx.mul (Double.regular_tenTo (by omega))
    next =>
      split at h
      next =>
        cases h
        exact hx.div (Double.regular_tenTo (by omega))
      next =>
        split at h
        next =>
          cases h
          exact (hx.div (Double.regular_tenTo (by decide))).div (Double.regular_tenTo (by omega))
        next =>
          cases h
          exact Double.beq_self_iff.1 (by decide +kernel)

/-- The number that a numeral stands for is no NaN. -/
theorem beq_self_of_value? {n : Numeral} {value : Number} (h : n.value? = some value) :
    (value == value) = true := by
  -- the sign comes last, and a negative zero is a double too
  have hmagnitude : Double.Exists n.significand.toUInt64.toFloat := Double.exists_toFloat _
  unfold value? at h
  dsimp only at h
  split at h
  next =>
    obtain ⟨x, hx, rfl⟩ := Option.map_eq_some_iff.1 h
    have hscaled : Double.Exists x := exists_of_scale? hmagnitude hx
    show ((if n.negative then -x else x) == _) = true
    split
    next => exact Double.beq_self_iff.2 hscaled.neg
    next => exact Double.beq_self_iff.2 hscaled
  next =>
    split at h
    next =>
      split at h
      next =>
        cases h
        exact Double.beq_self_iff.2 hmagnitude.neg
      next =>
        cases h
        exact beq_self_eq_true (-n.significand : Int)
    next =>
      cases h
      exact beq_self_eq_true (n.significand : Int)

end Numeral

end ProcessWatch
