import FilterSql.Decimal.Binary
import Mathlib

/-!
# Which integers are floats

A float has a mantissa of fifty-three binary digits. An integer is converted to the float nearest to
it, which is the integer itself only where its digits have room in a mantissa; and a float that is
equal to an integer is converted to the nearest word with a sign, which is this integer only where
it is within the bounds of these words. How floats are rounded and packed is computed step by step,
along the rules that define it.

## Main definitions

* `Decimal.Normal`: the parts of a float whose mantissa has all its digits;
* `Decimal.Binary.value?`: the value of a finite float;
* `Decimal.Representable`: the integers whose digits have room in a mantissa.

## Main results

* `Decimal.round_of_normal`: rounding does not change an integer that is a float;
* `Decimal.Binary.ofFloat_pack`: a float is read back as the parts that it is made of;
* `Decimal.Binary.toInt?_eq_some_iff`: the integer that a float is equal to;
* `Decimal.value?_ofInt64_iff`: which integers are converted to floats of their value.
-/

namespace FilterSql

namespace Decimal

open Float.Model (Format totalExponent UnpackedFloat)
open Float.Model.UnpackedFloat

/-! ### Integers that are floats -/

/-- The exponent that a float has by the position of its first digit. -/
theorem targetExponent_binary64 (position : Int) :
    Format.binary64.targetExponent position = max (position - 53) (-1074) :=
  rfl

/-- Zeros behind a number move its first digit. -/
theorem log2_mul_two_pow {n : Nat} (h : n ≠ 0) (k : Nat) : (n * 2 ^ k).log2 = n.log2 + k := by
  induction k with
  | zero => simp
  | succ k ih =>
    have hne : n * 2 ^ k ≠ 0 := Nat.mul_ne_zero h (Nat.two_pow_pos k).ne'
    rw [Nat.pow_succ, ← Nat.mul_assoc, Nat.mul_comm _ 2, Nat.log2_two_mul hne, ih, Nat.add_assoc]

/-- Shifting out zeros loses nothing. -/
theorem shiftRight_mul_two_pow (mantissa k : Nat) :
    ExtendedMantissa.mk (mantissa * 2 ^ k) false false >>> k = .mk mantissa false false := by
  induction k generalizing mantissa with
  | zero =>
    rw [Nat.pow_zero, Nat.mul_one]
    rfl
  | succ k ih =>
    have hpow : mantissa * 2 ^ (k + 1) = mantissa * 2 * 2 ^ k := by
      rw [Nat.pow_succ, Nat.mul_comm (2 ^ k), Nat.mul_assoc]
    show ExtendedMantissa.shiftRightOne
      (ExtendedMantissa.mk (mantissa * 2 ^ (k + 1)) false false >>> k) = _
    rw [hpow, ih]
    simp [ExtendedMantissa.shiftRightOne]

/-- The parts of a float whose mantissa has all its digits. -/
structure Normal (mantissa : Nat) (exponent : Int) : Prop where
  /-- The first digit of the mantissa is the last one that it has room for. -/
  log2_mantissa : mantissa.log2 = 52
  /-- The exponent is not too small. -/
  le_exponent : -1022 ≤ exponent
  /-- The exponent is not too large. -/
  exponent_le : exponent ≤ 971

section

variable {mantissa : Nat} {exponent : Int}

/-- A mantissa with all its digits is not zero. -/
theorem Normal.ne_zero (h : Normal mantissa exponent) : mantissa ≠ 0 := by
  rintro rfl
  exact absurd h.log2_mantissa (by decide)

/-- The least and the greatest mantissa with all digits. -/
theorem Normal.bounds (h : Normal mantissa exponent) : 2 ^ 52 ≤ mantissa ∧ mantissa < 2 ^ 53 :=
  (Nat.log2_eq_iff h.ne_zero).1 h.log2_mantissa

/-- The parts of a float stay what they are when there are zeros behind the mantissa. -/
theorem shiftToTargetExponent_of_normal (h : Normal mantissa exponent) (k : Nat) :
    shiftToTargetExponent .binary64 (mantissa * 2 ^ k) (exponent - k) .exact =
      (.mk mantissa false false, exponent) := by
  have hle := h.le_exponent
  have htarget : Format.binary64.targetExponent
      (totalExponent (mantissa * 2 ^ k) (exponent - k)) = exponent := by
    rw [targetExponent_binary64, totalExponent, log2_mul_two_pow h.ne_zero, h.log2_mantissa]
    omega
  have hshift : (exponent - (exponent - k)).toNat = k := by omega
  rw [shiftToTargetExponent, htarget, shiftToExponent, hshift]
  exact Prod.ext (shiftRight_mul_two_pow mantissa k) (Int.sub_add_cancel exponent k)

/-- A number with zeros behind its mantissa is rounded to the float that it is. -/
theorem roundWithAccuracy_of_normal (h : Normal mantissa exponent) (sign : Sign) (k : Nat) :
    roundWithAccuracy .binary64 sign (mantissa * 2 ^ k) (exponent - k) .exact =
      .finite sign mantissa exponent (Nat.pos_of_ne_zero h.ne_zero) := by
  -- after rounding the mantissa is shifted once more, by nothing
  have hsecond := shiftToTargetExponent_of_normal h 0
  rw [Nat.pow_zero, Nat.mul_one, Nat.cast_zero, Int.sub_zero] at hsecond
  have hrounded : (ExtendedMantissa.mk mantissa false false).roundedMantissa = mantissa := rfl
  unfold roundWithAccuracy
  simp only [shiftToTargetExponent_of_normal h k, hrounded, hsecond, dif_neg h.ne_zero]

/-- An integer is rounded to the float that it is equal to. -/
theorem round_of_normal (h : Normal mantissa exponent) (sign : Sign) {n : Nat}
    (hn : n * 2 ^ (-exponent).toNat = mantissa * 2 ^ exponent.toNat) :
    UnpackedFloat.round .binary64 sign n 0 =
      .finite sign mantissa exponent (Nat.pos_of_ne_zero h.ne_zero) := by
  have hle := h.le_exponent
  have hne : n ≠ 0 := by
    rintro rfl
    rw [Nat.zero_mul] at hn
    exact (Nat.mul_ne_zero h.ne_zero (Nat.two_pow_pos _).ne') hn.symm
  -- the number and the mantissa have their first digits at one place
  have hlog : (n.log2 : Int) = 52 + exponent := by
    have hdigits := congrArg Nat.log2 hn
    rw [log2_mul_two_pow hne, log2_mul_two_pow h.ne_zero, h.log2_mantissa] at hdigits
    omega
  have htarget : Format.binary64.targetExponent (totalExponent n 0) = exponent := by
    rw [targetExponent_binary64, totalExponent]
    omega
  -- either digits are missing or there are too many of them
  have hshift : n <<< (0 - exponent).toNat = mantissa * 2 ^ exponent.toNat := by
    rw [Nat.shiftLeft_eq, Int.zero_sub, hn]
  have hexponent : 0 - ((0 - exponent).toNat : Int) = exponent - exponent.toNat := by omega
  unfold UnpackedFloat.round
  simp only [htarget, decreaseExponent, hshift, hexponent]
  exact roundWithAccuracy_of_normal h sign _

/-- Whether a sign is the negative one. -/
def signBit : Sign → Bool
  | .negative => true
  | .positive => false

/-- The bits of a float that has been put together from its parts. -/
theorem toNat_packComponents (sign : Sign) (e : BitVec 11) (m : BitVec 52) :
    (packComponents .binary64 sign e m).toNat =
      (signBit sign).toNat * 2 ^ 63 + e.toNat * 2 ^ 52 + m.toNat := by
  have hsign : sign.toBitVec.toNat = (signBit sign).toNat := by cases sign <;> rfl
  show (sign.toBitVec ++ e ++ m).toNat = _
  rw [BitVec.toNat_append, BitVec.toNat_append, hsign, ← Nat.shiftLeft_add_eq_or_of_lt e.isLt,
    ← Nat.shiftLeft_add_eq_or_of_lt m.isLt, Nat.shiftLeft_eq, Nat.shiftLeft_eq]
  ring

/-- The bits of a float with given parts: the sign, the exponent and the mantissa without its first
digit. -/
theorem toNat_toBits_pack (h : Normal mantissa exponent) (sign : Sign) :
    (Float.toBits (.ofModel (.pack
      (.finite sign mantissa exponent (Nat.pos_of_ne_zero h.ne_zero))))).toNat =
      (signBit sign).toNat * 2 ^ 63 + (exponent + 1075).toNat * 2 ^ 52 + (mantissa - 2 ^ 52) := by
  obtain ⟨hlow, hhigh⟩ := h.bounds
  have hle := h.le_exponent
  have hge := h.exponent_le
  have hscale : (exponent + (Format.binary64.exponentBias : Int) + (52 : Nat)).toNat =
      (exponent + 1075).toNat := by
    show (exponent + 1023 + 52).toNat = _
    omega
  -- the exponent is below that of the infinities, and the mantissa has its first digit
  have hsmall : ¬2048 ≤ (exponent + 1075).toNat + 1 := by omega
  have hdigits : mantissa.log2 + 1 = Format.binary64.mantissaBits :=
    congrArg (· + 1) h.log2_mantissa
  have hpack : UnpackedFloat.pack .binary64
      (.finite sign mantissa exponent (Nat.pos_of_ne_zero h.ne_zero)) =
      packComponents .binary64 sign (.ofNat 11 (exponent + 1075).toNat) (.ofNat 52 mantissa) := by
    simp only [UnpackedFloat.pack, hscale]
    rw [if_neg hsmall, if_pos hdigits]
  show (UnpackedFloat.pack .binary64 _).toNat = _
  rw [hpack, toNat_packComponents, BitVec.toNat_ofNat, BitVec.toNat_ofNat]
  omega

/-- The parts of a float are read back from its bits. -/
theorem Binary.ofFloat_pack (h : Normal mantissa exponent) (sign : Sign) :
    Binary.ofFloat (.ofModel (.pack
      (.finite sign mantissa exponent (Nat.pos_of_ne_zero h.ne_zero)))) =
      .finite (signBit sign) mantissa exponent := by
  obtain ⟨hlow, hhigh⟩ := h.bounds
  have hle := h.le_exponent
  have hge := h.exponent_le
  have hbits := toNat_toBits_pack h sign
  unfold Binary.ofFloat
  generalize (Float.toBits _).toNat = bits at hbits
  -- the three fields of the bits do not overlap
  have hsign : decide (Nat.pow 2 63 ≤ bits) = signBit sign := by
    have hpow : Nat.pow 2 63 = 2 ^ 63 := rfl
    rw [hpow]
    cases sign with
    | negative => exact decide_eq_true (by simp only [signBit, Bool.toNat_true] at hbits; omega)
    | positive => exact decide_eq_false (by simp only [signBit, Bool.toNat_false] at hbits; omega)
  have hscale : bits / Nat.pow 2 52 % 2048 = (exponent + 1075).toNat := by
    show bits / 2 ^ 52 % 2048 = _
    omega
  have hfraction : bits % Nat.pow 2 52 + Nat.pow 2 52 = mantissa := by
    show bits % 2 ^ 52 + 2 ^ 52 = mantissa
    omega
  have hlast : (exponent + 1075).toNat ≠ 2047 := by omega
  have hfirst : (exponent + 1075).toNat ≠ 0 := by omega
  have hback : ((exponent + 1075).toNat : Int) - 1075 = exponent := by omega
  simp only [hsign, hscale, hfraction, if_neg hlast, if_neg hfirst, hback]

end

/-! ### Values of floats -/

/-- A natural number with a sign. -/
def signed (negative : Bool) (n : Nat) : Int :=
  if negative then -n else n

/-- A sign is kept by a product. -/
theorem signed_mul (negative : Bool) (n m : Nat) :
    signed negative (n * m) = signed negative n * m := by
  cases negative <;> simp [signed]

/-- A sign does not change what divides a number. -/
@[simp]
theorem natAbs_signed (negative : Bool) (n : Nat) : (signed negative n).natAbs = n := by
  cases negative <;> simp [signed]

/-- The value of a finite float. -/
def Binary.value? : Binary → Option ℚ
  | .finite negative mantissa exponent => some (signed negative mantissa * 2 ^ exponent)
  | _ => none

/-- A mantissa has at most fifty-three digits. -/
theorem Binary.mantissa_lt {x : Float} {negative : Bool} {mantissa : Nat} {exponent : Int}
    (h : Binary.ofFloat x = .finite negative mantissa exponent) : mantissa < 2 ^ 53 := by
  have hfraction : x.toBits.toNat % Nat.pow 2 52 < 2 ^ 52 := Nat.mod_lt _ (Nat.two_pow_pos 52)
  have hpow : Nat.pow 2 52 = 2 ^ 52 := rfl
  unfold Binary.ofFloat at h
  dsimp only at h
  split_ifs at h
  · injection h with _ hmantissa
    omega
  · injection h with _ hmantissa
    omega

/-- An integer is the value of a float with an exponent that is not negative. -/
theorem Binary.value?_natCast_iff {negative : Bool} {mantissa k : Nat} {n : Int} :
    (Binary.finite negative mantissa k).value? = some (n : ℚ) ↔
      signed negative (mantissa * 2 ^ k) = n := by
  rw [value?, Option.some_inj, zpow_natCast, signed_mul]
  norm_cast

/-- An integer is the value of a float with a negative exponent. -/
theorem Binary.value?_neg_iff {negative : Bool} {mantissa k : Nat} {n : Int} :
    (Binary.finite negative mantissa (-k)).value? = some (n : ℚ) ↔
      signed negative mantissa = n * 2 ^ k := by
  have hpos : (2 : ℚ) ^ k ≠ 0 := by positivity
  rw [value?, Option.some_inj, zpow_neg, zpow_natCast, ← div_eq_mul_inv, div_eq_iff hpos]
  norm_cast

/-- The integer that a float is equal to is its value. -/
theorem Binary.toInt?_eq_some_iff {b : Binary} {n : Int} :
    b.toInt? = some n ↔ b.value? = some (n : ℚ) := by
  cases b with
  | nan | infinite => simp [toInt?, value?]
  | finite negative mantissa exponent =>
    by_cases hexponent : 0 ≤ exponent
    · obtain ⟨k, rfl⟩ := Int.eq_ofNat_of_zero_le hexponent
      rw [value?_natCast_iff]
      simp [toInt?, upward, signed]
    · obtain ⟨k, rfl⟩ : ∃ k : Nat, exponent = -k := ⟨(-exponent).toNat, by omega⟩
      have hunit : upward 2 (- -(k : Int)) = 2 ^ k := by simp [upward]
      have hpos : (2 : Int) ^ k ≠ 0 := by positivity
      rw [value?_neg_iff]
      simp only [toInt?, if_neg hexponent, hunit]
      by_cases hdivides : mantissa % 2 ^ k = 0
      · -- the mantissa is a multiple of the unit, and the integer is how often it holds the unit
        have hmantissa : mantissa = mantissa / 2 ^ k * 2 ^ k :=
          (Nat.div_mul_cancel (Nat.dvd_of_mod_eq_zero hdivides)).symm
        have hsigned : signed negative mantissa = signed negative (mantissa / 2 ^ k) * 2 ^ k := by
          conv_lhs => rw [hmantissa, signed_mul]
          norm_cast
        rw [hsigned, mul_left_inj' hpos]
        simp [hdivides, signed]
      · have hnone : signed negative mantissa ≠ n * 2 ^ k := by
          intro heq
          have habs := congrArg Int.natAbs heq
          rw [natAbs_signed, Int.natAbs_mul, Int.natAbs_pow] at habs
          exact hdivides (Nat.mod_eq_zero_of_dvd ⟨n.natAbs, habs.trans (Nat.mul_comm _ _)⟩)
        simp [hdivides, hnone]

/-! ### Which integers are floats -/

/-- An integer has no more binary digits than a mantissa has room for, besides zeros at its end. -/
def Representable (n : Int) : Prop :=
  ∃ mantissa k : Nat, mantissa < 2 ^ 53 ∧ n.natAbs = mantissa * 2 ^ k

/-- The integers among the values of floats are representable. -/
theorem representable_of_value? {x : Float} {n : Int}
    (h : (Binary.ofFloat x).value? = some (n : ℚ)) : Representable n := by
  cases hx : Binary.ofFloat x with
  | nan | infinite =>
    rw [hx] at h
    cases h
  | finite negative mantissa exponent =>
    have hlt := Binary.mantissa_lt hx
    rw [hx] at h
    by_cases hexponent : 0 ≤ exponent
    · obtain ⟨k, rfl⟩ := Int.eq_ofNat_of_zero_le hexponent
      refine ⟨mantissa, k, hlt, ?_⟩
      rw [← Binary.value?_natCast_iff.1 h, natAbs_signed]
    · obtain ⟨k, rfl⟩ : ∃ k : Nat, exponent = -k := ⟨(-exponent).toNat, by omega⟩
      have habs := congrArg Int.natAbs (Binary.value?_neg_iff.1 h)
      rw [natAbs_signed, Int.natAbs_mul] at habs
      have hle : n.natAbs ≤ mantissa := by
        rw [habs]
        exact Nat.le_mul_of_pos_right _ (Int.natAbs_pos.2 (by positivity))
      exact ⟨n.natAbs, 0, hle.trans_lt hlt, by simp⟩

/-- A representable number other than zero has a mantissa with all its digits. -/
theorem exists_normal {n mantissa k : Nat} (hne : n ≠ 0) (hlog : n.log2 < 1024)
    (hmantissa : mantissa < 2 ^ 53) (hn : n = mantissa * 2 ^ k) :
    ∃ (m : Nat) (e : Int), Normal m e ∧ n * 2 ^ (-e).toNat = m * 2 ^ e.toNat := by
  by_cases hshort : n.log2 ≤ 52
  · -- digits are missing
    refine ⟨n * 2 ^ (52 - n.log2), n.log2 - 52, ⟨?_, by omega, by omega⟩, ?_⟩
    · rw [log2_mul_two_pow hne]
      omega
    · have hshift : (-((n.log2 : Int) - 52)).toNat = 52 - n.log2 := by omega
      have hzero : ((n.log2 : Int) - 52).toNat = 0 := by omega
      rw [hshift, hzero, Nat.pow_zero, Nat.mul_one]
  · -- the digits that are too many are zeros
    have hmantissane : mantissa ≠ 0 := by
      rintro rfl
      exact hne (hn.trans (Nat.zero_mul _))
    have hdigits : n.log2 = mantissa.log2 + k := by rw [hn, log2_mul_two_pow hmantissane]
    have hlt : mantissa.log2 < 53 := (Nat.log2_lt hmantissane).2 hmantissa
    refine ⟨mantissa * 2 ^ (52 - mantissa.log2), n.log2 - 52, ⟨?_, by omega, by omega⟩, ?_⟩
    · rw [log2_mul_two_pow hmantissane]
      omega
    · have hzero : (-((n.log2 : Int) - 52)).toNat = 0 := by omega
      have hk : 52 - mantissa.log2 + ((n.log2 : Int) - 52).toNat = k := by omega
      rw [hzero, Nat.pow_zero, Nat.mul_one, Nat.mul_assoc, ← Nat.pow_add, hk, hn]

/-- A number and the parts of a float that make up the number have one value. -/
theorem Binary.value?_of_mul_eq {negative : Bool} {n mantissa : Nat} {exponent : Int}
    (h : n * 2 ^ (-exponent).toNat = mantissa * 2 ^ exponent.toNat) :
    (Binary.finite negative mantissa exponent).value? = some (signed negative n : ℚ) := by
  rcases exponent.eq_nat_or_neg with ⟨k, rfl | rfl⟩
  · rw [value?_natCast_iff]
    congr 1
    simpa using h.symm
  · rw [value?_neg_iff]
    have hmantissa : mantissa = n * 2 ^ k := by simpa using h.symm
    rw [hmantissa, signed_mul]
    norm_cast

/-- A representable integer other than zero is converted to the float that is equal to it. -/
theorem value?_pack_round {n mantissa k : Nat} (sign : Sign) (hne : n ≠ 0) (hlog : n.log2 < 1024)
    (hmantissa : mantissa < 2 ^ 53) (hn : n = mantissa * 2 ^ k) :
    (Binary.ofFloat (.ofModel (.pack (UnpackedFloat.round .binary64 sign n 0)))).value? =
      some (signed (signBit sign) n : ℚ) := by
  obtain ⟨m, e, hnormal, heq⟩ := exists_normal hne hlog hmantissa hn
  rw [round_of_normal hnormal sign heq, Binary.ofFloat_pack hnormal sign]
  exact Binary.value?_of_mul_eq heq

/-- An integer other than zero is converted by its absolute value, which gets the integer's sign. -/
theorem exists_ofInt64_eq {n : Int64} (hne : n.toInt ≠ 0) :
    ∃ sign, ofInt64 n =
        .ofModel (.pack (UnpackedFloat.round .binary64 sign n.toInt.natAbs 0)) ∧
      signed (signBit sign) n.toInt.natAbs = n.toInt := by
  have hmodel : ofInt64 n =
      .ofModel (.pack (UnpackedFloat.normalize .binary64 n.toInt 0 .positive)) := rfl
  rw [hmodel, UnpackedFloat.normalize]
  rcases lt_or_gt_of_ne hne with hneg | hpos
  · have habs : n.toInt.natAbs = (-n.toInt).toNat := by omega
    refine ⟨.negative, ?_, ?_⟩
    · rw [compare_lt_iff_lt.2 hneg, habs]
    · show -(n.toInt.natAbs : Int) = _
      omega
  · have habs : n.toInt.natAbs = n.toInt.toNat := by omega
    refine ⟨.positive, ?_, ?_⟩
    · rw [compare_gt_iff_gt.2 hpos, habs]
    · show (n.toInt.natAbs : Int) = _
      omega

/-- An integer is converted to the float that is equal to it exactly when there is one. -/
theorem value?_ofInt64_iff (n : Int64) :
    (Binary.ofFloat (ofInt64 n)).value? = some (n.toInt : ℚ) ↔ Representable n.toInt := by
  refine ⟨representable_of_value?, ?_⟩
  rintro ⟨mantissa, k, hmantissa, hn⟩
  by_cases hzero : n.toInt = 0
  · -- zero has no first digit, so it is no case of the others
    have hparts : Binary.ofFloat (ofInt64 0) = .finite false 0 (-(1074 : Nat)) := rfl
    obtain rfl : n = 0 := Int64.toInt_inj.1 hzero
    rw [hparts, Binary.value?_neg_iff]
    exact (Int.zero_mul _).symm
  · have hne : n.toInt.natAbs ≠ 0 := Int.natAbs_ne_zero.2 hzero
    have hlog : n.toInt.natAbs.log2 < 1024 := by
      have hlow := n.le_toInt
      have hhigh := n.toInt_lt
      have hlt : n.toInt.natAbs < 2 ^ 64 := by omega
      exact ((Nat.log2_lt hne).2 hlt).trans (by decide)
    obtain ⟨sign, hround, hsigned⟩ := exists_ofInt64_eq hzero
    rw [hround, value?_pack_round sign hne hlog hmantissa hn]
    exact congrArg (fun z : Int => some (z : ℚ)) hsigned

/-- The word with a sign that is nearest to an integer is this integer when it is within bounds. -/
theorem toInt_clampToInt64_iff {n : Int} :
    (clampToInt64 n).toInt = n ↔ Int64.minValue.toInt ≤ n ∧ n ≤ Int64.maxValue.toInt := by
  have hmin : Int64.minValue.toInt = -2 ^ 63 := rfl
  have hmax : Int64.maxValue.toInt = 2 ^ 63 - 1 := rfl
  rw [clampToInt64, Int64.toInt_ofInt_of_le (by omega) (by omega)]
  omega

end Decimal

end FilterSql
