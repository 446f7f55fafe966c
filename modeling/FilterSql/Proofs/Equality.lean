import FilterSql.Proofs.Tables
import Mathlib

/-!
# When stored values are the same

Values that are the same as a third one are the same. This takes an argument where an integer is
compared with floats: a float is read as a mantissa and an exponent, and two floats of one value must
be equal. Every finite float is an integer multiple of the least positive one, and without its sign
this integer is ordered as the float's bits are.

## Main definitions

* `Decimal.scaled`: the value of a finite float in units of the least positive one.

## Main results

* `Decimal.strictMono_magnitude`: floats without their signs are ordered as their bits;
* `Decimal.beq_of_scaled_eq`: floats of one value are equal;
* `Cell.same_self`, `Cell.same_of_same`: a stored value that is not null is the same as itself, and
  values that are the same as a third one are the same.
-/

namespace FilterSql

namespace Decimal

/-- The value of a float without its sign in units of the least positive one, by its lower
sixty-three bits. -/
def magnitude (low : Nat) : Nat :=
  if low / 2 ^ 52 = 0 then low % 2 ^ 52 else (low % 2 ^ 52 + 2 ^ 52) * 2 ^ (low / 2 ^ 52 - 1)

/-- Floats without their signs are ordered as their bits. -/
theorem strictMono_magnitude : StrictMono magnitude := by
  refine strictMono_nat_of_lt_succ fun low => ?_
  unfold magnitude
  by_cases hcarry : low % 2 ^ 52 = 2 ^ 52 - 1
  · -- the fraction is exhausted, so the next float has a greater scale and no fraction
    obtain ⟨hscale, hfraction⟩ : (low + 1) / 2 ^ 52 = low / 2 ^ 52 + 1 ∧ (low + 1) % 2 ^ 52 = 0 := by
      omega
    rw [hscale, hfraction, hcarry, if_neg (Nat.succ_ne_zero _), Nat.add_sub_cancel, Nat.zero_add]
    split
    · next hzero =>
      rw [hzero]
      decide
    · next hne =>
      obtain ⟨k, hk⟩ := Nat.exists_eq_succ_of_ne_zero hne
      rw [hk, Nat.succ_sub_one, Nat.pow_succ 2 k]
      have hpos := Nat.two_pow_pos k
      omega
  · obtain ⟨hscale, hfraction⟩ : (low + 1) / 2 ^ 52 = low / 2 ^ 52 ∧
        (low + 1) % 2 ^ 52 = low % 2 ^ 52 + 1 := by
      omega
    rw [hscale, hfraction]
    split
    · omega
    · exact Nat.mul_lt_mul_of_pos_right (by omega) (Nat.two_pow_pos _)

/-- Only the zeros have no magnitude. -/
theorem eq_zero_of_magnitude {low : Nat} (h : magnitude low = 0) : low = 0 :=
  strictMono_magnitude.injective (h.trans rfl)

/-- The sign bit of a float. -/
def isNegative (x : Float) : Bool :=
  decide (Nat.pow 2 63 ≤ x.toBits.toNat)

/-- The value of a finite float in units of the least positive one. -/
def scaled (x : Float) : Int :=
  if isNegative x then -(magnitude (x.toBits.toNat % 2 ^ 63) : Int)
  else magnitude (x.toBits.toNat % 2 ^ 63)

/-- The parts of a finite float: its sign bit, and a mantissa and an exponent that make up its
magnitude. -/
theorem Binary.ofFloat_eq_finite {x : Float} {negative : Bool} {mantissa : Nat} {exponent : Int}
    (h : ofFloat x = .finite negative mantissa exponent) :
    negative = isNegative x ∧ -1074 ≤ exponent ∧
      mantissa * 2 ^ (exponent + 1074).toNat = magnitude (x.toBits.toNat % 2 ^ 63) := by
  have hlow : x.toBits.toNat % 2 ^ 63 / 2 ^ 52 = x.toBits.toNat / Nat.pow 2 52 % 2048 ∧
      x.toBits.toNat % 2 ^ 63 % 2 ^ 52 = x.toBits.toNat % Nat.pow 2 52 := by
    norm_num
    omega
  unfold ofFloat at h
  unfold magnitude
  rw [hlow.1, hlow.2]
  dsimp only at h
  -- only above the least scale does the fraction stand behind a one
  split_ifs at h with hlast hfraction hzero
  · injection h with hnegative hmantissa hexponent
    subst hmantissa hexponent
    rw [if_pos hzero]
    exact ⟨hnegative.symm, by omega, by simp⟩
  · injection h with hnegative hmantissa hexponent
    subst hmantissa hexponent
    rw [if_neg hzero]
    refine ⟨hnegative.symm, by omega, ?_⟩
    congr 2
    omega

/-- What is no number is read as none. -/
theorem Binary.ofFloat_nan : ofFloat Float.nan = .nan := by rfl

/-- Floats of one value are equal: they have the same bits, or are the two zeros. -/
theorem beq_of_scaled_eq {x y : Float} (hx : x ≠ Float.nan) (hy : y ≠ Float.nan)
    (h : scaled x = scaled y) : (x == y) = true := by
  have hinjective := strictMono_magnitude.injective
  have hxlt := x.toBits.toNat_lt
  have hylt := y.toBits.toNat_lt
  have hpow : Nat.pow 2 63 = 2 ^ 63 := rfl
  rw [Float.beq_iff_ne_nan_and_eq]
  refine ⟨hx, hy, ?_⟩
  have hpositive : ((0 : Float).toBits.toNat = 0) := rfl
  have hnegative : ((-0 : Float).toBits.toNat = 2 ^ 63) := rfl
  simp only [← Float.toBits_inj, ← UInt64.toNat_inj, hpositive, hnegative]
  -- floats of different signs have one value only if both are zero
  have hzeros {m n : Nat} (hvalue : (m : Int) = -(n : Int)) : m = 0 ∧ n = 0 := by omega
  unfold scaled isNegative at h
  by_cases hxneg : Nat.pow 2 63 ≤ x.toBits.toNat <;>
    by_cases hyneg : Nat.pow 2 63 ≤ y.toBits.toNat <;>
    simp only [hxneg, hyneg, decide_true, decide_false, if_true, if_false, Bool.false_eq_true] at h
  · have hlow := hinjective (Int.natCast_inj.1 (neg_injective h))
    omega
  · obtain ⟨hyzero, hxzero⟩ := hzeros h.symm
    have hxlow := eq_zero_of_magnitude hxzero
    have hylow := eq_zero_of_magnitude hyzero
    omega
  · obtain ⟨hxzero, hyzero⟩ := hzeros h
    have hxlow := eq_zero_of_magnitude hxzero
    have hylow := eq_zero_of_magnitude hyzero
    omega
  · have hlow := hinjective (Int.natCast_inj.1 h)
    omega

/-- Where two numbers are equal as `n` and `s · 2 ^ e`, they are so in a smaller unit. -/
theorem mul_unit_eq {n s e : Int} {unit : Nat} (he : -unit ≤ e)
    (h : n * 2 ^ (-e).toNat = s * 2 ^ e.toNat) : n * 2 ^ unit = s * 2 ^ (e + unit).toNat := by
  rcases Int.le_total 0 e with hpos | hneg
  · rw [Int.toNat_of_nonpos (by omega), pow_zero, mul_one] at h
    rw [h, mul_assoc, ← pow_add]
    congr 2
    omega
  · rw [Int.toNat_of_nonpos hneg, pow_zero, mul_one] at h
    rw [← h, mul_assoc, ← pow_add]
    congr 2
    omega

end Decimal

namespace Cell

/-- An integer that is the same as a float has its value. -/
theorem scaled_of_compareIntReal {n : Int} {x : Float} (h : compareIntReal n x = .eq) :
    x ≠ Float.nan ∧ n * 2 ^ 1074 = Decimal.scaled x := by
  unfold compareIntReal at h
  -- no integer equals an infinity or what is no number, so the float is finite
  cases hx : Decimal.Binary.ofFloat x with
  | nan => simp [hx] at h
  | infinite negative => cases negative <;> simp [hx] at h
  | finite negative mantissa exponent =>
    obtain ⟨hnegative, hexponent, hmagnitude⟩ := Decimal.Binary.ofFloat_eq_finite hx
    refine ⟨fun hnan => ?_, ?_⟩
    · rw [hnan, Decimal.Binary.ofFloat_nan] at hx
      cases hx
    · rw [hx] at h
      simp only [Decimal.upward, Nat.pow_eq, Int.natCast_pow, Nat.cast_ofNat, compare_eq_iff_eq] at h
      rw [Decimal.mul_unit_eq (by omega) h, Decimal.scaled, ← hnegative, ← hmagnitude]
      split <;> simp

/-- Values are the same when neither is null and they are equal in the order of stored values. -/
theorem same_iff {a b : Cell} :
    a.same b = true ↔ a.rank ≠ 0 ∧ b.rank ≠ 0 ∧ a.compare b = .eq := by
  unfold same relate
  split_ifs with h
  · simp only [Truth.holds]
    tauto
  · rw [not_or] at h
    simp [Truth.holds, h]

/-- Floats are equal in the order of stored values when they are equal. -/
theorem compareReal_eq_iff {x y : Float} : compareReal x y = .eq ↔ (x == y) = true := by
  unfold compareReal
  split_ifs with hlt heq
  · -- equal floats are not ordered
    simp only [false_iff]
    intro heq
    have hless : x.toModel.unpack.compare y.toModel.unpack = some .lt :=
      beq_iff_eq.1 (of_decide_eq_true hlt)
    have hequal : x.toModel.unpack.compare y.toModel.unpack = some .eq := beq_iff_eq.1 heq
    simp [hless] at hequal
  · simp [heq]
  · simp [heq]

/-- Equal floats are compared with integers alike. -/
theorem compareIntReal_congr {x y : Float} (h : (x == y) = true) (n : Int) :
    compareIntReal n x = compareIntReal n y := by
  have hzero : compareIntReal n 0 = compareIntReal n (-0) := by
    have hpositive : Decimal.Binary.ofFloat 0 = .finite false 0 (-1074) := rfl
    have hnegative : Decimal.Binary.ofFloat (-0) = .finite true 0 (-1074) := rfl
    simp only [compareIntReal, hpositive, hnegative, Nat.cast_zero, neg_zero, ite_self]
  obtain ⟨-, -, rfl | ⟨rfl, rfl⟩ | ⟨rfl, rfl⟩⟩ := Float.beq_iff_ne_nan_and_eq.1 h
  · rfl
  · exact hzero
  · exact hzero.symm

/-- What is the same as an integer is this integer or a float of its value. -/
theorem eq_of_same_integer {a : Cell} {n : Int64} (h : a.same (integer n) = true) :
    a = integer n ∨ ∃ x, a = real x ∧ compareIntReal n.toInt x = .eq := by
  obtain ⟨-, -, heq⟩ := same_iff.1 h
  cases a with
  | integer m => exact .inl (congrArg integer (Int64.toInt_inj.1 (compare_eq_iff_eq.1 heq)))
  | real x => exact .inr ⟨x, rfl, Ordering.swap_eq_eq.1 heq⟩
  | _ => simp [compare, rank] at heq

/-- What is the same as a float is a float that is equal to it, or an integer of its value. -/
theorem eq_of_same_real {a : Cell} {z : Float} (h : a.same (real z) = true) :
    (∃ n, a = integer n ∧ compareIntReal n.toInt z = .eq) ∨
      ∃ x, a = real x ∧ (x == z) = true := by
  obtain ⟨-, -, heq⟩ := same_iff.1 h
  cases a with
  | integer n => exact .inl ⟨n, rfl, heq⟩
  | real x => exact .inr ⟨x, rfl, compareReal_eq_iff.1 heq⟩
  | _ => simp [compare, rank] at heq

/-- Texts are equal in the order of stored values when they are equal. -/
theorem compare_text_iff {s t : String} : (text s).compare (text t) = .eq ↔ s = t :=
  compareOfLessAndEq_eq_eq (fun _ => le_rfl) not_le

/-- Blobs are equal in the order of stored values when they are equal. -/
theorem compare_blob_iff {as bs : List UInt8} : (blob as).compare (blob bs) = .eq ↔ as = bs := by
  have hinjective : Function.Injective (List.map UInt8.toNat) :=
    List.map_injective_iff.2 fun _ _ => UInt8.toNat_inj.1
  unfold compare
  rw [Std.LawfulEqCmp.compare_eq_iff_eq, hinjective.eq_iff]

/-- What is the same as a text or a blob is equal to it. -/
theorem eq_of_same {a b : Cell} (h : a.same b = true) (hb : b.rank ≠ 1) : a = b := by
  obtain ⟨-, hnull, heq⟩ := same_iff.1 h
  cases b with
  | null => exact absurd rfl hnull
  | integer n => exact absurd rfl hb
  | real x => exact absurd rfl hb
  | text t =>
    cases a with
    | text s => exact congrArg text (compare_text_iff.1 heq)
    | _ => simp [compare, rank] at heq
  | blob bs =>
    cases a with
    | blob as => exact congrArg blob (compare_blob_iff.1 heq)
    | _ => simp [compare, rank] at heq

/-- A value that is stored as it is, and is not null, is the same as itself. -/
theorem same_self {c : Cell} (hnull : c ≠ null) (hstored : c.stored = c) : c.same c = true := by
  cases c with
  | null => exact absurd rfl hnull
  | integer n => exact same_integer_iff.2 rfl
  | real x =>
    have hx : x.isNaN = false := by
      rw [Bool.eq_false_iff]
      intro hnan
      simp only [stored, hnan, if_true, reduceCtorEq] at hstored
    rw [Float.isNaN_eq_decide_eq_nan, decide_eq_false_iff_not] at hx
    exact same_iff.2 ⟨Nat.one_ne_zero, Nat.one_ne_zero,
      compareReal_eq_iff.2 (Float.beq_self_iff.2 hx)⟩
  | text s => exact same_iff.2 ⟨Nat.succ_ne_zero _, Nat.succ_ne_zero _, compare_text_iff.2 rfl⟩
  | blob bs => exact same_iff.2 ⟨Nat.succ_ne_zero _, Nat.succ_ne_zero _, compare_blob_iff.2 rfl⟩

/-- A float is the same as another one that is equal to it. -/
theorem same_real {x y : Float} (h : (x == y) = true) : (real x).same (real y) = true :=
  same_iff.2 ⟨Nat.one_ne_zero, Nat.one_ne_zero, compareReal_eq_iff.2 h⟩

/-- An integer and a float of its value are the same. -/
theorem same_integer_real {n : Int64} {x : Float} (h : compareIntReal n.toInt x = .eq) :
    (integer n).same (real x) = true ∧ (real x).same (integer n) = true :=
  ⟨same_iff.2 ⟨Nat.one_ne_zero, Nat.one_ne_zero, h⟩,
    same_iff.2 ⟨Nat.one_ne_zero, Nat.one_ne_zero, Ordering.swap_eq_eq.2 h⟩⟩

/-- Values that are the same as a third one are the same. -/
theorem same_of_same {a b c : Cell} (ha : a.same c = true) (hb : b.same c = true) :
    a.same b = true := by
  -- only a number can be the same as something else than itself
  by_cases hc : c.rank = 1
  · cases c with
    | integer n =>
      rcases eq_of_same_integer ha with rfl | ⟨x, rfl, hx⟩ <;>
        rcases eq_of_same_integer hb with rfl | ⟨y, rfl, hy⟩
      · exact hb
      · exact (same_integer_real hy).1
      · exact ha
      · obtain ⟨hxnan, hx⟩ := scaled_of_compareIntReal hx
        obtain ⟨hynan, hy⟩ := scaled_of_compareIntReal hy
        exact same_real (Decimal.beq_of_scaled_eq hxnan hynan (hx.symm.trans hy))
    | real z =>
      rcases eq_of_same_real ha with ⟨m, rfl, hm⟩ | ⟨x, rfl, hx⟩ <;>
        rcases eq_of_same_real hb with ⟨n, rfl, hn⟩ | ⟨y, rfl, hy⟩
      · have heq := (scaled_of_compareIntReal hm).2.trans (scaled_of_compareIntReal hn).2.symm
        exact same_integer_iff.2 (Int64.toInt_inj.1 (mul_right_cancel₀ (by positivity) heq))
      · exact (same_integer_real ((compareIntReal_congr hy _).trans hm)).1
      · exact (same_integer_real ((compareIntReal_congr hx _).trans hn)).2
      · exact same_real (PartialEquivBEq.trans hx (PartialEquivBEq.symm hy))
    | _ => cases hc
  · obtain rfl := eq_of_same ha hc
    obtain rfl := eq_of_same hb hc
    exact ha

end Cell
end FilterSql
