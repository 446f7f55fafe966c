import FilterSql.Proofs.First
import FilterSql.Text.Numeral
import Mathlib.Algebra.Group.Nat.Defs

/-!
# Numerals are read back

The digits of a number denote the number, no zero stands in front of them, and they are split off
the text that they begin.

## Main definitions

* `Numeral.IsDigits`: characters that are digits, at least one of them.

## Main results

* `Numeral.isDigits_ofNat`: a number is written as digits;
* `Numeral.toNat_ofNat`: the digits of a number denote it;
* `Numeral.head?_ofNat`: a number other than zero does not begin with the digit zero;
* `Numeral.spanDigits_run`, `Numeral.spanSign_ofInt`: digits and signs are taken off as a whole.
-/

namespace FilterSql.Numeral

/-- Some characters are digits, and there is at least one. -/
def IsDigits (ds : List Char) : Prop :=
  ds ≠ [] ∧ ∀ c ∈ ds, c.isDigit = true

namespace IsDigits

variable {ds : List Char}

/-- Digits with zeros behind them are digits. -/
theorem append_zeros (h : IsDigits ds) (k : Nat) : IsDigits (ds ++ List.replicate k '0') := by
  refine ⟨by simp [h.1], fun c hc => ?_⟩
  rcases List.mem_append.1 hc with hc | hc
  · exact h.2 c hc
  · rw [List.eq_of_mem_replicate hc]
    decide

/-- Digits with zeros in front of them are digits. -/
theorem zeros_append (h : IsDigits ds) (k : Nat) : IsDigits (List.replicate k '0' ++ ds) := by
  refine ⟨by simp [h.1], fun c hc => ?_⟩
  rcases List.mem_append.1 hc with hc | hc
  · rw [List.eq_of_mem_replicate hc]
    decide
  · exact h.2 c hc

/-- Digits do not begin with a sign. -/
theorem exists_cons (h : IsDigits ds) : ∃ c cs, ds = c :: cs ∧ c ≠ '-' ∧ c ≠ '+' := by
  obtain ⟨c, cs, rfl⟩ := List.exists_cons_of_ne_nil h.1
  have hc : c.isDigit = true := h.2 c List.mem_cons_self
  refine ⟨c, cs, rfl, ?_, ?_⟩
  · rintro rfl
    exact absurd hc (by decide)
  · rintro rfl
    exact absurd hc (by decide)

/-- The first few digits are digits. -/
theorem take (h : IsDigits ds) {k : Nat} (hk : 0 < k) : IsDigits (ds.take k) :=
  ⟨by simp only [ne_eq, List.take_eq_nil_iff, h.1, or_false]; omega,
    fun c hc => h.2 c (List.mem_of_mem_take hc)⟩

/-- The digits behind the first few are digits if there are any. -/
theorem drop (h : IsDigits ds) {k : Nat} (hk : k < ds.length) : IsDigits (ds.drop k) :=
  ⟨by rw [ne_eq, List.drop_eq_nil_iff]; omega, fun c hc => h.2 c (List.mem_of_mem_drop hc)⟩

end IsDigits

/-- The digits of a number are digits. -/
theorem isDigits_ofNat (n : Nat) : IsDigits (ofNat n) :=
  ⟨Nat.toDigits_ne_nil, fun _ hc => Nat.isDigit_of_mem_toDigits (by decide) (by decide) hc⟩

/-- A run of digits denotes what the library reads from it. -/
theorem toNat_eq (ds : List Char) : toNat ds = Nat.ofDigitChars 10 ds 0 :=
  (Nat.ofDigitChars_eq_foldl).symm

/-- The digits of a number denote it. -/
theorem toNat_ofNat (n : Nat) : toNat (ofNat n) = n := by
  rw [toNat_eq, ofNat, Nat.ofDigitChars_ten_toDigits]

/-- The last digit of a number is its remainder, and the others denote a tenth of it. -/
theorem ofNat_of_ten_le {n : Nat} (h : 10 ≤ n) :
    ofNat n = ofNat (n / 10) ++ [Nat.digitChar (n % 10)] :=
  Nat.toDigits_of_base_le (by decide) h

/-- A number other than zero does not begin with the digit zero. -/
theorem head?_ofNat {n : Nat} (h : n ≠ 0) : (ofNat n).head? ≠ some '0' := by
  induction n using Nat.strongRecOn with
  | _ n ih =>
    by_cases hn : n < 10
    · rw [ofNat, Nat.toDigits_of_lt_base hn]
      simpa using h
    · rw [ofNat_of_ten_le (by omega), List.head?_append_of_ne_nil _ (isDigits_ofNat _).1]
      exact ih (n / 10) (by omega) (by omega)

/-- Digits are split off the text that they begin when what follows is no digit. -/
theorem spanDigits_run {ds rest : List Char} (hds : ∀ c ∈ ds, c.isDigit = true)
    (hrest : ∀ c ∈ rest.head?, c.isDigit = false) : spanDigits (ds ++ rest) = (ds, rest) :=
  Prod.ext (takeWhile_run hds hrest) (dropWhile_run hds hrest)

/-- The text of an integer is a sign in front of the digits of its size. -/
theorem ofInt_eq (n : Int) : ofInt n = (if n < 0 then ['-'] else []) ++ ofNat n.natAbs := by
  cases n with
  | ofNat n => simp [ofInt]
  | negSucc n => simp [ofInt, Int.negSucc_lt_zero]

/-- No sign is taken off digits. -/
theorem spanSign_digits {ds : List Char} (h : IsDigits ds) (rest : List Char) :
    spanSign (ds ++ rest) = (false, ds ++ rest) := by
  obtain ⟨c, ds, rfl, hminus, hplus⟩ := h.exists_cons
  rw [List.cons_append, spanSign]
  · simp [hminus]
  · simp [hplus]

/-- The sign of an integer is taken off its text. -/
theorem spanSign_ofInt (n : Int) (rest : List Char) :
    spanSign (ofInt n ++ rest) = (decide (n < 0), ofNat n.natAbs ++ rest) := by
  rw [ofInt_eq]
  by_cases h : n < 0
  · simp [h, spanSign]
  · simpa [h] using spanSign_digits (isDigits_ofNat n.natAbs) rest

/-- Zeros behind some digits multiply what they denote. -/
theorem toNat_append_zeros (ds : List Char) (k : Nat) :
    toNat (ds ++ List.replicate k '0') = 10 ^ k * toNat ds := by
  rw [toNat_eq, toNat_eq, Nat.ofDigitChars_append, Nat.ofDigitChars_replicate_zero]

end FilterSql.Numeral
