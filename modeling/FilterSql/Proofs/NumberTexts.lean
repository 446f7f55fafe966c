import FilterSql.Json.Number
import FilterSql.Proofs.Numerals
import Mathlib.Algebra.Group.Int.Defs
import Mathlib.Data.List.TakeWhile

/-!
# Number literals are read back

An integer is written as its digits behind a sign. A finite float is written as the fewest digits
that denote it, with a point or an exponent or both. Either way the text is a number literal, which
is cut into the parts that it was put together from, and the parts tell an integer from a float.

## Main definitions

* `Json.NumberParts.text`: the number literal with given parts;
* `Json.NumberParts.WellFormed`: the parts are those of a number literal;
* `Json.EndsNumber`: a text does not go on with a number.

## Main results

* `Json.NumberParts.scanNumber_text`: a number literal is cut into its parts;
* `Json.NumberParts.value_ofInt`: the literal of an integer denotes the integer;
* `Decimal.digits_shortest`: the shortest digits of a positive number do not denote zero;
* `Decimal.Layout.exists_parts_text`: the text of a finite float is a number literal with a point or
  an exponent.
-/

namespace FilterSql

namespace Json

/-- A text that does not go on with a number. -/
def EndsNumber (rest : List Char) : Prop :=
  ∀ c ∈ rest.head?, c.isDigit = false ∧ c ≠ '.' ∧ c ≠ 'e' ∧ c ≠ 'E'

namespace NumberParts

/-- The text of an exponent, with a plus sign in front of a positive one if there has to be one. -/
def exponentText (plus : Bool) (exponent : Int) : List Char :=
  'e' :: ((if plus && 0 < exponent then ['+'] else []) ++ Numeral.ofInt exponent)

/-- The number literal with these parts, without its sign. -/
def body (plus : Bool) (parts : NumberParts) : List Char :=
  parts.whole ++ (parts.fraction.elim [] ('.' :: ·) ++ parts.exponent.elim [] (exponentText plus))

/-- The number literal with these parts. -/
def text (plus : Bool) (parts : NumberParts) : List Char :=
  (if parts.negative then ['-'] else []) ++ parts.body plus

/-- The parts are those of a number literal: digits in front of the point without a zero too many,
and digits behind it. -/
structure WellFormed (parts : NumberParts) : Prop where
  whole : Numeral.IsDigits parts.whole
  no_zero : parts.whole.head? = some '0' → parts.whole.length = 1
  fraction : ∀ ds ∈ parts.fraction, Numeral.IsDigits ds

variable {parts : NumberParts} {plus : Bool} {rest : List Char}

/-- The exponent of a number is cut off its text. -/
theorem scanExponent_text (exponent : Option Int) (hrest : EndsNumber rest) :
    scanExponent (exponent.elim [] (exponentText plus) ++ rest) = some (exponent, rest) := by
  cases exponent with
  | none =>
    cases rest with
    | nil => rfl
    | cons c rest =>
      obtain ⟨-, -, he, hE⟩ := hrest c rfl
      simp [scanExponent, he, hE]
  | some e =>
    have hsign : Numeral.spanSign
        ((if plus && 0 < e then ['+'] else []) ++ (Numeral.ofInt e ++ rest)) =
          (decide (e < 0), Numeral.ofNat e.natAbs ++ rest) := by
      by_cases he : (plus && decide (0 < e)) = true
      · have hpos : 0 < e := of_decide_eq_true ((Bool.and_eq_true _ _ ▸ he).2)
        rw [if_pos he, List.singleton_append, Numeral.ofInt_eq, if_neg (by omega), List.nil_append,
          decide_eq_false (by omega)]
        rfl
      · rw [if_neg he]
        exact Numeral.spanSign_ofInt e rest
    obtain ⟨hne, hdigits⟩ := Numeral.isDigits_ofNat e.natAbs
    have hspan := Numeral.spanDigits_run hdigits fun c hc => (hrest c hc).1
    simp only [Option.elim_some, exponentText, List.cons_append, List.append_assoc, scanExponent,
      true_or, if_true, hsign, hspan, Numeral.toNat_ofNat]
    rw [if_neg (by simpa using hne)]
    have hvalue : (if decide (e < 0) = true then -(e.natAbs : Int) else e.natAbs) = e := by
      by_cases he : e < 0
      · rw [if_pos (decide_eq_true he)]
        omega
      · rw [if_neg (by simpa using he)]
        omega
    rw [hvalue]

/-- The digits behind the point of a number are cut off its text. -/
theorem scanFraction_text {fraction : Option (List Char)}
    (h : ∀ ds ∈ fraction, Numeral.IsDigits ds)
    (hrest : ∀ c ∈ rest.head?, c.isDigit = false ∧ c ≠ '.') :
    scanFraction (fraction.elim [] ('.' :: ·) ++ rest) = some (fraction, rest) := by
  cases fraction with
  | none =>
    cases rest with
    | nil => rfl
    | cons c rest => simp [scanFraction, (hrest c rfl).2]
  | some ds =>
    obtain ⟨hne, hdigits⟩ := h ds rfl
    have hspan := Numeral.spanDigits_run hdigits fun c hc => (hrest c hc).1
    simp [scanFraction, hspan, hne]

/-- What follows the digits of a number begins with no digit. -/
theorem head?_exponentText (exponent : Option Int) (hrest : EndsNumber rest) :
    ∀ c ∈ (exponent.elim [] (exponentText plus) ++ rest).head?, c.isDigit = false ∧ c ≠ '.' := by
  cases exponent with
  | none => exact fun c hc => ⟨(hrest c hc).1, (hrest c hc).2.1⟩
  | some e =>
    rintro c hc
    obtain rfl : 'e' = c := Option.some.inj hc
    decide

/-- A number literal is cut into its parts. -/
theorem scanNumber_text (h : parts.WellFormed) (hrest : EndsNumber rest) :
    scanNumber (parts.text plus ++ rest) = some (parts, rest) := by
  obtain ⟨negative, whole, fraction, exponent⟩ := parts
  obtain ⟨⟨hne, hdigits⟩, hzero, hfraction⟩ := h
  dsimp only at hne hdigits hzero hfraction
  -- each part ends where the next one begins, or where the number ends
  have hexponent : ∀ c ∈ (exponent.elim [] (exponentText plus) ++ rest).head?,
      c.isDigit = false ∧ c ≠ '.' := head?_exponentText exponent hrest
  have hbehind : ∀ c ∈ (fraction.elim [] ('.' :: ·) ++
      (exponent.elim [] (exponentText plus) ++ rest)).head?, c.isDigit = false := by
    cases fraction with
    | none => exact fun c hc => (hexponent c hc).1
    | some ds =>
      rintro c hc
      obtain rfl : '.' = c := Option.some.inj hc
      decide
  have hspan := Numeral.spanDigits_run hdigits hbehind
  have hunsigned : scanUnsigned negative (whole ++ (fraction.elim [] ('.' :: ·) ++
      (exponent.elim [] (exponentText plus) ++ rest))) =
        some (⟨negative, whole, fraction, exponent⟩, rest) := by
    rw [scanUnsigned, hspan]
    dsimp only
    rw [if_neg, scanFraction_text hfraction hexponent]
    · simp [scanExponent_text exponent hrest]
    · simpa [hne] using hzero
  cases negative with
  | true => simpa [text, body, scanNumber] using hunsigned
  | false =>
    rw [← hunsigned]
    obtain ⟨c, whole, rfl⟩ := List.exists_cons_of_ne_nil hne
    have hc : c ≠ '-' := by
      rintro rfl
      exact absurd (hdigits '-' List.mem_cons_self) (by decide)
    simp only [text, body, Bool.false_eq_true, if_false, List.nil_append, List.cons_append,
      List.append_assoc]
    rw [scanNumber]
    simp [hc]

end NumberParts

/-! ### Integers -/

/-- Reading on only makes a number greater. -/
theorem le_ofDigitChars (ds : List Char) (n : Nat) : n ≤ Nat.ofDigitChars 10 ds n := by
  induction ds generalizing n with
  | nil => exact Nat.le_refl n
  | cons c ds ih =>
    rw [Nat.ofDigitChars_cons]
    exact Nat.le_trans (by omega) (ih _)

/-- All digits of a number below `2 ^ 64` are gathered. -/
theorem gather_eq {ds : List Char} {n : Nat} (h : Nat.ofDigitChars 10 ds n < 2 ^ 64) :
    gather n ds = (Nat.ofDigitChars 10 ds n, ds.length) := by
  induction ds generalizing n with
  | nil => rfl
  | cons c ds ih =>
    rw [Nat.ofDigitChars_cons] at h ⊢
    have hnext : 10 * n + Numeral.digitValue c < Nat.pow 2 64 :=
      Nat.lt_of_le_of_lt (le_ofDigitChars ds _) h
    rw [gather]
    dsimp only
    rw [if_pos hnext, Numeral.digitValue, ih h]
    rfl

namespace NumberParts

/-- The parts of an integer literal. -/
def ofInt (n : Int) : NumberParts :=
  ⟨decide (n < 0), Numeral.ofNat n.natAbs, none, none⟩

/-- The text of an integer is its literal. -/
theorem text_ofInt (n : Int) (plus : Bool) : (ofInt n).text plus = Numeral.ofInt n := by
  simp [ofInt, text, body, Numeral.ofInt_eq]

/-- The text of an integer is a literal. -/
theorem wellFormed_ofInt (n : Int) : (ofInt n).WellFormed where
  whole := Numeral.isDigits_ofNat n.natAbs
  no_zero h := by
    by_cases hn : n.natAbs = 0
    · simp [ofInt, hn, Numeral.ofNat]
    · exact absurd h (Numeral.head?_ofNat hn)
  fraction := by simp [ofInt]

/-- An integer literal of at most sixty-four bits denotes the integer. -/
theorem value_ofInt {n : Int} (hmin : -2 ^ 63 ≤ n) (hmax : n < 2 ^ 64) :
    (ofInt n).value = some (.integer n) := by
  have hread : Nat.ofDigitChars 10 (Numeral.ofNat n.natAbs) 0 = n.natAbs :=
    Nat.ofDigitChars_ten_toDigits
  have hgather : gather 0 (Numeral.ofNat n.natAbs) = _ := gather_eq (by rw [hread]; omega)
  rw [hread] at hgather
  by_cases hn : n < 0
  · have hstart : n.natAbs ≠ 0 ∧ n.natAbs ≤ Nat.pow 2 63 := ⟨by omega, by simp; omega⟩
    have hvalue : -(n.natAbs : Int) = n := by omega
    simp only [value, ofInt, hgather, decide_eq_true hn]
    rw [if_pos (by simp), if_neg (by simp), if_pos hstart, hvalue]
  · have hvalue : (n.natAbs : Int) = n := by omega
    simp only [value, ofInt, hgather, decide_eq_false hn]
    rw [if_pos (by simp), if_pos (by simp), hvalue]

end NumberParts

end Json

/-! ### Floats -/

namespace Decimal

/-- A positive power is positive. -/
theorem upward_pos {base : Nat} (h : 0 < base) (exponent : Int) : 0 < upward base exponent :=
  Nat.pow_pos h

/-- A positive number is greater than zero on any scale. -/
theorem compareScaled_zero {a : Nat} (h : a ≠ 0) (i k : Int) : compareScaled a i 0 k = .gt := by
  have hpos : 0 < a * upward 2 i * upward 10 (-k) :=
    Nat.mul_pos (Nat.mul_pos (Nat.pos_of_ne_zero h) (upward_pos (by decide) _))
      (upward_pos (by decide) _)
  rw [compareScaled, Nat.zero_mul, Nat.zero_mul]
  exact Nat.compare_eq_gt.2 hpos

namespace Rounding

variable {r : Rounding} {d : Scientific}

/-- Zero does not round to a value whose interval begins above it. -/
theorem ne_zero_of_admits {n : Nat} {k : Int} (hlower : r.lower ≠ 0) (h : r.admits n k = true) :
    n ≠ 0 := by
  rintro rfl
  unfold admits at h
  rw [compareScaled_zero hlower] at h
  cases hclosed : r.closed <;> simp [hclosed] at h

/-- The decimal that is chosen on a grid rounds to the value. -/
theorem admits_of_nearestOn {k : Int} (h : r.nearestOn k = some d) :
    r.admits d.digits k = true := by
  unfold nearestOn at h
  dsimp only at h
  split at h
  · split at h
    · cases h; assumption
    · cases h; assumption
    · split at h <;> cases h <;> assumption
  · cases h; assumption
  · cases h; assumption
  · cases h

/-- The decimal that is found is not zero. -/
theorem digits_ne_zero_of_search (hlower : r.lower ≠ 0) {magnitude : Int} {tries count : Nat}
    (h : r.search magnitude tries count = some d) : d.digits ≠ 0 := by
  induction tries generalizing count with
  | zero => cases h
  | succ tries ih =>
    rw [search] at h
    cases hnearest : r.nearestOn (magnitude - count) with
    | none => exact ih (by rwa [hnearest] at h)
    | some d' =>
      rw [hnearest] at h
      obtain rfl := Option.some.inj h
      exact ne_zero_of_admits hlower (admits_of_nearestOn hnearest)

end Rounding

/-- A number that is not zero keeps a digit without the zeros at its end. -/
theorem Scientific.digits_strip_ne_zero {d : Scientific} (h : d.digits ≠ 0) :
    d.strip.digits ≠ 0 := by
  let zeros := (Numeral.ofNat d.digits).reverse.takeWhile (· == '0')
  let front := ((Numeral.ofNat d.digits).reverse.dropWhile (· == '0')).reverse
  have hsplit : zeros ++ front.reverse = (Numeral.ofNat d.digits).reverse := by
    rw [List.reverse_reverse]
    exact List.takeWhile_append_dropWhile
  have hzeros : zeros = List.replicate zeros.length '0' :=
    List.eq_replicate_iff.2 ⟨rfl, fun c hc => by simpa using List.mem_takeWhile_imp hc⟩
  have hdigits : Numeral.ofNat d.digits = front ++ List.replicate zeros.length '0' := by
    rw [← List.reverse_inj, ← hsplit, List.reverse_append, List.reverse_replicate, ← hzeros]
  have hvalue : d.digits = 10 ^ zeros.length * Numeral.toNat front := by
    rw [← Numeral.toNat_append_zeros, ← hdigits, Numeral.toNat_ofNat]
  have hstrip : d.strip.digits = Numeral.toNat front := by
    change d.digits / Nat.pow 10 zeros.length = _
    rw [hvalue]
    exact Nat.mul_div_cancel_left _ (Nat.pow_pos (by decide))
  rw [hstrip]
  intro hfront
  rw [hfront, Nat.mul_zero] at hvalue
  exact h hvalue

/-- The shortest digits of a positive number do not denote zero, unless none were found. -/
theorem digits_shortest {mantissa : Nat} (h : mantissa ≠ 0) (exponent : Int) :
    (shortest mantissa exponent).digits ≠ 0 ∨ shortest mantissa exponent = ⟨0, 0⟩ := by
  have hlower : (Rounding.of mantissa exponent).lower ≠ 0 := by
    simp only [Rounding.of]
    split <;> omega
  unfold shortest
  dsimp only
  split
  next d hd =>
    have hdigits := Rounding.digits_ne_zero_of_search hlower hd
    exact .inl (Scientific.digits_strip_ne_zero hdigits)
  next => exact .inr rfl

namespace Layout

open Json (NumberParts)

variable (layout : Layout)

/-- The parts of the number literal that some digits are laid out as. -/
def parts (negative : Bool) (digits : List Char) (point : Int) : NumberParts :=
  if digits.length ≤ point ∧ point ≤ layout.lastPoint then
    ⟨negative, digits ++ List.replicate (point - digits.length).toNat '0', some ['0'], none⟩
  else if 0 < point ∧ point ≤ layout.lastPoint then
    ⟨negative, digits.take point.toNat, some (digits.drop point.toNat), none⟩
  else if layout.beforeFirstPoint < point ∧ point ≤ 0 then
    ⟨negative, ['0'], some (List.replicate (-point).toNat '0' ++ digits), none⟩
  else
    ⟨negative, digits.take 1, if digits.drop 1 = [] then none else some (digits.drop 1),
      some (point - 1)⟩

variable {digits : List Char} {point : Int}

/-- The sign of a number is one of its parts. -/
theorem negative_parts (negative : Bool) :
    (layout.parts negative digits point).negative = negative := by
  unfold parts
  split
  · rfl
  · split
    · rfl
    · split <;> rfl

/-- Digits are laid out with a point or an exponent. -/
theorem isSome_parts (negative : Bool) :
    (layout.parts negative digits point).fraction.isSome = true ∨
      (layout.parts negative digits point).exponent.isSome = true := by
  unfold parts
  split
  · exact .inl rfl
  · split
    · exact .inl rfl
    · split
      · exact .inl rfl
      · exact .inr rfl

/-- Digits are laid out as the parts say. -/
theorem place_eq (negative : Bool) :
    layout.place digits point = (layout.parts negative digits point).body layout.plusSign := by
  unfold place parts
  dsimp only
  split
  · simp [NumberParts.body]
  · split
    · simp [NumberParts.body]
    · split
      · simp [NumberParts.body]
      · cases hdrop : digits.drop 1 <;> simp [NumberParts.body, NumberParts.exponentText]

/-- The digits of a number are laid out as a number literal when no zero stands in front of them. -/
theorem wellFormed_parts (negative : Bool) (hdigits : Numeral.IsDigits digits)
    (hzero : digits.head? = some '0' → digits.length = 1 ∧ point = 1) :
    (layout.parts negative digits point).WellFormed := by
  have hcount : 0 < digits.length := List.length_pos_of_ne_nil hdigits.1
  unfold parts
  split
  case isTrue h =>
    -- the digits are filled up with zeros as far as the point
    refine ⟨hdigits.append_zeros _, fun hhead => ?_, by simp [Numeral.IsDigits]⟩
    obtain ⟨hlength, hone⟩ := hzero (by rwa [List.head?_append_of_ne_nil _ hdigits.1] at hhead)
    simp [hlength, hone]
  case isFalse h =>
    split
    case isTrue h' =>
      -- the point stands between the digits
      refine ⟨hdigits.take (by omega), fun hhead => ?_, ?_⟩
      · rw [List.head?_take, if_neg (by omega)] at hhead
        obtain ⟨hlength, hone⟩ := hzero hhead
        omega
      · rintro ds ⟨⟩
        exact hdigits.drop (by omega)
    case isFalse h' =>
      split
      case isTrue h'' =>
        -- zeros stand between the point and the digits
        refine ⟨by simp [Numeral.IsDigits], by simp, ?_⟩
        rintro ds ⟨⟩
        exact hdigits.zeros_append _
      case isFalse h'' =>
        -- one digit stands in front of the point, and an exponent behind the others
        refine ⟨hdigits.take (by omega), fun _ => ?_, fun ds hds => ?_⟩
        · simp only [List.length_take]
          omega
        · split at hds
          case isTrue => cases hds
          case isFalse hdrop =>
            obtain rfl := Option.some.inj hds
            rw [List.drop_eq_nil_iff] at hdrop
            exact hdigits.drop (by omega)

/-- The text of a finite float is a number literal with a point or an exponent. -/
theorem exists_parts_text {x : Float} (hx : isFinite x = true) :
    ∃ parts : NumberParts, parts.WellFormed ∧
      (parts.fraction.isSome = true ∨ parts.exponent.isSome = true) ∧
      (layout.text x).toList = parts.text layout.plusSign := by
  unfold isFinite at hx
  unfold text
  cases hbinary : Binary.ofFloat x with
  | nan => simp [hbinary] at hx
  | infinite negative => simp [hbinary] at hx
  | finite negative mantissa exponent =>
    by_cases hm : mantissa = 0
    · refine ⟨⟨negative, ['0'], some ['0'], none⟩, ?_, .inl rfl, ?_⟩
      · exact ⟨by simp [Numeral.IsDigits], by simp, by simp [Numeral.IsDigits]⟩
      · cases negative <;> simp [hm, NumberParts.text, NumberParts.body]
    · have hzero : (Numeral.ofNat (shortest mantissa exponent).digits).head? = some '0' →
          (Numeral.ofNat (shortest mantissa exponent).digits).length = 1 ∧
            (shortest mantissa exponent).point = 1 := by
        intro hhead
        rcases digits_shortest hm exponent with hdigits | hnone
        · exact absurd hhead (Numeral.head?_ofNat hdigits)
        · rw [hnone]
          decide
      refine ⟨_, layout.wellFormed_parts negative (Numeral.isDigits_ofNat _) hzero,
        layout.isSome_parts negative, ?_⟩
      rw [NumberParts.text, layout.negative_parts, ← layout.place_eq]
      cases negative <;> simp [hm]

end Layout

end Decimal

end FilterSql
