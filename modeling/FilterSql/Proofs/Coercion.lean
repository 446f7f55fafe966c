import FilterSql.Proofs.IntegralFloats
import FilterSql.Proofs.Sending
import Mathlib

/-!
# What coercion keeps

A value is sent as it is, as a text, or as an integer or a float where this can be done, and its
declared type decides which. Two questions are answered here. A number that is sent as a number may
become another one, since there are integers that no float is equal to and floats beyond all integers
that can be stored. And a value that is read back may be sent otherwise than the one that was
written.

## Main definitions

* `Value.Misfits`: a number has no place among those that its type asks for;
* `Cell.ChangesAs`: what is sent for a stored value is not what is stored;
* `Value.Flips`: a truth value of a floating type.

## Main results

* `Parameter.cell_number_iff`: a number that is sent as a number is the same one unless it has no
  place;
* `Cell.coerce_toValue_iff`, `Value.changesAs_cellAs_iff`: for the same type, a value that is read
  back is sent as it was stored, unless it was a truth value of a floating type.
-/

namespace FilterSql

/-! ### Numbers that are sent -/

namespace Value

/-- The number that a value is: an integer or a finite float. -/
def number? : Value → Option ℚ
  | int n => some n.toInt
  | float x => (Decimal.Binary.ofFloat x).value?
  | _ => none

end Value

/-- The number that is sent. -/
def Cell.number? : Cell → Option ℚ
  | integer n => some n.toInt
  | real x => (Decimal.Binary.ofFloat x).value?
  | _ => none

/-- A value is a number that cannot be written in the kind of numbers that is sent for a class of
types: a float of integral value beyond the words with a sign where integers are sent, or an integer
with too many digits for a mantissa where floats are sent. -/
def Value.Misfits (v : Value) (c : DbClass) : Prop :=
  match v, c with
  | float x, .integral => ∃ n : Int, (Decimal.Binary.ofFloat x).value? = some (n : ℚ) ∧
      ¬(Int64.minValue.toInt ≤ n ∧ n ≤ Int64.maxValue.toInt)
  | int n, .floating => ¬Decimal.Representable n.toInt
  | _, _ => False

/-- The number of a float that is sent for an integral type changes when it is beyond the words with
a sign. -/
theorem Value.number?_integralCell_float {x : Float} {q : ℚ} (h : (float x).number? = some q) :
    (float x).integralCell.number? = some q ↔ ¬(float x).Misfits .integral := by
  show _ ↔ ¬∃ n : Int, _
  change (Decimal.Binary.ofFloat x).value? = some q at h
  cases hx : (Decimal.Binary.ofFloat x).toInt? with
  | none =>
    -- the value is no integer, and the float is sent as it is
    have hcell : (float x).integralCell = .real x := by simp only [integralCell, hx]
    rw [hcell]
    refine iff_of_true h ?_
    rintro ⟨n, hn, -⟩
    rw [← Decimal.Binary.toInt?_eq_some_iff, hx] at hn
    cases hn
  | some n =>
    have hn := Decimal.Binary.toInt?_eq_some_iff.1 hx
    obtain rfl : q = n := Option.some.inj (h.symm.trans hn)
    have hcell : (float x).integralCell = .integer (Decimal.clampToInt64 n) := by
      simp only [integralCell, hx]
    rw [hcell]
    show some (((Decimal.clampToInt64 n).toInt : Int) : ℚ) = some (n : ℚ) ↔ _
    rw [Option.some_inj, Int.cast_inj, Decimal.toInt_clampToInt64_iff]
    constructor
    · rintro hbounds ⟨m, hm, hmbounds⟩
      obtain rfl : n = m := Int.cast_injective (Option.some.inj (hn.symm.trans hm))
      exact hmbounds hbounds
    · intro hnone
      by_contra hbounds
      exact hnone ⟨n, hn, hbounds⟩

/-- A number is sent as a number, unless its type is textual. -/
theorem Value.rank_cellAs {v : Value} {q : ℚ} (h : v.number? = some q) (c : DbClass) :
    (v.cellAs c).rank = 1 ↔ c ≠ .textual := by
  cases v with
  | null | bool b | text s | bytes bs | list vs => cases h
  | int n =>
    cases c with
    | textual => exact iff_of_false nofun (not_not_intro rfl)
    | «open» | integral | floating => exact iff_of_true rfl nofun
  | float x =>
    cases c with
    | textual => exact iff_of_false nofun (not_not_intro rfl)
    | «open» | floating => exact iff_of_true rfl nofun
    | integral =>
      refine iff_of_true ?_ nofun
      show (float x).integralCell.rank = 1
      unfold integralCell
      cases hx : (Decimal.Binary.ofFloat x).toInt? <;> simp [hx, Cell.rank]

/-- A number that is sent as a number is sent exactly when it fits. -/
theorem Value.number?_cellAs {v : Value} {q : ℚ} (h : v.number? = some q) (c : DbClass)
    (hnumber : (v.cellAs c).rank = 1) : (v.cellAs c).number? = some q ↔ ¬v.Misfits c := by
  cases v with
  | null | bool b | text s | bytes bs | list vs => cases h
  | int n =>
    cases c with
    | «open» | integral => exact iff_of_true h not_false
    | textual => cases hnumber
    | floating =>
      obtain rfl : (n.toInt : ℚ) = q := Option.some.inj h
      show (Decimal.Binary.ofFloat (Decimal.ofInt64 n)).value? = _ ↔ ¬¬_
      rw [not_not, Decimal.value?_ofInt64_iff]
  | float x =>
    cases c with
    | «open» | floating => exact iff_of_true h not_false
    | textual => cases hnumber
    | integral => exact number?_integralCell_float h

namespace Parameter

/-- A number is sent for every type, and as a number unless the type is textual. As a number it is
sent unchanged when it has a place in the kind of numbers that the type asks for. -/
theorem cell_number_iff (p : Parameter) {q : ℚ} (h : p.value.number? = some q) :
    ∃ c, p.cell = .ok c ∧ (c.rank = 1 ↔ DbClass.of p.dbType ≠ .textual) ∧
      (c.rank = 1 → (c.number? = some q ↔ ¬p.value.Misfits (.of p.dbType))) := by
  have hscalar : p.value.isList = false := by
    cases hvalue : p.value with
    | list vs =>
      rw [hvalue] at h
      cases h
    | _ => rfl
  refine ⟨p.value.cellAs (.of p.dbType), ?_, Value.rank_cellAs h _, Value.number?_cellAs h _⟩
  rw [cell, Value.coerce_eq_some hscalar]

/-- An even integer may have one binary digit more than a mantissa. -/
theorem cell_number_iff_even :
    let p : Parameter :=
      { name := "p0", value := .int 9007199254740994, dbType := some .double }
    ∃ c, p.cell = .ok c ∧ c.rank = 1 ∧ c.number? = some 9007199254740994 := by
  intro p
  obtain ⟨c, hc, -, hnumber⟩ := cell_number_iff p (q := 9007199254740994) rfl
  obtain rfl : Cell.real (Decimal.ofInt64 9007199254740994) = c := Except.ok.inj hc
  have hfits : ¬p.value.Misfits .floating := by
    intro hmisfits
    exact hmisfits ⟨4503599627370497, 1, by decide, by decide⟩
  exact ⟨_, hc, rfl, (hnumber rfl).2 hfits⟩

/-- A float beyond the words with a sign is sent as the greatest of these words, and an integer with
too many digits for a mantissa as the integer next to it. -/
theorem cell_changes_number :
    let large : Parameter :=
      { name := "p0", value := .float (.ofBits 0x43E158E460913D00), dbType := some .int64 }
    let long : Parameter :=
      { name := "p0", value := .int 9007199254740993, dbType := some .double }
    (large.value.number? = some 10000000000000000000 ∧
      ∃ c, large.cell = .ok c ∧ c.number? = some 9223372036854775807) ∧
    (long.value.number? = some 9007199254740993 ∧
      ∃ c, long.cell = .ok c ∧ c.number? = some 9007199254740992) := by
  intro large long
  have hlarge : Decimal.Binary.ofFloat (.ofBits 0x43E158E460913D00) =
      .finite false 4882812500000000 11 := rfl
  have hlong : Decimal.Binary.ofFloat (Decimal.ofInt64 9007199254740993) =
      .finite false 4503599627370496 1 := rfl
  have hsent : large.cell = .ok (.integer 9223372036854775807) := rfl
  refine ⟨⟨?_, _, hsent, rfl⟩, ⟨rfl, _, rfl, ?_⟩⟩
  · show (Decimal.Binary.ofFloat (.ofBits 0x43E158E460913D00)).value? = _
    rw [hlarge]
    norm_num [Decimal.Binary.value?, Decimal.signed]
  · show (Decimal.Binary.ofFloat (Decimal.ofInt64 9007199254740993)).value? = _
    rw [hlong]
    norm_num [Decimal.Binary.value?, Decimal.signed]

end Parameter

/-! ### Values that are read back -/

/-- A stored cell is sent otherwise when it is read: a number as a text, an integer as a float or a
float as an integer, or a text that spells a number as this number. -/
def Cell.ChangesAs (s : Cell) (c : DbClass) : Prop :=
  match s, c with
  | integer _, .textual | integer _, .floating | real _, .textual => True
  | real x, .integral => ∃ n, (Decimal.Binary.ofFloat x).toInt? = some n
  | text t, .integral => ∃ n, Numeral.toInt64? (Text.trimChars t.toList) = some n
  | text t, .floating => ∃ x, Decimal.read (Text.trimChars t.toList) = some x
  | _, _ => False

/-- A stored value that is read and sent for a class of types is sent as it is stored, unless it
changes. -/
theorem Cell.cellAs_toValue_iff (s : Cell) (c : DbClass) :
    s.toValue.cellAs c = s ↔ ¬s.ChangesAs c := by
  cases c with
  | «open» => exact iff_of_true (by cases s <;> rfl) (by cases s <;> exact not_false)
  | textual =>
    cases s with
    | integer n | real x => exact iff_of_false nofun (not_not_intro trivial)
    | null | text t | blob bs => exact iff_of_true rfl not_false
  | integral =>
    cases s with
    | real x =>
      cases hx : (Decimal.Binary.ofFloat x).toInt? <;>
        simp [ChangesAs, toValue, Value.cellAs, Value.integralCell, hx]
    | text t =>
      cases ht : Numeral.toInt64? (Text.trimChars t.toList) <;>
        simp [ChangesAs, toValue, Value.cellAs, Value.integralCell, ht]
    | null | integer n | blob bs => exact iff_of_true rfl not_false
  | floating =>
    cases s with
    | integer n => exact iff_of_false nofun (not_not_intro trivial)
    | text t =>
      cases ht : Decimal.read (Text.trimChars t.toList) <;>
        simp [ChangesAs, toValue, Value.cellAs, Value.floatingCell, ht]
    | null | real x | blob bs => exact iff_of_true rfl not_false

/-- What is read back is no list. -/
theorem Cell.isList_toValue (s : Cell) : s.toValue.isList = false := by
  cases s <;> rfl

/-- A stored value that is read and sent for a type is sent as it is stored, unless it changes. -/
theorem Cell.coerce_toValue_iff (s : Cell) (t : Option DbType) :
    s.toValue.coerce t = some s ↔ ¬s.ChangesAs (.of t) := by
  rw [Value.coerce_eq_some s.isList_toValue, Option.some_inj, cellAs_toValue_iff]

/-- A value is a truth value for which an integer is sent although its type asks for a float. -/
def Value.Flips (v : Value) (c : DbClass) : Prop :=
  c = .floating ∧ ∃ b, v = .bool b

namespace Value

/-- What is sent for a value does not change for the same class of types, unless it is the integer
of a truth value. -/
theorem changesAs_cellAs_iff (v : Value) (c : DbClass) :
    (v.cellAs c).ChangesAs c ↔ v.Flips c := by
  cases c with
  | «open» => exact iff_of_false (by cases v <;> exact not_false) nofun
  | textual => exact iff_of_false (by cases v <;> exact not_false) nofun
  | integral =>
    refine iff_of_false ?_ nofun
    cases v with
    | text s =>
      cases hs : Numeral.toInt64? (Text.trimChars s.toList) <;>
        simp [cellAs, integralCell, hs, Cell.ChangesAs]
    | float x =>
      cases hx : (Decimal.Binary.ofFloat x).toInt? <;>
        simp [cellAs, integralCell, hx, Cell.ChangesAs]
    | _ => exact not_false
  | floating =>
    cases v with
    | bool b => exact iff_of_true trivial ⟨rfl, b, rfl⟩
    | text s =>
      refine iff_of_false ?_ (by rintro ⟨-, _, ⟨⟩⟩)
      cases hs : Decimal.read (Text.trimChars s.toList) <;>
        simp [cellAs, floatingCell, hs, Cell.ChangesAs]
    | _ => exact iff_of_false not_false (by rintro ⟨-, _, ⟨⟩⟩)

/-- Of the values that are sent for an integral type, nothing but null is read back as null. -/
theorem isNull_integralCell {v : Value} (h : v.isList = false) :
    v.integralCell.toValue.isNull = v.isNull := by
  cases v with
  | list vs => cases h
  | text s =>
    cases hs : Numeral.toInt64? (Text.trimChars s.toList) <;>
      simp [integralCell, hs, Cell.toValue, isNull]
  | float x =>
    cases hx : (Decimal.Binary.ofFloat x).toInt? <;>
      simp [integralCell, hx, Cell.toValue, isNull]
  | _ => rfl

/-- Of the values that are sent for a floating type, nothing but null is read back as null. -/
theorem isNull_floatingCell {v : Value} (h : v.isList = false) :
    v.floatingCell.toValue.isNull = v.isNull := by
  cases v with
  | list vs => cases h
  | text s =>
    cases hs : Decimal.read (Text.trimChars s.toList) <;>
      simp [floatingCell, hs, Cell.toValue, isNull]
  | _ => rfl

/-- Nothing but null is read back as null. -/
theorem isNull_toValue_cellAs {v : Value} (h : v.isList = false) (c : DbClass) :
    (v.cellAs c).toValue.isNull = v.isNull := by
  cases c with
  | integral => exact isNull_integralCell h
  | floating => exact isNull_floatingCell h
  | «open» | textual =>
    cases v with
    | list vs => cases h
    | _ => rfl

end Value

end FilterSql
