import FilterSql.Proofs.Numerals
import FilterSql.Proofs.Sending
import FilterSql.Store.Coercion
import Mathlib.Data.List.TakeWhile
import Mathlib.Data.Nat.Digits.Defs

/-!
# Integers that are sent as texts

An integer that is declared as a textual type is sent as its text, and a text that is declared as an
integral type is sent as the integer that it denotes, if it denotes one that can be stored. So an
integer comes back from a text. It also does when white space, a plus sign or zeros were added to
the text, and every other text is sent as it is.

## Main definitions

* `Numeral.positional`, `Numeral.Denotes`: the number that digits denote, and the integer that
  digits behind an optional sign denote;
* `Numeral.Spells`: an integer is denoted between white space;
* `Numeral.Padding`: what can be added to the text of an integer.

## Main results

* `Numeral.toInt?_eq_some_iff`, `Numeral.toInt64?_eq_some_iff`: a text is read as an integer when it
  denotes it;
* `Text.trimChars_surrounded`, `Text.exists_eq_trimChars`: white space around a text is taken off
  it, and nothing else is;
* `Numeral.Padding.spells_apply`: an integer is spelled by its text, whatever is added to it;
* `Parameter.integer_survives_text`: an integer is sent for the text that is sent for it, and a text
  that denotes no integer is sent unchanged.
-/

namespace FilterSql

/-! ### The integer that a text denotes -/

namespace Numeral

/-- The number that digits denote: the last one counts once, and every other ten times as much as
the one behind it. -/
def positional (ds : List Char) : Nat :=
  Nat.ofDigits 10 (ds.reverse.map digitValue)

/-- A text of digits with an optional sign in front of them denotes an integer. -/
inductive Denotes : List Char → Int → Prop
  | unsigned {ds : List Char} (h : IsDigits ds) : Denotes ds (positional ds)
  | plus {ds : List Char} (h : IsDigits ds) : Denotes ('+' :: ds) (positional ds)
  | minus {ds : List Char} (h : IsDigits ds) : Denotes ('-' :: ds) (-positional ds)

variable {cs ds : List Char}

/-- One more digit counts once, and the others ten times as much as before. -/
theorem positional_concat (ds : List Char) (c : Char) :
    positional (ds ++ [c]) = 10 * positional ds + digitValue c := by
  rw [positional, List.reverse_append, List.reverse_singleton, List.singleton_append,
    List.map_cons, Nat.ofDigits_cons, Nat.add_comm]
  rfl

/-- Digits are read as the number that they denote. -/
theorem toNat_eq_positional (ds : List Char) : toNat ds = positional ds := by
  induction ds using List.reverseRecOn with
  | nil => rfl
  | append_singleton ds c ih =>
    rw [positional_concat, ← ih, toNat, List.foldl_append]
    rfl

/-- Digits with zeros in front of them denote the same number. -/
theorem positional_zeros_append (k : Nat) (ds : List Char) :
    positional (List.replicate k '0' ++ ds) = positional ds := by
  rw [← toNat_eq_positional, ← toNat_eq_positional, toNat_eq, toNat_eq, Nat.ofDigitChars_append,
    Nat.ofDigitChars_replicate_zero, Nat.mul_zero]

/-- The digits of a number denote it. -/
theorem positional_ofNat (n : Nat) : positional (ofNat n) = n := by
  rw [← toNat_eq_positional, toNat_ofNat]

/-- What is behind the sign is read as the digits of a number. -/
theorem toInt?_eq_some_iff_span {n : Int} : toInt? cs = some n ↔
    IsDigits (spanSign cs).2 ∧
      (if (spanSign cs).1 then -(positional (spanSign cs).2 : Int)
        else positional (spanSign cs).2) = n := by
  have hrefused : ((spanSign cs).2.isEmpty || !(spanSign cs).2.all Char.isDigit) = true ↔
      ¬IsDigits (spanSign cs).2 := by
    rw [IsDigits, not_and_or]
    simp
  simp only [toInt?, toNat_eq_positional, hrefused, Option.ite_none_left_eq_some, not_not,
    Option.some_inj]

/-- A text is read as an integer when it denotes it. -/
theorem toInt?_eq_some_iff {n : Int} : toInt? cs = some n ↔ Denotes cs n := by
  rw [toInt?_eq_some_iff_span]
  constructor
  · rintro ⟨hdigits, rfl⟩
    revert hdigits
    fun_cases spanSign cs with
    | case1 ds => exact .minus
    | case2 ds => exact .plus
    | case3 => exact .unsigned
  · -- of the three forms, only the one without a sign has to be told from the others
    rintro (h | h | h)
    · have hspan := spanSign_digits h []
      rw [List.append_nil] at hspan
      rw [hspan]
      exact ⟨h, rfl⟩
    · exact ⟨h, rfl⟩
    · exact ⟨h, rfl⟩

/-- A text is read as a word with a sign when it denotes it. -/
theorem toInt64?_eq_some_iff {n : Int64} : toInt64? cs = some n ↔ Denotes cs n.toInt := by
  rw [toInt64?, Option.bind_eq_some_iff]
  simp only [toInt?_eq_some_iff, Option.ite_none_right_eq_some, Option.some_inj]
  constructor
  · rintro ⟨m, hm, ⟨hmin, hmax⟩, rfl⟩
    have hlt : m < 2 ^ 63 := Int.lt_add_one_of_le hmax
    rwa [Int64.toInt_ofInt_of_le hmin hlt]
  · intro h
    exact ⟨n.toInt, h, ⟨n.minValue_le_toInt, n.toInt_le⟩, Int64.ofInt_toInt n⟩

/-- A text that denotes an integer is not empty. -/
theorem Denotes.ne_nil {n : Int} (h : Denotes cs n) : cs ≠ [] := by
  cases h with
  | unsigned h => exact h.1
  | plus | minus => exact List.cons_ne_nil _ _

/-- Digits are no white space. -/
theorem isBlank_of_isDigit {c : Char} (h : c.isDigit = true) : Text.isBlank c = false := by
  have hbounds : 48 ≤ c.toNat ∧ c.toNat ≤ 57 := by
    simpa [Char.isDigit, UInt32.le_iff_toNat_le] using h
  simp only [Text.isBlank, Bool.or_eq_false_iff, Bool.and_eq_false_iff, beq_eq_false_iff_ne,
    decide_eq_false_iff_not]
  omega

/-- A text that denotes an integer has no white space in it. -/
theorem Denotes.isBlank_eq_false {n : Int} (h : Denotes cs n) :
    ∀ c ∈ cs, Text.isBlank c = false := by
  cases h with
  | unsigned h => exact fun c hc => isBlank_of_isDigit (h.2 c hc)
  | plus h | minus h =>
    exact List.forall_mem_cons.2 ⟨by decide, fun c hc => isBlank_of_isDigit (h.2 c hc)⟩

end Numeral

/-! ### What can be added to a text -/

/-- White space around a text is taken off it. -/
theorem Text.trimChars_surrounded {before cs after : List Char}
    (hbefore : ∀ c ∈ before, isBlank c = true) (hafter : ∀ c ∈ after, isBlank c = true)
    (hne : cs ≠ []) (hcs : ∀ c ∈ cs, isBlank c = false) :
    trimChars (before ++ (cs ++ after)) = cs := by
  have hhead : ∀ c ∈ (cs ++ after).head?, isBlank c = false := by
    rw [List.head?_append_of_ne_nil _ hne]
    exact fun c hc => hcs c (List.mem_of_head? hc)
  have hlast : ∀ c ∈ cs.reverse.head?, isBlank c = false := fun c hc =>
    hcs c (List.mem_reverse.1 (List.mem_of_head? hc))
  rw [trimChars, dropWhile_run hbefore hhead, trimEnd, List.reverse_append,
    dropWhile_run (fun c hc => hafter c (List.mem_reverse.1 hc)) hlast, List.reverse_reverse]

/-- A text is what it is trimmed to between white space. -/
theorem Text.exists_eq_trimChars (cs : List Char) : ∃ before after,
    cs = before ++ (trimChars cs ++ after) ∧ (∀ c ∈ before, isBlank c = true) ∧
      ∀ c ∈ after, isBlank c = true := by
  refine ⟨cs.takeWhile isBlank, ((cs.dropWhile isBlank).reverse.takeWhile isBlank).reverse, ?_,
    fun c hc => List.mem_takeWhile_imp hc,
    fun c hc => List.mem_takeWhile_imp (List.mem_reverse.1 hc)⟩
  -- what is trimmed at the end is a run at the start of the reversed text
  rw [trimChars, trimEnd, ← List.reverse_append, List.takeWhile_append_dropWhile,
    List.reverse_reverse, List.takeWhile_append_dropWhile]

namespace Numeral

/-- A text spells an integer when it denotes it between white space. -/
def Spells (cs : List Char) (n : Int) : Prop :=
  ∃ before ds after, cs = before ++ (ds ++ after) ∧ (∀ c ∈ before, Text.isBlank c = true) ∧
    (∀ c ∈ after, Text.isBlank c = true) ∧ Denotes ds n

/-- The word with a sign that is read from a text without its white space is the one that the text
spells. -/
theorem toInt64?_trimChars_eq_some_iff {cs : List Char} {n : Int64} :
    toInt64? (Text.trimChars cs) = some n ↔ Spells cs n.toInt := by
  rw [toInt64?_eq_some_iff]
  constructor
  · intro h
    obtain ⟨before, after, hcs, hbefore, hafter⟩ := Text.exists_eq_trimChars cs
    exact ⟨before, _, after, hcs, hbefore, hafter, h⟩
  · rintro ⟨before, ds, after, rfl, hbefore, hafter, h⟩
    rwa [Text.trimChars_surrounded hbefore hafter h.ne_nil h.isBlank_eq_false]

/-- What can be added to the text of an integer: white space at either end, a plus sign in front of
a text without a sign, and zeros in front of the digits. -/
structure Padding where
  /-- The white space in front of the text. -/
  before : List Char
  /-- The white space behind the text. -/
  after : List Char
  /-- Whether there is a plus sign, unless the text has a minus sign. -/
  plus : Bool
  /-- How many zeros there are in front of the digits. -/
  zeros : Nat
  blank_before : ∀ c ∈ before, Text.isBlank c = true
  blank_after : ∀ c ∈ after, Text.isBlank c = true

namespace Padding

/-- The text of an integer with a sign and zeros added to it. -/
def pad (p : Padding) : List Char → List Char
  | '-' :: ds => '-' :: (List.replicate p.zeros '0' ++ ds)
  | ds => (if p.plus then ['+'] else []) ++ (List.replicate p.zeros '0' ++ ds)

/-- The text of an integer with all that is added to it. -/
def apply (p : Padding) (s : String) : String :=
  String.ofList (p.before ++ (p.pad s.toList ++ p.after))

/-- Digits have no sign of their own. -/
theorem pad_digits (p : Padding) {ds : List Char} (h : IsDigits ds) :
    p.pad ds = (if p.plus then ['+'] else []) ++ (List.replicate p.zeros '0' ++ ds) := by
  obtain ⟨c, ds, rfl, hminus, -⟩ := h.exists_cons
  rw [pad]
  simp [hminus]

/-- A sign and zeros that are added to the text of an integer do not change what it denotes. -/
theorem denotes_pad (p : Padding) (n : Int) : Denotes (p.pad (ofInt n)) n := by
  have hdigits : IsDigits (List.replicate p.zeros '0' ++ ofNat n.natAbs) :=
    (isDigits_ofNat n.natAbs).zeros_append p.zeros
  have hvalue : positional (List.replicate p.zeros '0' ++ ofNat n.natAbs) = n.natAbs := by
    rw [positional_zeros_append, positional_ofNat]
  rw [ofInt_eq]
  by_cases hn : n < 0
  · have hminus := Denotes.minus hdigits
    rw [hvalue, Int.ofNat_natAbs_of_nonpos hn.le, neg_neg] at hminus
    rwa [if_pos hn]
  · rw [if_neg hn, List.nil_append, p.pad_digits (isDigits_ofNat _)]
    by_cases hplus : p.plus = true
    · have hdenotes := Denotes.plus hdigits
      rw [hvalue, Int.natAbs_of_nonneg (not_lt.1 hn)] at hdenotes
      rwa [if_pos hplus]
    · have hdenotes := Denotes.unsigned hdigits
      rw [hvalue, Int.natAbs_of_nonneg (not_lt.1 hn)] at hdenotes
      rwa [if_neg hplus]

/-- The text of an integer spells it, whatever is added. -/
theorem spells_apply (p : Padding) (n : Int) : Spells (p.apply (text n)).toList n := by
  refine ⟨p.before, p.pad (ofInt n), p.after, ?_, p.blank_before, p.blank_after, p.denotes_pad n⟩
  rw [apply, text, String.toList_ofList, String.toList_ofList]

/-- Nothing is added. -/
def empty : Padding :=
  { before := [], after := [], plus := false, zeros := 0, blank_before := nofun,
    blank_after := nofun }

/-- A text to which nothing is added stays as it is. -/
theorem apply_empty (s : String) : empty.apply s = s := by
  have hpad : ∀ cs, empty.pad cs = cs := fun cs => by
    unfold pad
    split <;> rfl
  rw [apply, hpad]
  show String.ofList ([] ++ (s.toList ++ [])) = s
  rw [List.nil_append, List.append_nil, String.ofList_toList]

end Padding

end Numeral

/-! ### What is sent -/

namespace DbClass

/-- A textual type is of the textual class. -/
theorem of_textual {t : DbType} (h : t.isTextual = true) : of (some t) = .textual :=
  if_pos h

/-- An integral type is of the integral class. -/
theorem of_integral {t : DbType} (h : t.isIntegral = true) : of (some t) = .integral := by
  have htextual : t.isTextual = false := by
    cases t <;> first | rfl | cases h
  simp [of, htextual, h]

end DbClass

namespace Value

/-- A text is sent for an integral type as the integer that it spells. -/
theorem integralCell_text_eq_integer_iff {s : String} {n : Int64} :
    (text s).integralCell = .integer n ↔ Numeral.Spells s.toList n.toInt := by
  rw [← Numeral.toInt64?_trimChars_eq_some_iff, integralCell]
  cases Numeral.toInt64? (Text.trimChars s.toList) <;> simp

/-- A text is sent unchanged for an integral type when it spells no word with a sign. -/
theorem integralCell_text_eq_text_iff {s : String} :
    (text s).integralCell = .text s ↔ ¬∃ n : Int64, Numeral.Spells s.toList n.toInt := by
  simp only [← Numeral.toInt64?_trimChars_eq_some_iff, integralCell]
  cases Numeral.toInt64? (Text.trimChars s.toList) <;> simp

end Value

namespace Parameter

/-- An integer that is declared as a textual type is sent as a text. This text is sent as the
integer when it is declared as an integral type, also with white space around it, a plus sign in
front of it if it has no sign, and zeros in front of its digits. In general, a text that is declared
as an integral type is sent as the integer that it spells, and unchanged when it spells none that
can be stored. -/
theorem integer_survives_text (source target : String) (n : Int64) {t u : DbType}
    (ht : t.isTextual = true) (hu : u.isIntegral = true) :
    (∃ s, cell ⟨source, .int n, some t⟩ = .ok (.text s) ∧
      cell ⟨target, .text s, some u⟩ = .ok (.integer n) ∧
      ∀ p : Numeral.Padding, cell ⟨target, .text (p.apply s), some u⟩ = .ok (.integer n)) ∧
    ∀ s, (∀ m : Int64, cell ⟨target, .text s, some u⟩ = .ok (.integer m) ↔
        Numeral.Spells s.toList m.toInt) ∧
      (cell ⟨target, .text s, some u⟩ = .ok (.text s) ↔
        ¬∃ m : Int64, Numeral.Spells s.toList m.toInt) := by
  have hsent (s : String) : cell ⟨target, .text s, some u⟩ = .ok (Value.text s).integralCell := by
    rw [cell, Value.coerce_eq_some rfl, DbClass.of_integral hu]
    rfl
  have hback (p : Numeral.Padding) :
      cell ⟨target, .text (p.apply (Numeral.text n.toInt)), some u⟩ = .ok (.integer n) := by
    rw [hsent, Value.integralCell_text_eq_integer_iff.2 (p.spells_apply n.toInt)]
  refine ⟨⟨Numeral.text n.toInt, ?_, ?_, hback⟩, fun s => ⟨fun m => ?_, ?_⟩⟩
  · rw [cell, Value.coerce_eq_some rfl, DbClass.of_textual ht]
    rfl
  · have h := hback .empty
    rwa [Numeral.Padding.apply_empty] at h
  · rw [hsent, Except.ok.injEq, Value.integralCell_text_eq_integer_iff]
  · rw [hsent, Except.ok.injEq, Value.integralCell_text_eq_text_iff]

/-- The least integer comes back from a text with a tabulator, zeros and a space, and the text of
the one below it is sent unchanged. -/
theorem integer_survives_text_least :
    DbType.guid.isTextual = true ∧ DbType.byte.isIntegral = true ∧
      cell ⟨"p0", .int Int64.minValue, some .guid⟩ = .ok (.text "-9223372036854775808") ∧
      cell ⟨"p1", .text "\t-009223372036854775808 ", some .byte⟩ =
        .ok (.integer Int64.minValue) ∧
      cell ⟨"p1", .text "-9223372036854775809", some .byte⟩ =
        .ok (.text "-9223372036854775809") := by
  let padding : Numeral.Padding :=
    { before := ['\t'], after := [' '], plus := true, zeros := 2,
      blank_before := List.forall_mem_singleton.2 (by decide),
      blank_after := List.forall_mem_singleton.2 (by decide) }
  obtain ⟨⟨s, hs, -, hback⟩, hall⟩ := integer_survives_text "p0" "p1" Int64.minValue
    (t := .guid) (u := .byte) rfl rfl
  have hsent : cell ⟨"p0", .int Int64.minValue, some .guid⟩ =
      .ok (.text "-9223372036854775808") := rfl
  obtain rfl : s = "-9223372036854775808" := by
    simpa using hs.symm.trans hsent
  refine ⟨rfl, rfl, hsent, ?_, ?_⟩
  · have hpadded : padding.apply "-9223372036854775808" = "\t-009223372036854775808 " :=
      rfl
    exact hpadded ▸ hback padding
  · rw [(hall _).2]
    rintro ⟨m, hm⟩
    rw [← Numeral.toInt64?_trimChars_eq_some_iff] at hm
    have hnone : Numeral.toInt64? (Text.trimChars "-9223372036854775809".toList) = none :=
      rfl
    rw [hnone] at hm
    cases hm

end Parameter

end FilterSql
