import FilterSql.Condition
import Mathlib.Data.List.Infix

/-!
# Patterns of `LIKE`

What the pattern language of a database matches, and what the patterns made from literal text do.
A percent sign stands for any characters, an underscore for a single one, and the escape character
takes away the meaning of the character behind it. Databases differ in how they compare characters
and in whether an opening bracket starts a class of characters; `PatternRules` leaves both open.

## Main definitions

* `PatternRules.pieces`: the parts of a pattern, unless its escape character stands at the end;
* `PatternRules.isMatch`: whether a text consists of the parts of a pattern.

## Main results

* `PatternRules.pieces_escapePattern_append`: escaped text is read as its characters alone;
* `PatternRules.isMatch_contains`, `PatternRules.isMatch_startsWith` and
  `PatternRules.isMatch_endsWith`: escaped text between, before or behind percent signs matches the
  texts that hold it, begin with it or end with it.
-/

namespace FilterSql

/-- What a database adds to the pattern language. -/
structure PatternRules where
  /-- Characters match when they are folded to the same one. -/
  fold : Char → Char
  /-- The escape character when none is declared. -/
  defaultEscape : Option Char
  /-- The class that an opening bracket starts, given what follows the bracket, with the number of
  characters that the class takes. Without a class the bracket stands for itself. -/
  classAt : List Char → Option ((Char → Bool) × Nat)

namespace PatternRules

/-- A part of a pattern. -/
inductive Piece where
  /-- Any number of characters. -/
  | any
  /-- A single character that is accepted. -/
  | oneOf (accepts : Char → Bool)

variable (r : PatternRules)

/-- The part that stands for a character itself. -/
def exactly (c : Char) : Piece :=
  .oneOf fun d => r.fold d == r.fold c

/-- The parts of a pattern. An escape character at its very end is refused. -/
def pieces (escape : Option Char) : List Char → Option (List Piece)
  | [] => some []
  | c :: cs =>
    if some c = escape then
      match cs with
      | d :: rest => (pieces escape rest).map (r.exactly d :: ·)
      | [] => none
    else if c = '%' then (pieces escape cs).map (.any :: ·)
    else if c = '_' then (pieces escape cs).map (.oneOf (fun _ => true) :: ·)
    else
      match if c = '[' then r.classAt cs else none with
      | some (accepts, length) => (pieces escape (cs.drop length)).map (.oneOf accepts :: ·)
      | none => (pieces escape cs).map (r.exactly c :: ·)
termination_by cs => cs.length

/-- Whether a text consists of the parts. -/
def matchPieces : List Piece → List Char → Bool
  | [], text => text.isEmpty
  | .any :: rest, text => text.tails.any (matchPieces rest)
  | .oneOf _ :: _, [] => false
  | .oneOf accepts :: rest, c :: cs => accepts c && matchPieces rest cs

/-- Whether a text matches a pattern. -/
def isMatch (escape : Option Char) (pattern text : List Char) : Bool :=
  match r.pieces (escape.or r.defaultEscape) pattern with
  | some ps => matchPieces ps text
  | none => false

/-- An escaped character stands for itself. -/
theorem pieces_escaped (escape c : Char) (cs : List Char) :
    r.pieces (some escape) (escape :: c :: cs) =
      (r.pieces (some escape) cs).map (r.exactly c :: ·) := by
  simp [pieces]

/-- A percent sign that is not the escape character stands for any characters. -/
theorem pieces_percent {escape : Option Char} (h : some '%' ≠ escape) (cs : List Char) :
    r.pieces escape ('%' :: cs) = (r.pieces escape cs).map (.any :: ·) := by
  -- the equations of `pieces` split on `cs`, which only an escape character looks at
  rw [pieces.eq_def]
  simp [h]

/-- A character without a meaning of its own stands for itself. -/
theorem pieces_plain {c : Char} (h : isPatternMark c = false) (cs : List Char) :
    r.pieces (some likeEscape) (c :: cs) =
      (r.pieces (some likeEscape) cs).map (r.exactly c :: ·) := by
  obtain ⟨hany, hone, hclass, hescape⟩ : c ≠ '%' ∧ c ≠ '_' ∧ c ≠ '[' ∧ c ≠ likeEscape := by
    simpa [isPatternMark, and_assoc] using h
  rw [pieces.eq_def]
  simp [hany, hone, hclass, hescape]

/-- Escaped text is read as its characters alone, whatever follows it. -/
theorem pieces_escapePattern_append (s rest : List Char) :
    r.pieces (some likeEscape) (escapePattern s ++ rest) =
      (r.pieces (some likeEscape) rest).map (s.map r.exactly ++ ·) := by
  induction s with
  | nil => simp [escapePattern]
  | cons c s ih =>
    have hsplit : escapePattern (c :: s) =
        (if isPatternMark c then [likeEscape, c] else [c]) ++ escapePattern s := by
      simp [escapePattern]
    rw [hsplit]
    cases hmark : isPatternMark c with
    | true =>
      simp only [if_true, List.cons_append, List.nil_append, pieces_escaped, ih, Option.map_map]
      rfl
    | false =>
      simp only [Bool.false_eq_true, if_false, List.cons_append, List.nil_append,
        r.pieces_plain hmark, ih, Option.map_map]
      rfl

/-- Characters that stand for themselves match the texts that begin with them and go on as the rest
of the pattern says. -/
theorem matchPieces_exactly_append (s : List Char) (rest : List Piece) (text : List Char) :
    matchPieces (s.map r.exactly ++ rest) text = true ↔
      ∃ u v, text = u ++ v ∧ u.map r.fold = s.map r.fold ∧ matchPieces rest v = true := by
  -- each character of the pattern takes one of the text
  induction s generalizing text with
  | nil =>
    constructor
    · exact fun h => ⟨[], text, rfl, rfl, h⟩
    · rintro ⟨u, v, rfl, hfold, h⟩
      obtain rfl : u = [] := by simpa using hfold
      exact h
  | cons c s ih =>
    cases text with
    | nil =>
      simp only [List.map_cons, List.cons_append, exactly, matchPieces, Bool.false_eq_true,
        false_iff]
      rintro ⟨u, v, hnil, hfold, -⟩
      obtain ⟨rfl, -⟩ := List.append_eq_nil_iff.1 hnil.symm
      simp at hfold
    | cons d text =>
      simp only [List.map_cons, List.cons_append, exactly, matchPieces, Bool.and_eq_true,
        beq_iff_eq]
      constructor
      · rintro ⟨hd, h⟩
        obtain ⟨u, v, rfl, hfold, hrest⟩ := (ih text).1 h
        exact ⟨d :: u, v, rfl, by simp [hd, hfold], hrest⟩
      · rintro ⟨u, v, htext, hfold, hrest⟩
        cases u with
        | nil => simp at hfold
        | cons d' u =>
          obtain ⟨rfl, rfl⟩ := List.cons.inj htext
          obtain ⟨hd, hfold⟩ := List.cons.inj hfold
          exact ⟨hd, (ih _).2 ⟨u, v, rfl, hfold, hrest⟩⟩

/-- A percent sign at the end matches every rest. -/
theorem matchPieces_any (text : List Char) : matchPieces [.any] text = true := by
  simp only [matchPieces, List.any_eq_true]
  exact ⟨[], by simp, rfl⟩

/-- Characters that stand for themselves, with a percent sign behind them, match the texts that
begin with them. -/
theorem matchPieces_exactly_any (s text : List Char) :
    matchPieces (s.map r.exactly ++ [.any]) text = true ↔
      s.map r.fold <+: text.map r.fold := by
  rw [matchPieces_exactly_append]
  constructor
  · rintro ⟨u, v, rfl, hfold, -⟩
    exact ⟨v.map r.fold, by simp [hfold]⟩
  · rintro ⟨w, hw⟩
    obtain ⟨u, v, rfl, hfold, -⟩ := List.map_eq_append_iff.1 hw.symm
    exact ⟨u, v, rfl, hfold, matchPieces_any v⟩

/-- Characters that stand for themselves match the texts that are the same when folded. -/
theorem matchPieces_exactly (s text : List Char) :
    matchPieces (s.map r.exactly) text = true ↔ text.map r.fold = s.map r.fold := by
  rw [← List.append_nil (s.map r.exactly), matchPieces_exactly_append]
  constructor
  · rintro ⟨u, v, rfl, hfold, hv⟩
    obtain rfl : v = [] := by simpa [matchPieces] using hv
    simpa using hfold
  · exact fun h => ⟨text, [], by simp, h, rfl⟩

/-- A percent sign in front of a pattern matches the texts with an ending that the pattern
matches. -/
theorem matchPieces_any_cons (ps : List Piece) (text : List Char) :
    matchPieces (.any :: ps) text = true ↔ ∃ v, v <:+ text ∧ matchPieces ps v = true := by
  simp [matchPieces]

/-- Escaped text between percent signs matches the texts that hold it. -/
theorem isMatch_contains (s text : List Char) :
    r.isMatch (some likeEscape) ('%' :: escapePattern s ++ ['%']) text = true ↔
      s.map r.fold <:+: text.map r.fold := by
  have hpieces : r.pieces (some likeEscape) ('%' :: (escapePattern s ++ ['%'])) =
      some (.any :: (s.map r.exactly ++ [.any])) := by
    rw [pieces_percent _ (by decide), pieces_escapePattern_append, pieces_percent _ (by decide)]
    simp [pieces]
  rw [isMatch, Option.some_or, List.cons_append, hpieces]
  change matchPieces (.any :: _) text = true ↔ _
  rw [matchPieces_any_cons]
  -- the first percent sign takes what stands in front of the part, the last one what follows it
  constructor
  · rintro ⟨v, hsuffix, hmatch⟩
    exact ((r.matchPieces_exactly_any s v).1 hmatch).isInfix.trans (hsuffix.map r.fold).isInfix
  · rintro ⟨a, b, hab⟩
    obtain ⟨u, v, rfl, -, hv⟩ := List.map_eq_append_iff.1
      (show text.map r.fold = a ++ (s.map r.fold ++ b) by simpa using hab.symm)
    exact ⟨v, List.suffix_append u v, (r.matchPieces_exactly_any s v).2 ⟨b, hv.symm⟩⟩

/-- Escaped text in front of a percent sign matches the texts that begin with it. -/
theorem isMatch_startsWith (s text : List Char) :
    r.isMatch (some likeEscape) (escapePattern s ++ ['%']) text = true ↔
      s.map r.fold <+: text.map r.fold := by
  have hpieces : r.pieces (some likeEscape) (escapePattern s ++ ['%']) =
      some (s.map r.exactly ++ [.any]) := by
    rw [pieces_escapePattern_append, pieces_percent _ (by decide)]
    simp [pieces]
  rw [isMatch, Option.some_or, hpieces]
  exact r.matchPieces_exactly_any s text

/-- Escaped text behind a percent sign matches the texts that end with it. -/
theorem isMatch_endsWith (s text : List Char) :
    r.isMatch (some likeEscape) ('%' :: escapePattern s) text = true ↔
      s.map r.fold <:+ text.map r.fold := by
  have hpieces : r.pieces (some likeEscape) ('%' :: escapePattern s) =
      some (.any :: s.map r.exactly) := by
    have hread := r.pieces_escapePattern_append s []
    rw [List.append_nil] at hread
    rw [pieces_percent _ (by decide), hread]
    simp [pieces]
  rw [isMatch, Option.some_or, hpieces]
  change matchPieces (.any :: _) text = true ↔ _
  rw [matchPieces_any_cons]
  -- the percent sign takes what stands in front of the ending
  constructor
  · rintro ⟨v, hsuffix, hmatch⟩
    rw [← (r.matchPieces_exactly s v).1 hmatch]
    exact hsuffix.map r.fold
  · rintro ⟨a, ha⟩
    obtain ⟨u, v, rfl, -, hv⟩ := List.map_eq_append_iff.1 ha.symm
    exact ⟨v, List.suffix_append u v, (r.matchPieces_exactly s v).2 hv⟩

end PatternRules

end FilterSql
