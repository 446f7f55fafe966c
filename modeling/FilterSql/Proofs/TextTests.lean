import FilterSql.Proofs.Compiling
import FilterSql.Proofs.Like
import FilterSql.Proofs.Offences
import Mathlib.Data.Nat.Bits

/-!
# Tests of a text match literally

A predicate may ask whether a property contains a text, begins with it or ends with it. The text is
given to the database as a pattern, in which every character with a meaning of its own is escaped. So
the pattern means the text and nothing else, whatever characters the text is made of and whether or not
the database knows classes of characters.

## Main definitions

* `TextTest`: the tests of a text, with the predicates and the relations that they stand for;
* `PatternRules.standard` and `PatternRules.bracketed`: the pattern languages without and with classes
  of characters between brackets;
* `EscapesPaired`: no escape character stands at the end of a pattern without one to escape.

## Main results

* `TextTest.isMatch_pattern`: which texts the pattern of a test matches;
* `TextTest.compileNode_negations`: what a test is compiled to under negations;
* `TextTest.matches_literally`: what a test of a text means to the database.
-/

namespace FilterSql

/-! ### Pattern languages -/

namespace PatternRules

/-- The pattern language of the SQL standard: characters are compared by equality, and there are no
classes of them. -/
def standard : PatternRules where
  fold := id
  defaultEscape := none
  classAt _ := none

/-- Whether a character is in a class, given what stands between the brackets: single characters and
ranges of them. -/
def inClass (c : Char) : List Char → Bool
  | low :: '-' :: high :: rest => (low ≤ c && c ≤ high) || inClass c rest
  | d :: rest => c == d || inClass c rest
  | [] => false

/-- The standard with classes of characters: an opening bracket starts a class that goes up to the next
closing bracket, and a caret behind it takes the other characters. A bracket that is never closed
matches nothing. -/
def bracketed : PatternRules where
  fold := id
  defaultEscape := none
  classAt cs :=
    let items := cs.takeWhile (· ≠ ']')
    if items.length = cs.length then some (fun _ => false, cs.length)
    else match items with
      | '^' :: excluded => some (fun c => !inClass c excluded, items.length + 1)
      | _ => some (fun c => inClass c items, items.length + 1)

end PatternRules

/-- Every escape character in a pattern has a character behind it that it escapes. -/
inductive EscapesPaired (escape : Char) : List Char → Prop
  | nil : EscapesPaired escape []
  | plain {c : Char} {cs : List Char} (h : c ≠ escape) (rest : EscapesPaired escape cs) :
    EscapesPaired escape (c :: cs)
  | escaped (c : Char) {cs : List Char} (rest : EscapesPaired escape cs) :
    EscapesPaired escape (escape :: c :: cs)

/-- Escaped text leaves no escape character without one to escape, whatever follows it. -/
theorem EscapesPaired.escapePattern_append (s : List Char) {rest : List Char}
    (h : EscapesPaired likeEscape rest) : EscapesPaired likeEscape (escapePattern s ++ rest) := by
  induction s with
  | nil => exact h
  | cons c s ih =>
    rw [escapePattern, List.flatMap_cons, List.append_assoc]
    -- the escape character is a mark itself, so it never stands for itself
    split
    · exact .escaped c ih
    · next hmark => exact .plain (fun hc => hmark (by simp [hc, isPatternMark])) ih

/-! ### Tests of a text -/

/-- A test of a text for another one. -/
inductive TextTest where
  | contains | startsWith | endsWith
deriving DecidableEq, Repr

namespace TextTest

/-- The predicate that asks for the test of a property. -/
def predicate : TextTest → (name s : String) → Predicate
  | contains, name, s => (Predicate.property name).contains (.text s)
  | startsWith, name, s => (Predicate.property name).startsWith (.text s)
  | endsWith, name, s => (Predicate.property name).endsWith (.text s)

/-- The text `s` is a part of `t`, or its beginning or end. -/
def Holds : TextTest → (s t : List Char) → Prop
  | contains, s, t => s <:+: t
  | startsWith, s, t => s <+: t
  | endsWith, s, t => s <:+ t

instance : (test : TextTest) → (s t : List Char) → Decidable (test.Holds s t)
  | contains, s, t => inferInstanceAs (Decidable (s <:+: t))
  | startsWith, s, t => inferInstanceAs (Decidable (s <+: t))
  | endsWith, s, t => inferInstanceAs (Decidable (s <:+ t))

/-- The pattern that is made from the text. -/
def pattern : TextTest → String → String
  | contains, s => "%" ++ escapeLike s ++ "%"
  | startsWith, s => escapeLike s ++ "%"
  | endsWith, s => "%" ++ escapeLike s

/-- The pattern of a test leaves no escape character without one to escape. -/
theorem escapesPaired_pattern (test : TextTest) (s : String) :
    EscapesPaired likeEscape (test.pattern s).toList := by
  have hpercent {rest : List Char} (h : EscapesPaired likeEscape rest) :
      EscapesPaired likeEscape ('%' :: rest) := .plain (by decide) h
  cases test with
  | contains =>
    simpa [pattern, escapeLike] using hpercent (.escapePattern_append s.toList (hpercent .nil))
  | startsWith => simpa [pattern, escapeLike] using .escapePattern_append s.toList (hpercent .nil)
  | endsWith => simpa [pattern, escapeLike] using hpercent (.escapePattern_append s.toList .nil)

/-- The pattern of a test matches the texts that the test holds for, when characters are compared by
equality. -/
theorem isMatch_pattern (test : TextTest) {r : PatternRules} (hfold : r.fold = id) (s : String)
    (t : List Char) :
    r.isMatch (some likeEscape) (test.pattern s).toList t = true ↔ test.Holds s.toList t := by
  cases test with
  | contains => simpa [pattern, escapeLike, Holds, hfold] using r.isMatch_contains s.toList t
  | startsWith => simpa [pattern, escapeLike, Holds, hfold] using r.isMatch_startsWith s.toList t
  | endsWith => simpa [pattern, escapeLike, Holds, hfold] using r.isMatch_endsWith s.toList t

end TextTest

/-! ### Conditions and statements -/

namespace Condition

/-- A test of a column for a pattern in which the escape character is declared. -/
def ofPattern (field : Field) (pattern : String) (negated : Bool) : Condition :=
  { field, operator := if negated then .notLike else .like, value := .text pattern
    escape := some likeEscape }

variable {field : Field} {pattern : String} {negated : Bool}

/-- Negating a test for a pattern keeps the pattern and the escape character. -/
theorem negated_ofPattern :
    (ofPattern field pattern negated).negated = ofPattern field pattern !negated := by
  cases negated <;> rfl

/-- A statement can hold a test for a pattern. -/
theorem check_ofPattern : (ofPattern field pattern negated).check = .ok () := by
  cases negated <;> rfl

/-- A test for a pattern declares the escape character. -/
theorem relation_ofPattern (start : Nat) :
    (ofPattern field pattern negated).relation start = .like negated start (some likeEscape) := by
  cases negated <;> rfl

/-- The pattern is what a test for it binds. -/
theorem operands_ofPattern : (ofPattern field pattern negated).operands = [.text pattern] := by
  cases negated <;> rfl

end Condition

/-- A condition that a statement can hold is bound alone to its test, with its values as parameters. -/
theorem Node.bindAllFrom_leaf {c : Condition} (h : c.check = .ok ()) (column : Column) (start : Nat) :
    bindAllFrom start [leaf (c, column)] =
      .ok ([leaf { column := column.name, relation := c.relation start }],
        Parameter.number column.dbType start c.operands) := by
  rw [bindAllFrom, bindFrom, c.bindTo_eq, h]
  exact congrArg Except.ok (Prod.ext rfl (List.append_nil _))

/-- What a request asks of the database when its only condition is a test for a pattern. -/
structure Builder.AsksFor (b : Builder) (r : Request) (types : TypeChain) (pattern : String)
    (negated : Bool) : Prop where
  /-- Queries and counts are built, with a row limit that fits a statement if there is one. -/
  built : r.operation = .query ∨ r.operation = .count → (∀ n ∈ r.top, n ≤ 2 ^ 63 - 1) →
    ∃ st, (b.run r types).1 = .ok st
  /-- A statement that reads rows has one test, which declares the escape character, and the pattern is
  its only parameter. -/
  test : (∀ spec, r.operation ≠ .merge spec) → ∀ st, (b.run r types).1 = .ok st →
    (∃ column, st.command.filter = .all [{ column, relation := .like negated 0 (some likeEscape) }]) ∧
      st.parameters.map (·.value) = [.text pattern]

/-- A request with a test for a pattern as its only condition asks for the pattern. -/
theorem Builder.asksFor_ofPattern (b : Builder) {r : Request} (types : TypeChain) {field : Field}
    {pattern : String} {negated : Bool} (hfilter : r.filter = .all [.ofPattern field pattern negated]) :
    b.AsksFor r types pattern negated where
  built hop htop := by
    rw [← map_unit_eq_ok_iff, check_run hop htop, hfilter]
    change ((Condition.ofPattern field pattern negated).check >>= fun _ => pure ()) = _
    rw [Condition.check_ofPattern]
    rfl
  test hreads st h := by
    obtain ⟨children, hchildren, hbind⟩ := run_filter (Prod.ext h rfl) hreads
    rw [hfilter] at hbind hchildren
    -- the parameter of the only leaf has position 0
    have hleaf := (Node.bindAllFrom_leaf Condition.check_ofPattern _ 0).symm.trans hbind
    obtain ⟨rfl, hparameters⟩ := Prod.mk.inj (Except.ok.inj hleaf)
    rw [Condition.relation_ofPattern] at hchildren
    rw [Condition.operands_ofPattern] at hparameters
    refine ⟨⟨_, hchildren⟩, ?_⟩
    rw [← hparameters]
    rfl

namespace TextTest

variable {e : Entity} {fieldCase : FieldCase} {name : String} {p : Property}

/-- A test of a text is compiled to a test for its pattern. -/
theorem compileNode_predicate (test : TextTest) (s : String)
    (found : e.property? fieldCase name = some p) :
    (test.predicate name s).compileNode e fieldCase =
      .ok (.leaf (.ofPattern p.field (test.pattern s) false)) := by
  have hcolumn : Predicate.column e fieldCase name = .ok p.field :=
    Predicate.column_eq_ok_iff.2 ⟨p, found, rfl⟩
  have hpattern (pattern : String) : Predicate.patternTest e fieldCase name pattern =
      .ok (.ofPattern p.field pattern false) := by
    rw [Predicate.patternTest, hcolumn]
    rfl
  cases test with
  | contains =>
    rw [predicate, Predicate.contains, Predicate.compileNode, Predicate.callCondition, hpattern]
    rfl
  | startsWith =>
    rw [predicate, Predicate.startsWith, Predicate.compileNode, Predicate.callCondition, hpattern]
    rfl
  | endsWith =>
    rw [predicate, Predicate.endsWith, Predicate.compileNode, Predicate.callCondition, hpattern]
    rfl

/-- A test of a text under negations is compiled to a test for its pattern, which is negated when the
number of negations is odd. -/
theorem compileNode_negations (test : TextTest) (s : String)
    (found : e.property? fieldCase name = some p) (n : Nat) :
    (Predicate.not^[n] (test.predicate name s)).compileNode e fieldCase =
      .ok (.leaf (.ofPattern p.field (test.pattern s) n.bodd)) := by
  induction n with
  | zero => exact test.compileNode_predicate s found
  | succ n ih =>
    rw [Function.iterate_succ_apply', Predicate.compileNode, ih, Nat.bodd_succ,
      ← Condition.negated_ofPattern]
    rfl

/-- A test of a text is a pattern for the database that means the text literally. Where characters are
compared by equality, with or without classes of them, the pattern matches the texts that the test holds
for, and no escape character in it stands without one to escape. The test is normalized to a single
condition under any number of negations, and every statement by this condition asks for the same
pattern with the same escape character. -/
theorem matches_literally (test : TextTest) (s : String)
    (found : e.property? fieldCase name = some p) :
    ∃ pattern : String,
      (∀ r : PatternRules, r.fold = id → ∀ t : String,
        r.isMatch (some '!') pattern.toList t.toList = true ↔ test.Holds s.toList t.toList) ∧
      EscapesPaired '!' pattern.toList ∧
      ∀ n : Nat,
        (Filter.predicate (Predicate.not^[n] (test.predicate name s))).normalize e fieldCase =
            .ok (.all [.ofPattern p.field pattern n.bodd]) ∧
          ∀ (b : Builder) (r : Request) (types : TypeChain),
            r.filter = .all [.ofPattern p.field pattern n.bodd] →
              b.AsksFor r types pattern n.bodd := by
  refine ⟨test.pattern s, fun r hfold t => test.isMatch_pattern hfold s t.toList,
    test.escapesPaired_pattern s, fun n => ⟨?_, fun b r types => b.asksFor_ofPattern types⟩⟩
  change (Predicate.compile e fieldCase _ >>= fun g => g.validate >>= fun _ => pure g) = _
  rw [Predicate.compile, compileNode_negations test s found]
  cases n.bodd <;> rfl

/-- A text of marks alone is looked for as it is, with classes of characters or without. -/
theorem matches_literally_marks :
    let e : Entity :=
      { name := "Person", table := { name := "person" }
        properties := [{ name := "Name", kind := .text }] }
    let p : Property := { name := "Name", kind := .text }
    e.property? .exact "Name" = some p ∧
      ∃ pattern : String,
        (Filter.predicate (.not (TextTest.endsWith.predicate "Name" "[%]!"))).normalize e .exact =
            .ok (.all [.ofPattern p.field pattern true]) ∧
          PatternRules.bracketed.isMatch (some '!') pattern.toList "50[%]!".toList = true ∧
          PatternRules.bracketed.isMatch (some '!') pattern.toList "50%!".toList = false ∧
          PatternRules.standard.isMatch (some '!') pattern.toList "50[%]!".toList = true := by
  intro e p
  have found : e.property? .exact "Name" = some p := rfl
  obtain ⟨pattern, hmatch, -, hnormalize⟩ := matches_literally .endsWith "[%]!" found
  refine ⟨found, pattern, (hnormalize 1).1, (hmatch _ rfl _).2 (by decide), ?_,
    (hmatch _ rfl _).2 (by decide)⟩
  rw [Bool.eq_false_iff, Ne, hmatch _ rfl]
  decide

end TextTest

end FilterSql
