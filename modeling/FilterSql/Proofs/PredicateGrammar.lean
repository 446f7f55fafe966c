import FilterSql.Proofs.Compiling
import FilterSql.Proofs.Offences

/-!
# The predicates that are accepted

The expression language is wider than what can be compiled. A predicate is accepted when it is built by
connectives from tests of a few forms. A predicate with a test of another form is not an expression that
can be compiled, and the first such test is the one that is reported; a predicate whose tests all have
the right forms may still ask for a list as an element of a membership test, or for a bound that is null
or a list.

## Main definitions

* `Predicate.Translatable`: the forms of tests that can be compiled;
* `Predicate.WellShaped`: elements and bounds of a test are as they have to be;
* `Predicate.Compilable`, `Predicate.Accepted`: predicates that are built from such tests;
* `Predicate.literals`: the tests of a predicate from left to right, each with the negations above it;
* `Predicate.Rejected`: what is reported about a predicate that is not accepted.

## Main results

* `Predicate.Compiled.renders`: the conditions of a compiled predicate are those of its literals;
* `Predicate.compileNode_eq_error_iff`: a predicate fails to compile as its first literal does that
  cannot be compiled;
* `Filter.normalizes_predicate_iff`: which predicates are normalized, and what is reported about the
  others.
-/

namespace FilterSql

namespace Predicate

/-! ### The grammar -/

/-- A test of a form that can be compiled. Every property that it names is found in the entity. -/
inductive Translatable (e : Entity) (fieldCase : FieldCase) : Predicate → Prop
  /-- A property is compared with a scalar, and with null for equality only. -/
  | compare {name : String} {op : Comparison} {v : Value} {p : Property}
    (found : e.property? fieldCase name = some p) (scalar : v.isList = false)
    (null : v.isNull = true → op = .eq ∨ op = .ne) :
    Translatable e fieldCase (.compare (.property name) op (.constant v))
  /-- The same with the operands exchanged. -/
  | flipped {name : String} {op : Comparison} {v : Value} {p : Property}
    (found : e.property? fieldCase name = some p) (scalar : v.isList = false)
    (null : v.isNull = true → op = .eq ∨ op = .ne) :
    Translatable e fieldCase (.compare (.constant v) op (.property name))
  /-- A property that is true or false stands alone. -/
  | flag {name : String} {p : Property} (found : e.property? fieldCase name = some p)
    (bool : p.kind = .bool) : Translatable e fieldCase (.property name)
  /-- A constant list contains a property. -/
  | member {name : String} {items : List Value} {p : Property}
    (found : e.property? fieldCase name = some p) :
    Translatable e fieldCase (.call "contains" (.constant (.list items)) [.property name])
  /-- A property contains a constant text, begins with it or ends with it. -/
  | textTest {method name s : String} {p : Property}
    (known : method ∈ ["contains", "starts_with", "ends_with"])
    (found : e.property? fieldCase name = some p) :
    Translatable e fieldCase (.call method (.property name) [.constant (.text s)])
  /-- A property lies between two constants. -/
  | range {name : String} {low high : Value} {p : Property}
    (found : e.property? fieldCase name = some p) :
    Translatable e fieldCase (.call "between" (.property name) [.constant low, .constant high])

/-- The elements of a constant list are scalars, and the bounds of a range are scalars other than
null. -/
def WellShaped : Predicate → Prop
  | call "contains" (constant (.list items)) _ => ∀ v ∈ items, v.isList = false
  | call "between" _ [constant low, constant high] =>
    ∀ v ∈ [low, high], v.isNull = false ∧ v.isList = false
  | _ => True

/-- A predicate is built by connectives from tests that have a property. -/
def Built (T : Predicate → Prop) : Predicate → Prop
  | and left right | or left right => left.Built T ∧ right.Built T
  | not inner => inner.Built T
  | p => T p

/-- A predicate is built from tests of forms that can be compiled. -/
def Compilable (e : Entity) (fieldCase : FieldCase) : Predicate → Prop :=
  Built (Translatable e fieldCase)

/-- A predicate is built from tests of forms that can be compiled, with elements and bounds as they have
to be. -/
def Accepted (e : Entity) (fieldCase : FieldCase) : Predicate → Prop :=
  Built fun t => t.Translatable e fieldCase ∧ t.WellShaped

/-- A predicate is a test under any number of negations. -/
def isLiteral : Predicate → Bool
  | and _ _ | or _ _ => false
  | not inner => inner.isLiteral
  | _ => true

/-- The tests of a predicate from left to right, each with the negations that stand right above it. -/
def literals : Predicate → List Predicate
  | and left right | or left right => left.literals ++ right.literals
  | not inner => if inner.isLiteral then [not inner] else inner.literals
  | p => [p]

variable {e : Entity} {fieldCase : FieldCase} {T : Predicate → Prop}

/-- A literal is its only one. -/
theorem literals_of_isLiteral {p : Predicate} (h : p.isLiteral = true) : p.literals = [p] := by
  cases p with
  | and | or => cases h
  | not inner => exact if_pos h
  | _ => simp [literals]

/-- A predicate is built from tests that have a property when its literals are. -/
theorem built_iff_forall_literals (p : Predicate) :
    p.Built T ↔ ∀ t ∈ p.literals, t.Built T := by
  induction p using literals.induct with
  | case1 left right ihleft ihright | case2 left right ihleft ihright =>
    rw [Built, literals, List.forall_mem_append, ihleft, ihright]
  | case3 inner hliteral => rw [literals, if_pos hliteral, List.forall_mem_singleton]
  | case4 inner hliteral ih => rw [Built, literals, if_neg hliteral, ih]
  | case5 p hand hor hnot => simp [literals]

/-! ### One test -/

/-- Exchanging the operands keeps a test for equality. -/
theorem flip_equality_iff (op : Comparison) :
    (op.flip = .eq ∨ op.flip = .ne) ↔ op = .eq ∨ op = .ne := by
  cases op <;> decide

/-- The column of a property is there when the property is found. -/
theorem exists_column_iff {name : String} :
    (∃ field, column e fieldCase name = .ok field) ↔
      ∃ p, e.property? fieldCase name = some p := by
  simp only [column_eq_ok_iff]
  exact ⟨fun ⟨_, p, hp, _⟩ => ⟨p, hp⟩, fun ⟨p, hp⟩ => ⟨_, p, hp, rfl⟩⟩

/-- A comparison is compiled when the property is found and the constant is a scalar, which may be null
for equality only. -/
theorem exists_comparison_iff {name : String} {op : Comparison} {v : Value} :
    (∃ c, comparison e fieldCase name op v = .ok c) ↔
      (∃ p, e.property? fieldCase name = some p) ∧ v.isList = false ∧
        (v.isNull = true → op = .eq ∨ op = .ne) := by
  rw [← exists_column_iff]
  unfold comparison
  cases column e fieldCase name with
  | error err => simp [bind, Except.bind]
  | ok field =>
    -- the constant alone decides, unless it is null
    cases v with
    | null =>
      cases op <;> simp [bind, Except.bind, pure, Except.pure, reject, Value.isList, Value.isNull]
    | _ => simp [bind, Except.bind, pure, Except.pure, reject, Value.isList, Value.isNull]

/-- The condition of a comparison has a value that suits it. -/
theorem suits_of_comparison {name : String} {op : Comparison} {v : Value} {c : Condition}
    (h : comparison e fieldCase name op v = .ok c) : c.Suits := by
  have hscalar := (exists_comparison_iff.1 ⟨c, h⟩).2.1
  unfold comparison at h
  obtain ⟨field, -, hc⟩ := bind_eq_ok_iff.1 h
  split at hc
  case h_3 | h_4 => cases hc
  all_goals obtain rfl := Except.ok.inj hc
  · rfl
  · rfl
  · cases op <;> exact hscalar

/-- The condition of a pattern test has a value that suits it. -/
theorem suits_of_patternTest {name pattern : String} {c : Condition}
    (h : patternTest e fieldCase name pattern = .ok c) : c.Suits := by
  unfold patternTest at h
  obtain ⟨field, -, hc⟩ := bind_eq_ok_iff.1 h
  obtain rfl := Except.ok.inj hc
  rfl

/-- A call that is compiled is a test of a form that can be compiled, and its condition has a value that
suits it when elements and bounds are as they have to be. -/
theorem translatable_of_callCondition {method : String} {target : Predicate}
    {arguments : List Predicate} {c : Condition}
    (h : callCondition e fieldCase method target arguments = .ok c) :
    (call method target arguments).Translatable e fieldCase ∧
      (c.Suits ↔ (call method target arguments).WellShaped) := by
  unfold callCondition at h
  split at h
  case h_6 => split at h <;> cases h
  case h_2 | h_3 | h_4 =>
    -- the pattern is a text, whatever it is made from
    have hsuits := suits_of_patternTest h
    obtain ⟨field, hfield, -⟩ := bind_eq_ok_iff.1 h
    obtain ⟨p, hp⟩ := exists_column_iff.1 ⟨field, hfield⟩
    exact ⟨.textTest (by simp) hp, by simp [hsuits, WellShaped]⟩
  · obtain ⟨field, hfield, hc⟩ := bind_eq_ok_iff.1 h
    obtain ⟨p, hp⟩ := exists_column_iff.1 ⟨field, hfield⟩
    obtain rfl := Except.ok.inj hc
    exact ⟨.member hp, by simp [Condition.Suits, Condition.isIn, WellShaped]⟩
  · obtain ⟨field, hfield, hc⟩ := bind_eq_ok_iff.1 h
    obtain ⟨p, hp⟩ := exists_column_iff.1 ⟨field, hfield⟩
    obtain rfl := Except.ok.inj hc
    exact ⟨.range hp, by simp [Condition.Suits, Condition.between, WellShaped]⟩

/-- A test of a form that can be compiled is compiled to one condition. -/
theorem Translatable.exists_leaf {t : Predicate} (h : t.Translatable e fieldCase) :
    ∃ c, t.compileNode e fieldCase = .ok (.leaf c) := by
  simp only [compileNode_eq_ok_iff]
  cases h with
  | compare found scalar null =>
    obtain ⟨c, hc⟩ := exists_comparison_iff.2 ⟨⟨_, found⟩, scalar, null⟩
    exact ⟨c, .compare hc⟩
  | flipped found scalar null =>
    obtain ⟨c, hc⟩ := exists_comparison_iff.2
      ⟨⟨_, found⟩, scalar, fun hnull => (flip_equality_iff _).2 (null hnull)⟩
    exact ⟨c, .flipped hc⟩
  | flag found bool => exact ⟨_, .flag found bool⟩
  | member found =>
    obtain ⟨field, hfield⟩ := exists_column_iff.2 ⟨_, found⟩
    exact ⟨_, .call (by rw [callCondition, hfield]; rfl)⟩
  | textTest known found =>
    obtain ⟨field, hfield⟩ := exists_column_iff.2 ⟨_, found⟩
    simp only [List.mem_cons, List.not_mem_nil, or_false] at known
    rcases known with rfl | rfl | rfl
    all_goals exact ⟨_, .call (by rw [callCondition, patternTest, hfield]; rfl)⟩
  | range found =>
    obtain ⟨field, hfield⟩ := exists_column_iff.2 ⟨_, found⟩
    exact ⟨_, .call (by rw [callCondition, hfield]; rfl)⟩

/-! ### A whole predicate -/

/-- Only a literal is compiled to a single condition. -/
theorem Compiled.exists_group {p : Predicate} {n : Node Condition} (h : Compiled e fieldCase p n)
    (hliteral : p.isLiteral = false) :
    ∃ conjunction negated children, n = .group conjunction negated children := by
  induction h with
  | and | or => exact ⟨_, _, _, rfl⟩
  | not _ ih =>
    obtain ⟨conjunction, negated, children, rfl⟩ := ih hliteral
    exact ⟨_, _, _, rfl⟩
  | compare | flipped | flag | call => cases hliteral

/-- A negated condition takes values of the same form. -/
theorem suits_negated (c : Condition) : c.negated.Suits ↔ c.Suits := by
  cases hop : c.operator <;> simp [Condition.Suits, Condition.negated, Operator.negate, hop]

/-- A condition is what a literal is compiled to, and its value suits it when the elements and bounds of
the literal are as they have to be. -/
structure Renders (e : Entity) (fieldCase : FieldCase) (c : Condition) (t : Predicate) : Prop where
  /-- The literal is compiled to the condition alone. -/
  compiled : Compiled e fieldCase t (.leaf c)
  /-- What is asked of the value is asked of the elements and bounds. -/
  suits : c.Suits ↔ t.Built WellShaped

/-- A predicate that is compiled is built from tests of forms that can be compiled, and its conditions
are those of its literals. -/
theorem Compiled.renders {p : Predicate} {n : Node Condition} (h : Compiled e fieldCase p n) :
    p.Compilable e fieldCase ∧ List.Forall₂ (Renders e fieldCase) n.leaves p.literals := by
  induction h with
  | and _ _ ihleft ihright | or _ _ ihleft ihright =>
    refine ⟨⟨ihleft.1, ihright.1⟩, ?_⟩
    -- a flattened operand still has its conditions, in order
    rw [Node.leaves, Node.leavesOf_append, leavesOf_spliced, leavesOf_spliced, literals]
    exact List.rel_append ihleft.2 ihright.2
  | @not inner n hinner ih =>
    refine ⟨ih.1, ?_⟩
    cases hliteral : inner.isLiteral with
    | true =>
      -- the negation of a literal is pushed into its condition
      rw [literals_of_isLiteral hliteral] at ih
      obtain ⟨c, _, hc, hnil, hleaves⟩ := List.forall₂_cons_right_iff.1 ih.2
      obtain rfl : n = .leaf c :=
        Except.ok.inj
          ((compileNode_eq_ok_iff.2 hinner).symm.trans (compileNode_eq_ok_iff.2 hc.compiled))
      rw [literals_of_isLiteral (p := .not inner) hliteral]
      exact .cons ⟨.not hc.compiled, (suits_negated c).trans hc.suits⟩ .nil
    | false =>
      -- the negation of a group leaves its conditions alone
      obtain ⟨conjunction, negated, children, rfl⟩ := hinner.exists_group hliteral
      rw [literals, hliteral]
      exact ih.2
  | @compare name op v c hc =>
    obtain ⟨⟨p, hp⟩, hscalar, hnull⟩ := exists_comparison_iff.1 ⟨c, hc⟩
    have hsuits := suits_of_comparison hc
    exact ⟨.compare hp hscalar hnull, .cons ⟨.compare hc, by simp [hsuits, Built, WellShaped]⟩ .nil⟩
  | @flipped name op v c hc =>
    obtain ⟨⟨p, hp⟩, hscalar, hnull⟩ := exists_comparison_iff.1 ⟨c, hc⟩
    have hsuits := suits_of_comparison hc
    exact ⟨.flipped hp hscalar fun h => (flip_equality_iff op).1 (hnull h),
      .cons ⟨.flipped hc, by simp [hsuits, Built, WellShaped]⟩ .nil⟩
  | @flag name p hp hbool =>
    exact ⟨.flag hp hbool, .cons ⟨.flag hp hbool, by
      simp [Condition.Suits, Condition.eq, Value.isList, Built, WellShaped]⟩ .nil⟩
  | @call method target arguments c hc =>
    obtain ⟨hform, hsuits⟩ := translatable_of_callCondition hc
    exact ⟨hform, .cons ⟨.call hc, hsuits⟩ .nil⟩

/-- The predicates that are compiled are those built from tests of forms that can be compiled. -/
theorem compilable_iff {p : Predicate} :
    p.Compilable e fieldCase ↔ ∃ n, p.compileNode e fieldCase = .ok n := by
  constructor
  · intro h
    simp only [compileNode_eq_ok_iff]
    induction p using Built.induct with
    | case1 left right ihleft ihright =>
      obtain ⟨l, hl⟩ := ihleft h.1
      obtain ⟨r, hr⟩ := ihright h.2
      exact ⟨_, .and hl hr⟩
    | case2 left right ihleft ihright =>
      obtain ⟨l, hl⟩ := ihleft h.1
      obtain ⟨r, hr⟩ := ihright h.2
      exact ⟨_, .or hl hr⟩
    | case3 inner ih =>
      obtain ⟨n, hn⟩ := ih h
      exact ⟨_, .not hn⟩
    | case4 t hand hor hnot =>
      have htest : t.Translatable e fieldCase := by simpa only [Compilable, Built] using h
      obtain ⟨c, hc⟩ := htest.exists_leaf
      exact ⟨_, compileNode_eq_ok_iff.1 hc⟩
  · rintro ⟨n, hn⟩
    exact (compileNode_eq_ok_iff.1 hn).renders.1

/-- A predicate is accepted when it can be compiled and its literals have elements and bounds as they
have to be. -/
theorem accepted_iff {p : Predicate} :
    p.Accepted e fieldCase ↔ p.Compilable e fieldCase ∧ ∀ t ∈ p.literals, t.Built WellShaped := by
  rw [← built_iff_forall_literals]
  induction p using Built.induct with
  | case1 left right ihleft ihright | case2 left right ihleft ihright =>
    simp only [Accepted, Compilable, Built] at ihleft ihright ⊢
    rw [ihleft, ihright]
    tauto
  | case3 inner ih => exact ih
  | case4 t hand hor hnot =>
    simp only [Accepted, Compilable, Built]

/-! ### What is reported -/

/-- Two predicates in a row fail to compile as the first one does, or as the second one when the first
is compiled. -/
theorem both_eq_error_iff {p q : Predicate} {f : Node Condition → Node Condition → Node Condition}
    {err : QueryError} :
    (do return f (← p.compileNode e fieldCase) (← q.compileNode e fieldCase)) =
        (.error err : Except QueryError (Node Condition)) ↔
      p.compileNode e fieldCase = .error err ∨
        p.Compilable e fieldCase ∧ q.compileNode e fieldCase = .error err := by
  rw [compilable_iff]
  cases p.compileNode e fieldCase <;> cases q.compileNode e fieldCase <;>
    simp [bind, Except.bind, pure, Except.pure]

/-- A predicate that is its only literal is the one that fails. -/
theorem alone_eq_error_iff {t : Predicate} {err : QueryError} :
    (∃ t', FirstWith (fun t => ¬ t.Compilable e fieldCase) [t] t' ∧
      t'.compileNode e fieldCase = .error err) ↔ t.compileNode e fieldCase = .error err := by
  simp only [firstWith_cons_iff, not_firstWith_nil, and_false, or_false, and_assoc,
    exists_and_left, exists_eq_left]
  refine ⟨fun h => h.2, fun h => ⟨fun hcompilable => ?_, h⟩⟩
  obtain ⟨n, hn⟩ := compilable_iff.1 hcompilable
  exact nomatch h.symm.trans hn

/-- A predicate fails to compile as its first literal does that cannot be compiled. -/
theorem compileNode_eq_error_iff {p : Predicate} {err : QueryError} :
    p.compileNode e fieldCase = .error err ↔
      ∃ t, FirstWith (fun t => ¬ t.Compilable e fieldCase) p.literals t ∧
        t.compileNode e fieldCase = .error err := by
  induction p using literals.induct with
  | case1 left right ihleft ihright | case2 left right ihleft ihright =>
    -- the right operand is looked at when nothing on the left is reported
    have hleft : (∀ t ∈ left.literals, ¬ ¬ t.Compilable e fieldCase) ↔ left.Compilable e fieldCase := by
      simp only [not_not]
      exact (built_iff_forall_literals left).symm
    rw [compileNode, both_eq_error_iff, ihleft, ihright, literals]
    simp only [firstWith_append_iff, hleft, or_and_right, exists_or, and_assoc, exists_and_left]
  | case3 inner hliteral =>
    rw [literals_of_isLiteral (p := .not inner) hliteral, alone_eq_error_iff]
  | case4 inner hliteral ih =>
    rw [literals, if_neg hliteral, ← ih, compileNode]
    cases inner.compileNode e fieldCase <;> simp [bind, Except.bind, pure, Except.pure]
  | case5 t hand hor hnot =>
    simp only [literals]
    exact alone_eq_error_iff.symm

/-- A computation fails for nothing but an expression that cannot be compiled. -/
def OnlyUnsupported {α : Type} (x : Except QueryError α) : Prop :=
  ∀ err, x = .error err → ∃ fault, err = .unsupportedExpression fault

namespace OnlyUnsupported

variable {α β : Type}

/-- A result is no failure. -/
theorem ok (a : α) : OnlyUnsupported (.ok a) := fun _ h => nomatch h

/-- A refused predicate is an expression that cannot be compiled. -/
theorem reject (fault : ExpressionFault) : OnlyUnsupported (reject fault : Except QueryError α) :=
  fun _ h => ⟨fault, (Except.error.inj h).symm⟩

/-- Two computations in a row fail for nothing else when neither does. -/
theorem bind {x : Except QueryError α} {f : α → Except QueryError β} (hx : OnlyUnsupported x)
    (hf : ∀ a, OnlyUnsupported (f a)) : OnlyUnsupported (x >>= f) := by
  intro err h
  rcases bind_eq_error_iff.1 h with h | ⟨a, -, h⟩
  · exact hx err h
  · exact hf a err h

/-- What is made of the result does not matter. -/
theorem map {x : Except QueryError α} (hx : OnlyUnsupported x) (f : α → β) :
    OnlyUnsupported (f <$> x) := by
  intro err h
  exact hx err (map_eq_error_iff.1 h)

end OnlyUnsupported

/-- A name is refused only as an expression that cannot be compiled. -/
theorem onlyUnsupported_requireProperty (name : String) :
    OnlyUnsupported (requireProperty e fieldCase name) := by
  unfold requireProperty
  split
  · exact .ok _
  · exact .reject _

/-- A column is refused only as an expression that cannot be compiled. -/
theorem onlyUnsupported_column (name : String) : OnlyUnsupported (column e fieldCase name) :=
  (onlyUnsupported_requireProperty name).map _

/-- A comparison is refused only as an expression that cannot be compiled. -/
theorem onlyUnsupported_comparison (name : String) (op : Comparison) (v : Value) :
    OnlyUnsupported (comparison e fieldCase name op v) := by
  refine (onlyUnsupported_column name).bind fun field => ?_
  split
  case h_3 | h_4 => exact .reject _
  all_goals exact .ok _

/-- A method call is refused only as an expression that cannot be compiled. -/
theorem onlyUnsupported_callCondition (method : String) (target : Predicate)
    (arguments : List Predicate) :
    OnlyUnsupported (callCondition e fieldCase method target arguments) := by
  unfold callCondition
  split
  case h_6 => split <;> exact .reject _
  all_goals exact (onlyUnsupported_column _).bind fun _ => .ok _

/-- A predicate fails to compile only as an expression that cannot be compiled. -/
theorem onlyUnsupported_compileNode (p : Predicate) : OnlyUnsupported (p.compileNode e fieldCase) := by
  induction p using compileNode.induct with
  | case1 left right ihleft ihright | case2 left right ihleft ihright =>
    rw [compileNode]
    exact ihleft.bind fun _ => ihright.bind fun _ => .ok _
  | case3 inner ih =>
    rw [compileNode]
    exact ih.bind fun _ => .ok _
  | case4 name op v | case5 v op name =>
    rw [compileNode]
    exact (onlyUnsupported_comparison _ _ _).map _
  | case8 name =>
    rw [compileNode]
    refine (onlyUnsupported_requireProperty name).bind fun p => ?_
    split
    · exact .ok _
    · exact .reject _
  | case6 | case7 | case9 =>
    simp only [compileNode]
    exact .reject _
  | case10 method target arguments =>
    rw [compileNode]
    exact (onlyUnsupported_callCondition _ _ _).map _

/-- What is reported about a predicate that is not accepted. -/
inductive Rejected (e : Entity) (fieldCase : FieldCase) (p : Predicate) : QueryError → Prop
  /-- Some literals cannot be compiled, and what is reported about the first one alone is reported. -/
  | unsupported {t : Predicate} {fault : ExpressionFault}
    (first : FirstWith (fun t => ¬ t.Compilable e fieldCase) p.literals t)
    (alone : (Filter.predicate t).normalize e fieldCase = .error (.unsupportedExpression fault)) :
    Rejected e fieldCase p (.unsupportedExpression fault)
  /-- All can be compiled, but some have other elements or bounds than they have to, and what is
  reported about the first one alone is reported. -/
  | unsuited {t : Predicate} {field : String} {op : Operator} {fault : ArgumentFault}
    (compilable : p.Compilable e fieldCase)
    (first : FirstWith (fun t => ¬ t.Built WellShaped) p.literals t)
    (alone : (Filter.predicate t).normalize e fieldCase =
      .error (.invalidOperatorArgument field op fault)) :
    Rejected e fieldCase p (.invalidOperatorArgument field op fault)

end Predicate

namespace Filter

open Predicate

variable {e : Entity} {fieldCase : FieldCase} {p : Predicate} {err : QueryError}

/-- A predicate that is compiled is normalized as a group with the conditions of its tree. -/
theorem exists_normalize_group {n : Node Condition} (hn : p.compileNode e fieldCase = .ok n) :
    ∃ g : Group Condition, g.leaves = n.leaves ∧
      (predicate p).normalize e fieldCase = (group g).normalize e fieldCase := by
  have hgroup : ∃ g, p.compile e fieldCase = .ok g ∧ g.leaves = n.leaves := by
    rw [compile, hn]
    exact ⟨_, rfl, by cases n <;> rfl⟩
  obtain ⟨g, hg, hleaves⟩ := hgroup
  refine ⟨g, hleaves, ?_⟩
  change (p.compile e fieldCase >>= _) = _
  rw [hg]
  rfl

/-- A predicate that is not compiled is not normalized. -/
theorem normalize_of_compileNode_eq_error (h : p.compileNode e fieldCase = .error err) :
    (predicate p).normalize e fieldCase = .error err := by
  change (p.compile e fieldCase >>= _) = _
  rw [compile, h]
  rfl

/-- A predicate is normalized when it is compiled to conditions with values that suit them. -/
theorem exists_normalize_predicate_iff :
    (∃ g, (predicate p).normalize e fieldCase = .ok g) ↔
      ∃ n, p.compileNode e fieldCase = .ok n ∧ ∀ c ∈ n.leaves, c.Suits := by
  cases hnode : p.compileNode e fieldCase with
  | error err => simp [normalize_of_compileNode_eq_error hnode]
  | ok n =>
    obtain ⟨g, hleaves, hgroup⟩ := exists_normalize_group hnode
    simp [hgroup, normalize_group_eq_ok_iff, hleaves]

/-- A predicate that is not normalized is not compiled, or the value of some condition does not suit
it. -/
theorem normalize_predicate_eq_error_iff :
    (predicate p).normalize e fieldCase = .error err ↔
      p.compileNode e fieldCase = .error err ∨
        ∃ n, p.compileNode e fieldCase = .ok n ∧
          ∃ c fault, FirstWith (fun c => ¬ c.Suits) n.leaves c ∧ c.fault? = some fault ∧
            err = .invalidOperatorArgument c.field.name c.operator fault := by
  cases hnode : p.compileNode e fieldCase with
  | error err' => simp [normalize_of_compileNode_eq_error hnode]
  | ok n =>
    obtain ⟨g, hleaves, hgroup⟩ := exists_normalize_group hnode
    rw [hgroup, normalize_group_eq_error_iff, hleaves]
    simp

/-- A literal that is compiled is refused for what is wrong with the value of its condition. -/
theorem normalize_literal_eq_error_iff {c : Condition} {t : Predicate} (h : Renders e fieldCase c t) :
    (predicate t).normalize e fieldCase = .error err ↔
      ¬ c.Suits ∧ ∃ fault, c.fault? = some fault ∧
        err = .invalidOperatorArgument c.field.name c.operator fault := by
  rw [normalize_predicate_eq_error_iff, compileNode_eq_ok_iff.2 h.compiled]
  simp [Node.leaves, firstWith_cons_iff, not_firstWith_nil, and_assoc]

/-- For every entity and way of reading names, the predicates that are normalized are exactly those that
the grammar accepts. What is reported about the others is what is reported about the first literal that
cannot be compiled or, when all can be, about the first one with elements or bounds of the wrong form. -/
theorem normalizes_predicate_iff (e : Entity) (fieldCase : FieldCase) (p : Predicate) :
    ((∃ g, (predicate p).normalize e fieldCase = .ok g) ↔ p.Accepted e fieldCase) ∧
      ∀ err, (predicate p).normalize e fieldCase = .error err ↔ p.Rejected e fieldCase err := by
  constructor
  · rw [exists_normalize_predicate_iff, accepted_iff, compilable_iff, ← exists_and_right]
    refine exists_congr fun n => and_congr_right fun hn => ?_
    exact forall_mem_iff_of_forall₂ (compileNode_eq_ok_iff.1 hn).renders.2 fun c t h => h.suits
  · intro err
    rw [normalize_predicate_eq_error_iff]
    constructor
    · rintro (herr | ⟨n, hn, c, fault, hfirst, hfault, rfl⟩)
      · obtain ⟨fault, rfl⟩ := onlyUnsupported_compileNode p err herr
        obtain ⟨t, hfirst, ht⟩ := compileNode_eq_error_iff.1 herr
        exact .unsupported hfirst (normalize_of_compileNode_eq_error ht)
      · -- the first condition with a wrong value comes from the first literal of a wrong form
        obtain ⟨t, ht, hct⟩ := hfirst.of_forall₂ (compileNode_eq_ok_iff.1 hn).renders.2
          fun c t h => not_congr h.suits
        exact .unsuited (compilable_iff.2 ⟨n, hn⟩) ht
          ((normalize_literal_eq_error_iff hct).2 ⟨hfirst.1, fault, hfault, rfl⟩)
    · intro h
      cases h with
      | unsupported first alone =>
        refine .inl (compileNode_eq_error_iff.2 ⟨_, first, ?_⟩)
        rcases normalize_predicate_eq_error_iff.1 alone with h | ⟨_, -, _, _, -, -, h⟩
        · exact h
        · cases h
      | unsuited compilable first alone =>
        obtain ⟨n, hn⟩ := compilable_iff.1 compilable
        obtain ⟨c, hc, hct⟩ := first.of_forall₂ (compileNode_eq_ok_iff.1 hn).renders.2.flip
          fun t c h => (not_congr h.suits).symm
        obtain ⟨-, fault, hfault, herr⟩ := (normalize_literal_eq_error_iff hct).1 alone
        exact .inr ⟨n, hn, c, fault, hc, hfault, herr⟩

/-- Two operands of a disjunction cannot be compiled, and the left one is reported, before any bound is
looked at. With only the missing bound, that is reported, for the operator of the negated test. -/
theorem normalizes_predicate_leftmost :
    let e : Entity :=
      { name := "Person", table := { name := "person" }
        properties := [{ name := "Age", kind := .int }, { name := "Active", kind := .bool }] }
    let outside : Predicate := .not (.between (.property "Age") .null (.int 3))
    let active : Predicate := .property "Active"
    (∃ g, (predicate (.or (.not active) (.compare (.constant .null) .ne (.property "Age")))).normalize
        e .exact = .ok g) ∧
      (predicate (.and outside (.or (.not (.constant (.bool true))) (.property "Age")))).normalize
        e .exact = .error (.unsupportedExpression (.bareConstant (.bool true))) ∧
      (predicate (.and active outside)).normalize e .exact =
        .error (.invalidOperatorArgument "Age" .notBetween .boundNotScalar) := by
  intro e outside active
  have hactive : active.Translatable e .exact := .flag rfl rfl
  have houtside : outside.Compilable e .exact := .range rfl
  refine ⟨(normalizes_predicate_iff e .exact _).1.2 ⟨⟨hactive, trivial⟩, ?_, trivial⟩,
    ((normalizes_predicate_iff e .exact _).2 _).2
      (.unsupported ⟨?_, [outside], [.property "Age"], rfl, ?_⟩ rfl),
    ((normalizes_predicate_iff e .exact _).2 _).2
      (.unsuited ⟨hactive, houtside⟩ ⟨?_, [active], [], rfl, ?_⟩ rfl)⟩
  · exact .flipped rfl rfl fun _ => .inr rfl
  · exact fun hconstant => nomatch (hconstant : (constant (.bool true)).Translatable e .exact)
  · simpa using houtside
  · exact fun hbounds => nomatch (hbounds .null List.mem_cons_self).1
  · simp [active, Built, WellShaped]

end Filter

end FilterSql
