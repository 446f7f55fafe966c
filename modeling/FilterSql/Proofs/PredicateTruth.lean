import FilterSql.Proofs.Collation
import FilterSql.Proofs.Compiling
import FilterSql.Proofs.Truth

/-!
# Predicates keep their meaning

A predicate has a meaning of its own, whatever conditions it is compiled to. Compiling exchanges the
operands of comparisons, pushes negations into conditions or toggles them on groups, and flattens
chains of one connective; none of this changes the truth on any row.

## Main definitions

* `Predicate.truth`: the truth of a predicate, given the values of the properties;
* `Node.HasTruth`: the truth of a tree in which every group has a contributing part.

## Main results

* `Predicate.truth_comparison` and `Predicate.truth_callCondition`: a compiled condition has the
  truth of the comparison or call that it stands for;
* `Node.HasTruth.negateNode` and `Node.HasTruth.junction`: negating a tree and joining two of them
  does the same to their truths;
* `Predicate.hasTruth_compileNode`: the tree of a predicate has the truth of the predicate;
* `Filter.truth_predicate`: a predicate filter is normalized to a group of the same truth.
-/

namespace FilterSql

namespace Collation

variable (k : Collation)

/-- The truth of a test of a text for a relation to a given one; unknown for null. -/
def textTest (related : List Char → List Char → Bool) (v : Value) (s : String) : Truth :=
  if v.isNull then none else some (related (s.toList.map k.fold) ((k.text v).map k.fold))

/-- The truth of a comparison with the constant null: equality is a test for null, and no order is
defined. -/
def nullTest (op : Comparison) (v : Value) : Truth :=
  match op with
  | .eq => some v.isNull
  | .ne => some !v.isNull
  | _ => none

/-- A test for null does not depend on the side that null stands on. -/
theorem nullTest_flip (op : Comparison) (v : Value) : nullTest op.flip v = nullTest op v := by
  cases op <;> rfl

/-- An escaped pattern is matched as the plain text that it is made from. -/
theorem like_text {pattern s : String} {related : List Char → List Char → Bool}
    (h : ∀ text, k.isMatch (some likeEscape) pattern.toList text = true ↔
      related (s.toList.map k.fold) (text.map k.fold) = true) (v : Value) :
    k.like (some likeEscape) v (.text pattern) = k.textTest related v s := by
  have hmatch : k.isMatch (some likeEscape) pattern.toList (k.text v) =
      related (s.toList.map k.fold) ((k.text v).map k.fold) :=
    Bool.eq_iff_iff.2 (h (k.text v))
  have hnull : (Value.text pattern).isNull = false := rfl
  simp only [like, textTest, hnull, Bool.or_false, k.text_text, hmatch]

end Collation

namespace Predicate

/-- Whether a predicate is the constant null. -/
def isNullConstant : Predicate → Bool
  | constant .null => true
  | _ => false

/-- A constant is the constant null when its value is null. -/
theorem isNullConstant_constant (v : Value) : (constant v).isNullConstant = v.isNull := by
  cases v <;> rfl

/-- The value of an operand, given the values of the properties. Only properties and constants have
one. -/
def operandValue (value : String → Value) : Predicate → Value
  | property name => value name
  | constant v => v
  | _ => .null

/-- The truth of a predicate, given the values of the properties. A predicate that is no condition
has none. -/
def truth (k : Collation) (value : String → Value) : Predicate → Truth
  | property name => k.compare .eq (value name) (.bool true)
  | constant _ => none
  | compare left op right =>
    if left.isNullConstant then Collation.nullTest op (right.operandValue value)
    else if right.isNullConstant then Collation.nullTest op (left.operandValue value)
    else k.compare op (left.operandValue value) (right.operandValue value)
  | and left right => (left.truth k value).and (right.truth k value)
  | or left right => (left.truth k value).or (right.truth k value)
  | not inner => (inner.truth k value).not
  | call "contains" (constant (.list items)) [member] => k.among (member.operandValue value) items
  | call "contains" target [constant (.text s)] =>
    k.textTest (fun part text => decide (part <:+: text)) (target.operandValue value) s
  | call "starts_with" target [constant (.text s)] =>
    k.textTest (fun start text => decide (start <+: text)) (target.operandValue value) s
  | call "ends_with" target [constant (.text s)] =>
    k.textTest (fun ending text => decide (ending <:+ text)) (target.operandValue value) s
  | call "between" target [constant low, constant high] =>
    k.within (target.operandValue value) low high
  | call _ _ _ => none

variable {e : Entity} {fieldCase : FieldCase} {k : Collation} {row : String → Value}

/-- A compiled comparison has the truth of the comparison of the property with the constant. -/
theorem truth_comparison {name : String} {op : Comparison} {v : Value} {c : Condition}
    (h : comparison e fieldCase name op v = .ok c) :
    c.truth k (row c.field.name) =
      if v.isNull then Collation.nullTest op (row (e.columnOf fieldCase name))
      else k.compare op (row (e.columnOf fieldCase name)) v := by
  unfold comparison at h
  obtain ⟨field, hfield, hc⟩ := bind_eq_ok_iff.1 h
  rw [← name_of_column_eq_ok hfield]
  split at hc
  · obtain rfl : Condition.isNull field = c := by simpa [pure, Except.pure] using hc
    rfl
  · obtain rfl : Condition.isNotNull field = c := by simpa [pure, Except.pure] using hc
    rfl
  · cases hc
  · cases hc
  next hnull _ _ _ =>
    -- a comparison with null that is no equality has been refused, so the value is not null
    have hvalue : v.isNull = false := by
      cases v with
      | null => exact (hnull rfl).elim
      | _ => rfl
    obtain rfl : { field, operator := op.operator, value := v } = c := by
      simpa [pure, Except.pure] using hc
    cases op <;> simp [Condition.truth, Comparison.operator, hvalue]

/-- The condition of a pattern test has the truth of the test of the text. -/
theorem truth_patternTest {name pattern s : String} {c : Condition}
    {related : List Char → List Char → Bool}
    (hmatch : ∀ text, k.isMatch (some likeEscape) pattern.toList text = true ↔
      related (s.toList.map k.fold) (text.map k.fold) = true)
    (h : patternTest e fieldCase name pattern = .ok c) :
    c.truth k (row c.field.name) = k.textTest related (row (e.columnOf fieldCase name)) s := by
  unfold patternTest at h
  obtain ⟨field, hfield, hc⟩ := bind_eq_ok_iff.1 h
  obtain rfl : (Condition.like field pattern).withEscape likeEscape = c := by
    simpa [pure, Except.pure] using hc
  rw [← name_of_column_eq_ok hfield, ← k.like_text hmatch]
  rfl

/-- The condition of a method call has the truth of the call. -/
theorem truth_callCondition {method : String} {target : Predicate} {arguments : List Predicate}
    {c : Condition} (h : callCondition e fieldCase method target arguments = .ok c) :
    c.truth k (row c.field.name) =
      (call method target arguments).truth k fun name => row (e.columnOf fieldCase name) := by
  unfold callCondition at h
  split at h
  · -- membership in a constant collection
    obtain ⟨field, hfield, hc⟩ := bind_eq_ok_iff.1 h
    obtain rfl : Condition.isIn field _ = c := by simpa [pure, Except.pure] using hc
    rw [truth, operandValue, ← name_of_column_eq_ok hfield]
    rfl
  · -- a part of a text
    refine (truth_patternTest (fun text => ?_) h).trans rfl
    rw [decide_eq_true_iff, ← k.isMatch_contains]
    simp [escapeLike]
  · -- the beginning of a text
    refine (truth_patternTest (fun text => ?_) h).trans rfl
    rw [decide_eq_true_iff, ← k.isMatch_startsWith]
    simp [escapeLike]
  · -- the end of a text
    refine (truth_patternTest (fun text => ?_) h).trans rfl
    rw [decide_eq_true_iff, ← k.isMatch_endsWith]
    simp [escapeLike]
  · -- a range
    obtain ⟨field, hfield, hc⟩ := bind_eq_ok_iff.1 h
    obtain rfl : Condition.between field _ _ = c := by simpa [pure, Except.pure] using hc
    rw [truth, operandValue, ← name_of_column_eq_ok hfield]
    rfl
  · split at h <;> cases h

end Predicate

namespace Node

variable {leafTruth : Condition → Truth}

/-- The truth of a tree, if it is a leaf or a group with some contributing part. -/
def HasTruth (leafTruth : Condition → Truth) : Node Condition → Truth → Prop
  | leaf c, a => leafTruth c = a
  | group conjunction negated children, a =>
    truthsOf leafTruth children ≠ [] ∧
      (if negated then (conjunction.join (truthsOf leafTruth children)).not
        else conjunction.join (truthsOf leafTruth children)) = a

namespace HasTruth

variable {n l r : Node Condition} {a b : Truth}

/-- The tree contributes its truth. -/
theorem truth?_eq (h : n.HasTruth leafTruth a) : n.truth? leafTruth = some a := by
  cases n with
  | leaf c => exact congrArg some h
  | group conjunction negated children =>
    rw [truth?, Conjunction.combine_of_ne_nil _ _ h.1]
    exact congrArg some h.2

/-- Negating a tree negates its truth, if negating a condition does. -/
theorem negateNode (hleaf : ∀ c, leafTruth c.negated = (leafTruth c).not)
    (h : n.HasTruth leafTruth a) : (Predicate.negateNode n).HasTruth leafTruth a.not := by
  cases n with
  | leaf c => exact (hleaf c).trans (congrArg Truth.not h)
  | group conjunction negated children =>
    refine ⟨h.1, ?_⟩
    rw [← h.2]
    cases negated <;> simp

/-- What a tree adds to a group of a connective is joined to the truth of the tree. -/
theorem spliced (conjunction : Conjunction) (h : n.HasTruth leafTruth a) :
    truthsOf leafTruth (Predicate.spliced conjunction n) ≠ [] ∧
      conjunction.join (truthsOf leafTruth (Predicate.spliced conjunction n)) = a := by
  have hsingle : truthsOf leafTruth [n] = [a] := by
    rw [truthsOf_cons, h.truth?_eq]
    rfl
  unfold Predicate.spliced
  split
  · split
    · -- a plain group of the same connective adds its children
      next hsame =>
      subst hsame
      exact h
    · simp [hsingle]
  · simp [hsingle]

/-- Two trees joined by a connective have the joined truth. -/
theorem junction (conjunction : Conjunction) (hl : l.HasTruth leafTruth a)
    (hr : r.HasTruth leafTruth b) :
    HasTruth leafTruth
      (group conjunction false
        (Predicate.spliced conjunction l ++ Predicate.spliced conjunction r))
      (conjunction.pair a b) := by
  obtain ⟨hnonempty, hleft⟩ := hl.spliced conjunction
  obtain ⟨-, hright⟩ := hr.spliced conjunction
  simp [HasTruth, truthsOf_append, Conjunction.join_append, hnonempty, hleft, hright]

end HasTruth

end Node

/-- The truth of a condition whose field names a column of the row. -/
def Condition.truthOn (k : Collation) (row : String → Value) (c : Condition) : Truth :=
  c.truth k (row c.field.name)

/-- The tree of a predicate has the truth of the predicate. -/
theorem Predicate.hasTruth_compileNode {e : Entity} {fieldCase : FieldCase} {p : Predicate}
    {n : Node Condition} (k : Collation) (row : String → Value)
    (h : p.compileNode e fieldCase = .ok n) :
    n.HasTruth (Condition.truthOn k row)
      (p.truth k fun name => row (e.columnOf fieldCase name)) := by
  rw [compileNode_eq_ok_iff] at h
  induction h with
  | and _ _ ihleft ihright => exact ihleft.junction .and ihright
  | or _ _ ihleft ihright => exact ihleft.junction .or ihright
  | not _ ih => exact ih.negateNode fun c => c.truth_negated k _
  | compare hc =>
    rw [truth, isNullConstant_constant]
    exact truth_comparison hc
  | flipped hc =>
    -- the constant stands on the left, so the comparison is the other way round
    rw [truth, isNullConstant_constant, operandValue, operandValue, ← Collation.nullTest_flip,
      ← Collation.compare_flip]
    exact truth_comparison hc
  | flag hp _ =>
    -- a boolean property by itself is compared with true
    rw [truth, ← name_of_column_eq_ok (column_eq_ok_iff.2 ⟨_, hp, rfl⟩)]
    rfl
  | call hc => exact truth_callCondition hc

/-- The truth of a predicate filter, as it is normalized, is that of the predicate: on every row,
with each property standing for its column. -/
theorem Filter.truth_predicate {e : Entity} {fieldCase : FieldCase} {p : Predicate}
    {g : Group Condition} (h : (Filter.predicate p).normalize e fieldCase = .ok g) (k : Collation)
    (row : String → Value) :
    g.truth? (Condition.truthOn k row) =
      some (p.truth k fun name => row (e.columnOf fieldCase name)) := by
  obtain ⟨g', hcompile, h⟩ := bind_eq_ok_iff.1 h
  obtain ⟨_, -, h⟩ := bind_eq_ok_iff.1 h
  obtain rfl := Except.ok.inj h
  obtain ⟨n, hn, rfl⟩ := map_eq_ok_iff.1 hcompile
  have htruth := Predicate.hasTruth_compileNode k row hn
  cases n with
  | leaf c =>
    -- a single condition becomes a group of one part
    have hsingle : Node.HasTruth (Condition.truthOn k row) (.group .and false [.leaf c])
        (Condition.truthOn k row c) :=
      ⟨by simp [Node.truthsOf, Node.truth?], by simp [Node.truthsOf, Node.truth?]⟩
    rw [← htruth]
    exact hsingle.truth?_eq
  | group conjunction negated children => exact htruth.truth?_eq

/-- A negated conjunction of a test for null and a comparison with the constant on the left. -/
theorem Filter.truth_predicate_negated_conjunction :
    let e : Entity :=
      { name := "E", table := { name := "t" }
        properties := [{ name := "A", column := some "a", kind := .int },
          { name := "B", kind := .bool }] }
    let p : Predicate :=
      .not (.and (.compare (.constant (.int 1)) .lt (.property "A")) (.property "B"))
    ∃ g, (Filter.predicate p).normalize e .exact = .ok g ∧
      ∀ (k : Collation) (row : String → Value),
        g.truth? (Condition.truthOn k row) =
          some ((k.compare .lt (.int 1) (row "a")).and
            (k.compare .eq (row "B") (.bool true))).not := by
  intro e p
  have h : (Filter.predicate p).normalize e .exact = .ok _ := rfl
  exact ⟨_, h, Filter.truth_predicate h⟩

end FilterSql
