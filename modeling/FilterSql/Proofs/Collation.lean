import FilterSql.Proofs.Like
import FilterSql.Store.Engine

/-!
# Comparing values

What the operators of conditions mean on values, null included. A comparison with null is unknown;
other values are ordered by the database, and texts are matched by its pattern rules. A `Collation`
holds what databases may decide for themselves, so that a fact about every collation is a fact about
every database.

## Main definitions

* `Collation`: an order of the values, the texts that patterns are matched against, and the rules of
  the patterns;
* `Condition.truth`: the truth of a condition on the value of its column.

## Main results

* `Collation.compare_flip`: exchanging the operands of a comparison changes nothing;
* `Condition.truth_negated`: the complementary operator is the negation in three-valued logic.
-/

namespace FilterSql

/-- The elements of a list; nothing else has any. -/
def Value.items : Value → List Value
  | list vs => vs
  | _ => []

/-- How a database compares values. -/
structure Collation extends PatternRules where
  /-- The order of two values that are not null. -/
  order : Value → Value → Ordering
  /-- Exchanging two values reverses their order. -/
  order_swap : ∀ a b, (order a b).swap = order b a
  /-- Integers are ordered by size. -/
  order_int : ∀ m n : Int64, order (.int m) (.int n) = Ord.compare m.toInt n.toInt
  /-- The text of a value, as patterns are matched against it. -/
  text : Value → List Char
  /-- A text stands for itself. -/
  text_text : ∀ s, text (.text s) = s.toList

namespace Collation

/-- A number by which kinds of values are told apart. -/
def kindRank : Value → Int
  | .null => 0
  | .bool _ => 1
  | .int _ => 2
  | .float _ => 3
  | .text _ => 4
  | .bytes _ => 5
  | .list _ => 6

/-- The numbers that a value is compared by within its kind. -/
def kindKey : Value → List Int
  | .bool b => [b.toNat]
  | .int n => [n.toInt]
  | .float x => [x.toBits.toNat]
  | .text s => s.toList.map fun c => (c.toNat : Int)
  | .bytes bs => bs.map fun b => (b.toNat : Int)
  | .null | .list _ => []

/-- Values in the order of their kinds, and those of one kind by their parts; patterns without
classes, matched character by character. -/
def plain : Collation where
  fold := id
  defaultEscape := none
  classAt := fun _ => none
  order a b := Ord.compare (kindRank a :: kindKey a) (kindRank b :: kindKey b)
  order_swap a b := Std.OrientedOrd.eq_swap.symm
  order_int m n := by simp [kindRank, kindKey, List.compare_cons_cons]
  text
    | .text s => s.toList
    | _ => []
  text_text _ := rfl

variable (k : Collation)

/-- The truth of a comparison; unknown if a value is null. -/
def compare (op : Comparison) (a b : Value) : Truth :=
  if a.isNull || b.isNull then none else some (Store.comparisonHolds op (k.order a b))

/-- The truth of a membership test: equality with one of the values. -/
def among (a : Value) (values : List Value) : Truth :=
  Conjunction.or.join (values.map (k.compare .eq a))

/-- The truth of a range test with inclusive bounds. -/
def within (a low high : Value) : Truth :=
  (k.compare .ge a low).and (k.compare .le a high)

/-- The truth of a range test whose bounds are given as a list of two. -/
def withinBounds (a : Value) : Value → Truth
  | .list [low, high] => k.within a low high
  | _ => none

/-- The truth of a pattern test; unknown if a value is null. -/
def like (escape : Option Char) (a pattern : Value) : Truth :=
  if a.isNull || pattern.isNull then none
  else some (k.isMatch escape (k.text pattern) (k.text a))

/-- Exchanging the operands of a comparison, and the comparison with them, changes nothing. -/
theorem compare_flip (op : Comparison) (a b : Value) :
    k.compare op.flip b a = k.compare op a b := by
  unfold compare
  -- null on either side makes both comparisons unknown
  rw [← k.order_swap a b, Bool.or_comm]
  cases op <;> cases k.order a b <;> rfl

/-- A comparison is false exactly when the complementary one is true. -/
theorem not_compare {op op' : Comparison} (h : op.operator.negate = op'.operator) (a b : Value) :
    (k.compare op a b).not = k.compare op' a b := by
  unfold compare
  split
  · rfl
  · -- only the pairs of complementary operators are left
    cases op <;> cases op' <;> simp only [Comparison.operator, Operator.negate, reduceCtorEq] at h
    all_goals cases k.order a b <;> rfl

end Collation

namespace Condition

/-- The truth of a condition on the value of its column. Equality with null is a test for null, and
the negated operators are the negations of the plain ones. -/
def truth (k : Collation) (v : Value) (c : Condition) : Truth :=
  match c.operator with
  | .isNull => some v.isNull
  | .isNotNull => some !v.isNull
  | .equal => if c.value.isNull then some v.isNull else k.compare .eq v c.value
  | .notEqual => if c.value.isNull then some !v.isNull else k.compare .ne v c.value
  | .lessThan => k.compare .lt v c.value
  | .lessThanOrEqual => k.compare .le v c.value
  | .greaterThan => k.compare .gt v c.value
  | .greaterThanOrEqual => k.compare .ge v c.value
  | .like => k.like c.escape v c.value
  | .notLike => (k.like c.escape v c.value).not
  | .isIn => k.among v c.value.items
  | .notIn => (k.among v c.value.items).not
  | .between => k.withinBounds v c.value
  | .notBetween => (k.withinBounds v c.value).not

/-- The complementary operator is the negation in three-valued logic. -/
theorem truth_negated (k : Collation) (v : Value) (c : Condition) :
    c.negated.truth k v = (c.truth k v).not := by
  unfold truth negated
  cases c.operator with
  | isNull => rfl
  | isNotNull => simp [Operator.negate, Truth.not]
  | equal =>
    -- against null both operators are tests for null, which are never unknown
    simp only [Operator.negate]
    split
    · rfl
    · exact (k.not_compare rfl v c.value).symm
  | notEqual =>
    simp only [Operator.negate]
    split
    · simp [Truth.not]
    · exact (k.not_compare rfl v c.value).symm
  | lessThan | lessThanOrEqual | greaterThan | greaterThanOrEqual =>
    exact (k.not_compare rfl v c.value).symm
  | like | isIn | between => rfl
  | notLike | notIn | notBetween => simp [Operator.negate]

end Condition

end FilterSql
