import FilterSql.Condition

/-!
# Predicates

A boolean expression over the properties of an entity. The expression language is wider than what
can be compiled: only comparisons of a property with a constant and a few method calls are.
-/

namespace FilterSql

/-- A comparison in a predicate. -/
inductive Comparison where
  | eq | ne | lt | le | gt | ge
deriving DecidableEq, Repr

namespace Comparison

/-- The comparison with its operands exchanged. -/
def flip : Comparison → Comparison
  | eq => eq
  | ne => ne
  | lt => gt
  | le => ge
  | gt => lt
  | ge => le

/-- The operator of a condition that compares in the same way. -/
def operator : Comparison → Operator
  | eq => .equal
  | ne => .notEqual
  | lt => .lessThan
  | le => .lessThanOrEqual
  | gt => .greaterThan
  | ge => .greaterThanOrEqual

/-- Exchanging the operands twice gives the comparison back. -/
@[simp]
theorem flip_flip (c : Comparison) : c.flip.flip = c := by
  cases c <;> rfl

end Comparison

/-- A boolean expression over properties. -/
inductive Predicate where
  | property (name : String)
  | constant (v : Value)
  | compare (left : Predicate) (op : Comparison) (right : Predicate)
  | and (left right : Predicate)
  | or (left right : Predicate)
  | not (inner : Predicate)
  /-- A method call. -/
  | call (method : String) (target : Predicate) (arguments : List Predicate)
deriving Inhabited

namespace Predicate

/-- Membership in a constant collection, asked of the collection. -/
def isIn (p : Predicate) (values : Value) : Predicate :=
  .call "contains" (.constant values) [p]

/-- Absence from a constant collection. -/
def notIn (p : Predicate) (values : Value) : Predicate :=
  .not (p.isIn values)

/-- A range test with inclusive bounds. -/
def between (p : Predicate) (low high : Value) : Predicate :=
  .call "between" p [.constant low, .constant high]

/-- Whether a text begins with the given one. -/
def startsWith (p : Predicate) (start : Value) : Predicate :=
  .call "starts_with" p [.constant start]

/-- Whether a text ends with the given one. -/
def endsWith (p : Predicate) (ending : Value) : Predicate :=
  .call "ends_with" p [.constant ending]

/-- Whether a text holds the given one. -/
def contains (p : Predicate) (part : Value) : Predicate :=
  .call "contains" p [.constant part]

/-- A test for null. -/
def isNull (p : Predicate) : Predicate :=
  .compare p .eq (.constant .null)

/-- A test for a value other than null. -/
def isNotNull (p : Predicate) : Predicate :=
  .compare p .ne (.constant .null)

end Predicate

end FilterSql
