import FilterSql.Filter.Normalize
import FilterSql.Statement.Scope
import FilterSql.Statement.Where

/-!
# Binding conditions

The leaves of a condition tree become tests, and their values become parameters, numbered depth
first and from left to right. Each leaf has parameters of its own, declared as the type of the
column that the leaf is about.
-/

namespace FilterSql

/-- A bound parameter. -/
structure Parameter where
  /-- The name that placeholders and callers use. -/
  name : String
  /-- The value. -/
  value : Value
  /-- The declared type, if any. -/
  dbType : Option DbType

/-- Parameters for some values of one type, at positions from `start` on. -/
def Parameter.number (dbType : Option DbType) : (start : Nat) → List Value → List Parameter
  | _, [] => []
  | start, v :: vs => { name := parameterName start, value := v, dbType } :: number dbType (start + 1) vs

namespace Condition

/-- The values that a condition binds, in order. A comparison with null binds none. -/
def operands (c : Condition) : List Value :=
  match c.operator, c.value with
  | .isNull, _ | .isNotNull, _ => []
  | .equal, .null | .notEqual, .null => []
  | .isIn, .list items | .notIn, .list items => items
  | .between, .list items | .notBetween, .list items => items
  | _, v => [v]

/-- The relation that a condition expresses when its values are bound at positions from `start` on.
Equality with null is a test for null. -/
def relation (c : Condition) (start : Nat) : Relation :=
  let null := c.value.isNull
  match c.operator with
  | .isNull => .isNull false
  | .isNotNull => .isNull true
  | .equal => if null then .isNull false else .compare .eq start
  | .notEqual => if null then .isNull true else .compare .ne start
  | .lessThan => .compare .lt start
  | .lessThanOrEqual => .compare .le start
  | .greaterThan => .compare .gt start
  | .greaterThanOrEqual => .compare .ge start
  | .like => .like false start c.escape
  | .notLike => .like true start c.escape
  | .isIn => .isIn false (List.range' start c.operands.length)
  | .notIn => .isIn true (List.range' start c.operands.length)
  | .between => .between false start (start + 1)
  | .notBetween => .between true start (start + 1)

/-- Whether a condition is a membership test of an empty list, which no dialect can write. -/
def isEmptyMembership (c : Condition) : Bool :=
  match c.operator, c.value with
  | .isIn, .list [] | .notIn, .list [] => true
  | _, _ => false

/-- Refuse a membership test without any value to test for, and a range test without its two bounds.
That they come as a list is looked at once more here. -/
def checkItems (c : Condition) : Except QueryError Unit :=
  let refuse (fault : ArgumentFault) : Except QueryError Unit :=
    .error (.invalidOperatorArgument c.field.name c.operator fault)
  if c.isEmptyMembership then .error (.emptyInClause c.field.name)
  else match c.operator, c.value with
    | .isIn, .list _ | .notIn, .list _ => .ok ()
    | .between, .list [_, _] | .notBetween, .list [_, _] => .ok ()
    | .between, .list _ | .notBetween, .list _ => refuse .notTwoValues
    | .isIn, _ | .notIn, _ | .between, _ | .notBetween, _ => refuse .notASequence
    | _, _ => .ok ()

/-- The column that a condition is about. A name without property is typed by the declared kind,
else by the kind of the value. -/
def column (c : Condition) (s : Scope) : StateM TypeChain Column :=
  s.column c.field.name (c.field.kind.or c.value.operandKind)

/-- The test of a condition on its column, and the parameters that it binds at positions from `start`
on. -/
def settle (c : Condition) (column : Column) (start : Nat) : Test × List Parameter :=
  ({ column := column.name, relation := c.relation start },
    Parameter.number column.dbType start c.operands)

/-- Bind a condition. A value that does not suit the operator is refused before the column is looked
up, and a list of the wrong length after that. -/
def bind (c : Condition) (s : Scope) (start : Nat) : Building (Test × List Parameter) := do
  ExceptT.mk (pure c.validate)
  let column ← (c.column s : StateM TypeChain _)
  ExceptT.mk (pure c.checkItems)
  return c.settle column start

end Condition

namespace Node

mutual

/-- The tests of a tree, and the parameters that they bind at positions from `start` on. -/
def bind (s : Scope) (start : Nat) : Node Condition → Building (Node Test × List Parameter)
  | leaf c => do
    let (test, ps) ← c.bind s start
    return (leaf test, ps)
  | group conjunction negated children => do
    let (children, ps) ← bindAll s start children
    return (group conjunction negated children, ps)

/-- The tests of several trees, and the parameters that they bind one behind the other. The first
condition that is refused is the last one that is looked at. -/
def bindAll (s : Scope) (start : Nat) :
    List (Node Condition) → Building (List (Node Test) × List Parameter)
  | [] => return ([], [])
  | child :: rest => do
    let (child, ps) ← bind s start child
    let (rest, qs) ← bindAll s (start + ps.length) rest
    return (child :: rest, ps ++ qs)

end

end Node

/-- The condition of a statement, and the parameters that it binds. -/
def Group.bind (g : Group Condition) (s : Scope) : Building (Group Test × List Parameter) := do
  let (children, ps) ← Node.bindAll s 0 g.children
  return ({ conjunction := g.conjunction, negated := g.negated, children }, ps)

end FilterSql
