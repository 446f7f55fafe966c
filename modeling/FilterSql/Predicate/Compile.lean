import FilterSql.Condition.Group
import FilterSql.Entity
import FilterSql.Error
import FilterSql.Predicate

/-!
# Compiling predicates

A predicate becomes a condition tree. A negation is pushed into a single condition by exchanging its
operator and stays on a group as a flag; a chain of one connective becomes one flat group. Every
property is replaced by its column.
-/

namespace FilterSql.Predicate

/-- Refuse a predicate. -/
def reject {α : Type} (fault : ExpressionFault) : Except QueryError α :=
  .error (.unsupportedExpression fault)

/-- The property of a given name, which has to exist. -/
def requireProperty (e : Entity) (fieldCase : FieldCase) (name : String) :
    Except QueryError Property :=
  match e.property? fieldCase name with
  | some p => .ok p
  | none => reject (.unknownProperty name e.name)

/-- The column of the property of a given name. -/
def column (e : Entity) (fieldCase : FieldCase) (name : String) : Except QueryError Field :=
  (requireProperty e fieldCase name).map (·.field)

/-- The condition that compares the property `name` with a constant. -/
def comparison (e : Entity) (fieldCase : FieldCase) (name : String) (op : Comparison) (v : Value) :
    Except QueryError Condition := do
  let field ← column e fieldCase name
  match op, v with
  | .eq, .null => return .isNull field
  | .ne, .null => return .isNotNull field
  | _, .null => reject (.orderedAgainstNull name)
  | _, .list _ => reject (.comparedWithCollection name)
  | op, v => return { field, operator := op.operator, value := v }

/-- The condition of a pattern test on the property `name`. -/
def patternTest (e : Entity) (fieldCase : FieldCase) (name pattern : String) :
    Except QueryError Condition := do
  let field ← column e fieldCase name
  return (Condition.like field pattern).withEscape likeEscape

/-- The methods that some operands can be compiled for. -/
def methods : List String :=
  ["contains", "starts_with", "ends_with", "between"]

/-- The condition of a method call. -/
def callCondition (e : Entity) (fieldCase : FieldCase) (method : String) (target : Predicate)
    (arguments : List Predicate) : Except QueryError Condition :=
  match method, target, arguments with
  | "contains", .constant (.list items), [.property name] => do
    return .isIn (← column e fieldCase name) items
  | "contains", .property name, [.constant (.text s)] =>
    patternTest e fieldCase name ("%" ++ escapeLike s ++ "%")
  | "starts_with", .property name, [.constant (.text s)] =>
    patternTest e fieldCase name (escapeLike s ++ "%")
  | "ends_with", .property name, [.constant (.text s)] =>
    patternTest e fieldCase name ("%" ++ escapeLike s)
  | "between", .property name, [.constant low, .constant high] => do
    return .between (← column e fieldCase name) low high
  | _, _, _ =>
    if methods.contains method then reject (.callOperands method)
    else reject (.unknownMethod method)

/-- The parts that a compiled operand adds to a group of the connective `conjunction`: a group of
the same connective that is not negated adds its children, anything else itself. -/
def spliced (conjunction : Conjunction) : Node Condition → List (Node Condition)
  | .group inner false children =>
    if inner = conjunction then children else [.group inner false children]
  | node => [node]

/-- A compiled operand under a negation. -/
def negateNode : Node Condition → Node Condition
  | .leaf c => .leaf c.negated
  | .group conjunction negated children => .group conjunction (!negated) children

/-- The tree that a predicate compiles to. -/
def compileNode (e : Entity) (fieldCase : FieldCase) : Predicate → Except QueryError (Node Condition)
  | .and left right => do
    let l ← compileNode e fieldCase left
    let r ← compileNode e fieldCase right
    return .group .and false (spliced .and l ++ spliced .and r)
  | .or left right => do
    let l ← compileNode e fieldCase left
    let r ← compileNode e fieldCase right
    return .group .or false (spliced .or l ++ spliced .or r)
  | .not inner => do
    return negateNode (← compileNode e fieldCase inner)
  | .compare (.property name) op (.constant v) =>
    Node.leaf <$> comparison e fieldCase name op v
  | .compare (.constant v) op (.property name) =>
    Node.leaf <$> comparison e fieldCase name op.flip v
  | .compare (.property left) _ (.property right) => reject (.comparedProperties left right)
  | .compare _ _ _ => reject .comparedOperands
  | .property name => do
    let p ← requireProperty e fieldCase name
    if p.kind = .bool then return .leaf (.eq p.field (.bool true))
    else reject (.notBoolean name)
  | .constant v => reject (.bareConstant v)
  | .call method target arguments =>
    Node.leaf <$> callCondition e fieldCase method target arguments

/-- The group that a predicate compiles to; a single condition becomes a group of its own. -/
def compile (e : Entity) (fieldCase : FieldCase) (p : Predicate) :
    Except QueryError (Group Condition) :=
  (compileNode e fieldCase p).map fun
    | .leaf c => Group.all [c]
    | .group conjunction negated children => { conjunction, children, negated }

end FilterSql.Predicate
