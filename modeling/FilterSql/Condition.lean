import FilterSql.Field

/-!
# Conditions

A condition compares one column with a value. The operator decides how many values it takes: a
membership test takes a list, a range test exactly two bounds, a null test none, and every other
operator one scalar.
-/

namespace FilterSql

/-- How a condition compares its column. -/
inductive Operator where
  | equal | notEqual | greaterThan | greaterThanOrEqual | lessThan | lessThanOrEqual
  | like | notLike | isIn | notIn | between | notBetween | isNull | isNotNull
deriving DecidableEq, Repr

namespace Operator

/-- Every operator. -/
def all : List Operator :=
  [equal, notEqual, greaterThan, greaterThanOrEqual, lessThan, lessThanOrEqual, like, notLike,
    isIn, notIn, between, notBetween, isNull, isNotNull]

/-- The name of an operator in serialized conditions. -/
def name : Operator → String
  | equal => "equal"
  | notEqual => "not_equal"
  | greaterThan => "greater_than"
  | greaterThanOrEqual => "greater_than_or_equal"
  | lessThan => "less_than"
  | lessThanOrEqual => "less_than_or_equal"
  | like => "like"
  | notLike => "not_like"
  | isIn => "in"
  | notIn => "not_in"
  | between => "between"
  | notBetween => "not_between"
  | isNull => "is_null"
  | isNotNull => "is_not_null"

/-- The short name of a comparison, accepted in place of its name. -/
def alias? : Operator → Option String
  | equal => some "eq"
  | notEqual => some "ne"
  | greaterThan => some "gt"
  | greaterThanOrEqual => some "gte"
  | lessThan => some "lt"
  | lessThanOrEqual => some "lte"
  | _ => none

/-- The operator that a name or a short name stands for. -/
def ofName? (s : String) : Option Operator :=
  all.find? fun op => op.name = s || op.alias? = some s

/-- The name of an operator in error messages. -/
def label : Operator → String
  | equal => "Equal"
  | notEqual => "NotEqual"
  | greaterThan => "GreaterThan"
  | greaterThanOrEqual => "GreaterThanOrEqual"
  | lessThan => "LessThan"
  | lessThanOrEqual => "LessThanOrEqual"
  | like => "Like"
  | notLike => "NotLike"
  | isIn => "In"
  | notIn => "NotIn"
  | between => "Between"
  | notBetween => "NotBetween"
  | isNull => "IsNull"
  | isNotNull => "IsNotNull"

/-- The operator that selects the rows, among those without a null, that this one rejects. -/
def negate : Operator → Operator
  | equal => notEqual
  | notEqual => equal
  | greaterThan => lessThanOrEqual
  | greaterThanOrEqual => lessThan
  | lessThan => greaterThanOrEqual
  | lessThanOrEqual => greaterThan
  | like => notLike
  | notLike => like
  | isIn => notIn
  | notIn => isIn
  | between => notBetween
  | notBetween => between
  | isNull => isNotNull
  | isNotNull => isNull

/-- Negating twice gives the operator back. -/
@[simp]
theorem negate_negate (op : Operator) : op.negate.negate = op := by
  cases op <;> rfl

/-- Every operator is found by its own name. -/
theorem ofName?_name (op : Operator) : ofName? op.name = some op := by
  cases op <;> decide

end Operator

/-- What is wrong with the value of a condition. -/
inductive ArgumentFault where
  | nestedList
  | notASequence
  | notTwoValues
  | boundNotScalar
  | valueGiven
  | notSingle
deriving DecidableEq, Repr

/-- The text of an argument fault. -/
def ArgumentFault.text : ArgumentFault → String
  | .nestedList => "list elements must be scalar values"
  | .notASequence => "a sequence of values is required"
  | .notTwoValues => "exactly two values are required"
  | .boundNotScalar => "range bounds must be non-null scalar values"
  | .valueGiven => "no value is allowed"
  | .notSingle => "a single value is required"

/-- A comparison of one column with a value. -/
structure Condition where
  /-- The column, by property or column name. -/
  field : Field
  /-- How the column is compared. -/
  operator : Operator
  /-- What the column is compared with. -/
  value : Value
  /-- The escape character of a pattern. -/
  escape : Option Char := none

namespace Condition

/-- Equality with a value. -/
def eq (field : Field) (value : Value) : Condition :=
  { field, operator := .equal, value }

/-- A pattern test. -/
def like (field : Field) (pattern : String) : Condition :=
  { field, operator := .like, value := .text pattern }

/-- Membership in a list of values. -/
def isIn (field : Field) (values : List Value) : Condition :=
  { field, operator := .isIn, value := .list values }

/-- A range test with inclusive bounds. -/
def between (field : Field) (low high : Value) : Condition :=
  { field, operator := .between, value := .list [low, high] }

/-- A test for null. -/
def isNull (field : Field) : Condition :=
  { field, operator := .isNull, value := .null }

/-- A test for a value other than null. -/
def isNotNull (field : Field) : Condition :=
  { field, operator := .isNotNull, value := .null }

/-- The condition that an operator makes of a field and its arguments: a membership test takes all
of them, a range test the first two, a null test none, and any other operator the first. Arguments
that are missing count as null. -/
def ofArguments (field : Field) (operator : Operator) (arguments : List Value) : Condition :=
  let first := arguments.headD .null
  let value := match operator with
    | .isIn | .notIn => .list arguments
    | .between | .notBetween => .list [first, arguments.tail.headD .null]
    | .isNull | .isNotNull => .null
    | _ => first
  { field, operator, value }

/-- The same condition with a declared escape character. -/
def withEscape (c : Condition) (escape : Char) : Condition :=
  { c with escape := some escape }

/-- The same field and value with the complementary operator. -/
def negated (c : Condition) : Condition :=
  { c with operator := c.operator.negate }

/-- What is wrong with the value, if it does not suit the operator. -/
def fault? (c : Condition) : Option ArgumentFault :=
  match c.operator, c.value with
  | .isIn, .list items | .notIn, .list items =>
    if items.any Value.isList then some .nestedList else none
  | .isIn, _ | .notIn, _ => some .notASequence
  | .between, .list items | .notBetween, .list items =>
    if items.length ≠ 2 then some .notTwoValues
    else if items.any fun v => v.isList || v.isNull then some .boundNotScalar
    else none
  | .between, _ | .notBetween, _ => some .notTwoValues
  | .isNull, .null | .isNotNull, .null => none
  | .isNull, _ | .isNotNull, _ => some .valueGiven
  | _, .list _ => some .notSingle
  | _, _ => none

end Condition

/-- The escape character of patterns that are made from literal text. -/
def likeEscape : Char := '!'

/-- Whether a character has a meaning of its own in a pattern. An opening bracket starts a
character class in one dialect. -/
def isPatternMark (c : Char) : Bool :=
  c == '%' || c == '_' || c == '[' || c == likeEscape

/-- The characters of a pattern that, with the escape character, match only the given text. -/
def escapePattern (cs : List Char) : List Char :=
  cs.flatMap fun c => if isPatternMark c then [likeEscape, c] else [c]

/-- A pattern that, with the escape character, matches only the given text. -/
def escapeLike (s : String) : String :=
  String.ofList (escapePattern s.toList)

end FilterSql
