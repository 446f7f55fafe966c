import FilterSql.Condition
import FilterSql.Dialect
import FilterSql.Page
import FilterSql.Record
import FilterSql.Text.Printable

/-!
# Errors

Why a filter, a statement or its execution is refused. Each error names its cause; the wording of
all of them is in `message`.
-/

namespace FilterSql

/-- What is wrong with an element of a list of conditions given as JSON. -/
inductive ConditionFormFault where
  /-- The element is neither an object nor an array. -/
  | notARecord (found : Json)
  /-- The element is an array without entries. -/
  | noEntries
  /-- The element is an array of this many entries, which is too many. -/
  | tooManyEntries (count : Nat)
  /-- The object has no member `field`. -/
  | missingField
  /-- The field is not a string. -/
  | fieldNotText (found : Json)
  /-- No operator has this name. -/
  | unknownOperator (name : String)
  /-- The operator is given as an object whose one member is not null. -/
  | operatorArgument (found : Json)
  /-- The operator is given as an object without exactly one member. -/
  | operatorMembers
  /-- The operator is neither a string nor an object. -/
  | operatorForm (found : Json)

/-- What kind of JSON value was found, in messages. -/
def Json.describe : Json → String
  | .null => "null"
  | .bool b => if b then "boolean \x60true\x60" else "boolean \x60false\x60"
  | .integer n => "integer \x60" ++ Numeral.text n ++ "\x60"
  | .real x => "floating point \x60" ++ realText x ++ "\x60"
  | .text s => "string " ++ Text.shown s
  | .array _ => "sequence"
  | .object _ => "map"

/-- The operator names in the order in which a message lists them. -/
def operatorNames : List String :=
  Operator.all.flatMap fun op =>
    match op, op.alias? with
    | .equal, some short | .notEqual, some short => [short, op.name]
    | _, some short => [op.name, short]
    | _, none => [op.name]

/-- A name between backticks. -/
def ticked (s : String) : String :=
  "\x60" ++ s ++ "\x60"

/-- The text of a condition form fault. -/
def ConditionFormFault.text : ConditionFormFault → String
  | .notARecord found =>
    "invalid type: " ++ found.describe ++ ", expected struct RawCondition"
  | .noEntries => "invalid length 0, expected struct RawCondition with 3 elements"
  | .tooManyEntries count =>
    s!"invalid length {count}, expected fewer elements in array"
  | .missingField => "missing field " ++ ticked "field"
  | .fieldNotText found => "invalid type: " ++ found.describe ++ ", expected a string"
  | .unknownOperator name =>
    "unknown variant " ++ ticked name ++ ", expected one of " ++
      ", ".intercalate (operatorNames.map ticked)
  | .operatorArgument found => "invalid type: " ++ found.describe ++ ", expected unit"
  | .operatorMembers => "invalid value: map, expected map with a single key"
  | .operatorForm found => "invalid type: " ++ found.describe ++ ", expected string or map"

/-- Why a filter has no interpretation. -/
inductive ShapeFault where
  /-- A member of a dynamic filter holds an object. -/
  | memberObject (name : String)
  /-- An element of a list of conditions has the wrong form. -/
  | conditionForm (element : Json) (fault : ConditionFormFault)
  /-- The value of a condition holds an object. -/
  | valueObject (field : String)
  /-- Null filters nothing. -/
  | nullFilter
  /-- A key filter on an entity without keys. -/
  | noPrimaryKey (entity : String)
  /-- A key filter on an entity with several keys. -/
  | compositeKey (entity : String)

/-- The text of a shape fault. -/
def ShapeFault.text : ShapeFault → String
  | .memberObject name => s!"member '{name}' holds a nested object"
  | .conditionForm element fault => "condition " ++ element.compact ++ ": " ++ fault.text
  | .valueObject field => s!"value of '{field}' is an object"
  | .nullFilter => "null is not a filter"
  | .noPrimaryKey entity => s!"{entity} declares no primary key"
  | .compositeKey entity => s!"{entity} has a composite key; filter on its members instead"

/-- Why a predicate cannot be compiled. -/
inductive ExpressionFault where
  | unknownProperty (name entity : String)
  | comparedProperties (left right : String)
  | comparedOperands
  | notBoolean (name : String)
  | bareConstant (v : Value)
  | orderedAgainstNull (name : String)
  | comparedWithCollection (name : String)
  | callOperands (method : String)
  | unknownMethod (method : String)

/-- The text of an expression fault. -/
def ExpressionFault.text : ExpressionFault → String
  | .unknownProperty name entity => s!"'{name}' is not a property of {entity}"
  | .comparedProperties left right => s!"comparison between properties '{left}' and '{right}'"
  | .comparedOperands => "comparison operands must be a property and a constant"
  | .notBoolean name => s!"property '{name}' is not boolean and cannot stand alone"
  | .bareConstant v => "bare constant " ++ v.display
  | .orderedAgainstNull name => s!"ordering comparison of '{name}' against null"
  | .comparedWithCollection name => s!"comparison of '{name}' against a collection"
  | .callOperands method => s!"unsupported operands for '{method}'"
  | .unknownMethod method => s!"method '{method}' is not translatable"

/-- What the database engine objects to. -/
inductive EngineFault where
  | noSuchTable (name : String)
  | noSuchColumn (name : String)
  | unknownSchema (name : String)
  | noMatchingConstraint
  | uniqueViolation
  | datatypeMismatch
  | badHint (text : String)
  | parameterOutOfRange
  | notAStatement
  | transactionOpen
  | noTransaction
  | full
deriving DecidableEq, Repr

/-- Why the execution of a statement failed. -/
inductive ExecutionError where
  | engine (fault : EngineFault)
  | cancelled
  /-- The transaction was opened on another connection. -/
  | foreignTransaction
  /-- The statement has no placeholder for the parameter. -/
  | unboundParameter (name : String)
  /-- The parameter holds a list. -/
  | unsupportedValue (name : String)
  /-- The connection's lock is unusable. -/
  | poisoned
deriving DecidableEq, Repr

/-- The message of an engine fault. -/
def EngineFault.text : EngineFault → String
  | .noSuchTable name => s!"no such table: {name}"
  | .noSuchColumn name => s!"no such column: {name}"
  | .unknownSchema name => s!"unknown database {name}"
  | .noMatchingConstraint =>
    "ON CONFLICT clause does not match any PRIMARY KEY or UNIQUE constraint"
  | .uniqueViolation => "UNIQUE constraint failed"
  | .datatypeMismatch => "datatype mismatch"
  | .badHint text => s!"syntax error near: {text}"
  | .parameterOutOfRange => "column index out of range"
  | .notAStatement => "syntax error"
  | .transactionOpen => "cannot start a transaction within a transaction"
  | .noTransaction => "no transaction is active"
  | .full => "database or disk is full"

/-- The message of an execution error. -/
def ExecutionError.message : ExecutionError → String
  | .engine fault => "SQLite error: " ++ fault.text
  | .cancelled => "operation cancelled"
  | .foreignTransaction => "transaction belongs to a different connection"
  | .unboundParameter name => s!"parameter '{name}' has no placeholder in the statement"
  | .unsupportedValue name =>
    s!"cannot bind parameter '{name}': lists are bound one element per parameter"
  | .poisoned => "connection lock poisoned"

/-- Why an operation on the query pipeline failed. -/
inductive QueryError where
  | unsupportedFilterShape (fault : ShapeFault)
  | unsupportedExpression (fault : ExpressionFault)
  | invalidOperatorArgument (field : String) (operator : Operator) (fault : ArgumentFault)
  /-- A membership test of an empty list. -/
  | emptyInClause (field : String)
  /-- An upsert without qualifiers into a table without keys. -/
  | noQualifierAvailable (table : String)
  /-- A qualifier that the merged record does not carry. -/
  | unknownQualifier (field : String)
  /-- Qualifiers other than the table's key, where upserts match on that key. -/
  | qualifierNotKey (dialect : Dialect) (qualifiers : List String)
  /-- A member of a merged record holds a list. -/
  | mergeListValue (field : String)
  | invalidPageArgument (fault : PageFault)
  | missingOrderForPaging (dialect : Dialect)
  /-- Replacement values that do not line up with a statement's parameters. -/
  | parameterCount (expected actual : Nat)
  | mapping (error : MappingError)
  | execution (error : ExecutionError)

/-- The message of an error. -/
def QueryError.message : QueryError → String
  | .unsupportedFilterShape fault => "unsupported filter shape: " ++ fault.text
  | .unsupportedExpression fault => "unsupported expression: " ++ fault.text
  | .invalidOperatorArgument field operator fault =>
    "invalid argument for " ++ operator.label ++ " on '" ++ field ++ "': " ++ fault.text
  | .emptyInClause field => s!"IN list for '{field}' is empty"
  | .noQualifierAvailable table => s!"no qualifier available to merge into '{table}'"
  | .unknownQualifier field => s!"qualifier '{field}' is not a member of the merged record"
  | .qualifierNotKey dialect qualifiers =>
    dialect.name ++ " upserts match on the table key; qualifiers (" ++
      ", ".intercalate qualifiers ++ ") are not that key"
  | .mergeListValue field => s!"merge value for '{field}' is a list"
  | .invalidPageArgument fault => "invalid paging arguments: " ++ fault.text
  | .missingOrderForPaging dialect =>
    "paging on " ++ dialect.name ++ " requires at least one ORDER BY field"
  | .parameterCount expected actual =>
    s!"statement has {expected} parameters, {actual} values given"
  | .mapping error => error.message
  | .execution error => error.message

end FilterSql
