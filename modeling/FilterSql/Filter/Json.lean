import FilterSql.Error
import FilterSql.Filter

/-!
# Filters as JSON

An object is a dynamic filter, an array a list of conditions, and any other value but null a key. A
condition is an object with the members `field`, `operator` and `value`, or an array of those three
in this order; the operator defaults to equality and the value to null.
-/

namespace FilterSql.Filter

/-- A condition as it is read, before its value is taken over. -/
structure ConditionForm where
  /-- The name of the field. -/
  field : String
  /-- The operator, if one is given. -/
  operator : Option Operator
  /-- The value. -/
  value : Json

/-- The name of a field. -/
def fieldName : Json → Except ConditionFormFault String
  | .text s => .ok s
  | v => .error (.fieldNotText v)

/-- The operator of a given name. -/
def namedOperator (name : String) : Except ConditionFormFault Operator :=
  match Operator.ofName? name with
  | some op => .ok op
  | none => .error (.unknownOperator name)

/-- An operator by its name, or as an object with its name as the only member and null as that
member's value. Null stands for no operator. -/
def operatorForm : Json → Except ConditionFormFault (Option Operator)
  | .null => .ok none
  | .text name => some <$> namedOperator name
  | .object [(name, argument)] => do
    let op ← namedOperator name
    match argument with
    | .null => return some op
    | v => .error (.operatorArgument v)
  | .object _ => .error .operatorMembers
  | v => .error (.operatorForm v)

/-- The parts of a condition given by position. -/
def formOfEntries : List Json → Except ConditionFormFault ConditionForm
  | [] => .error .noEntries
  | field :: rest => do
    let field ← fieldName field
    let operator ← operatorForm (rest.headD .null)
    let form := { field, operator, value := rest.tail.headD .null }
    if 2 < rest.length then .error (.tooManyEntries (rest.length + 1)) else return form

/-- The parts of a condition given by name. Of several faults the first in the order of the members
is reported, a missing field last. -/
def formOfMembers (members : List (String × Json)) : Except ConditionFormFault ConditionForm := do
  let field? ← (members.lookup "field").mapM fieldName
  let operator ← operatorForm ((members.lookup "operator").getD .null)
  let value := (members.lookup "value").getD .null
  match field? with
  | some field => return { field, operator, value }
  | none => .error .missingField

/-- The parts of a condition. -/
def conditionForm : Json → Except ConditionFormFault ConditionForm
  | .object members => formOfMembers members
  | .array entries => formOfEntries entries
  | v => .error (.notARecord v)

/-- Refuse a filter. -/
def refuse {α : Type} (fault : ShapeFault) : Except QueryError α :=
  .error (.unsupportedFilterShape fault)

/-- The condition that an element of a list of conditions stands for. -/
def conditionOfJson (element : Json) : Except QueryError Condition :=
  match conditionForm element with
  | .error fault => refuse (.conditionForm element fault)
  | .ok form =>
    match Value.ofJson? form.value with
    | none => refuse (.valueObject form.field)
    | some value =>
      .ok { field := { name := form.field }, operator := form.operator.getD .equal, value }

/-- A member of a dynamic filter. -/
def memberOfJson : String × Json → Except QueryError (String × Value)
  | (name, v) =>
    match Value.ofJson? v with
    | some value => .ok (name, value)
    | none => refuse (.memberObject name)

/-- The filter that a JSON value stands for. -/
def ofJson : Json → Except QueryError Filter
  | .object members => (members.mapM memberOfJson).map fun pairs => .dynamic (Record.ofList pairs)
  | .array elements => (elements.mapM conditionOfJson).map .conditions
  | .null => refuse .nullFilter
  | .bool b => .ok (.key (.bool b))
  | .integer n => .ok (.key ((Value.ofJson? (.integer n)).getD .null))
  | .real x => .ok (.key (.float x))
  | .text s => .ok (.key (.text s))

end FilterSql.Filter
