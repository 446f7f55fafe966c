import FilterSql.Statement
import FilterSql.Store.Cell

/-!
# Coercion of parameters

The value that is sent to the database for a parameter depends on the declared type: a textual type
takes the text of a number, an integral or floating type the number that a text spells, and where
the value does not fit, it is sent as it is.
-/

namespace FilterSql

namespace Value

/-- The text of a scalar value that is sent for a textual type. -/
def boundText : Value → String
  | bool b => if b then "true" else "false"
  | int n => Numeral.text n.toInt
  | float x => floatText x
  | text s => s
  | null | bytes _ | list _ => ""

/-- The stored form of a scalar value whose type is left open. -/
def plainCell : Value → Cell
  | null | list _ => .null
  | bool b => .integer (if b then 1 else 0)
  | int n => .integer n
  | float x => .real x
  | text s => .text s
  | bytes bs => .blob bs

/-- The stored form of a value sent for an integral type. -/
def integralCell : Value → Cell
  | text s =>
    match Numeral.toInt64? (Text.trimChars s.toList) with
    | some n => .integer n
    | none => .text s
  | float x =>
    match (Decimal.Binary.ofFloat x).toInt? with
    | some n => .integer (Decimal.clampToInt64 n)
    | none => .real x
  | v => v.plainCell

/-- The stored form of a value sent for a floating type. -/
def floatingCell : Value → Cell
  | text s =>
    match Decimal.read (Text.trimChars s.toList) with
    | some x => .real x
    | none => .text s
  | int n => .real (Decimal.ofInt64 n)
  | v => v.plainCell

/-- The stored form of a value sent for a textual type. Nulls and bytes stay what they are. -/
def textualCell : Value → Cell
  | null => .null
  | bytes bs => .blob bs
  | v => .text v.boundText

/-- What is sent for a value that is declared as a type; a list cannot be sent. -/
def coerce (v : Value) (dbType : Option DbType) : Option Cell :=
  if v.isList then none
  else
    match dbType with
    | none => some v.plainCell
    | some t =>
      if t.isTextual then some v.textualCell
      else if t.isIntegral then some v.integralCell
      else if t.isFloating then some v.floatingCell
      else some v.plainCell

end Value

/-- What is sent for a parameter. -/
def Parameter.cell (p : Parameter) : Except ExecutionError Cell :=
  match p.value.coerce p.dbType with
  | some c => .ok c
  | none => .error (.unsupportedValue p.name)

/-- The cell that is sent for a parameter at a position of a statement in which the database finds the
given placeholders. Where placeholders have no names, the position counts. -/
def Parameter.bind (p : Parameter) (d : Dialect) (placeholders : List String) (index : Nat) :
    Except ExecutionError Cell := do
  if d = .mysql then
    let cell ← p.cell
    if index < placeholders.length then return cell.stored else throw (.engine .parameterOutOfRange)
  else if d.placeholder p.name index ∈ placeholders then return (← p.cell).stored
  else throw (.unboundParameter p.name)

/-- The cells that are sent for the parameters of a statement, or the error of the first parameter
that has no placeholder or cannot be sent. -/
def Statement.cells (s : Statement) (placeholders : List String) : Except ExecutionError (List Cell) :=
  s.parameters.zipIdx.mapM fun (p, i) => p.bind s.dialect placeholders i

end FilterSql
