import FilterSql.Decimal.Layout
import FilterSql.Text.Quoted

/-!
# Values

A `Value` is what a statement parameter is bound to and what a result row holds. A `ValueKind` is
the semantic type that a property or a field declares, independent of how a database stores it.
-/

namespace FilterSql

/-- The semantic type of the values that a property holds. -/
inductive ValueKind where
  | bool | int | float | decimal | text | bytes | date | dateTime | guid
deriving DecidableEq, Repr

/-- A value that can be bound to a parameter. A list only occurs as the operand of a membership or
range condition and is never bound as a whole. -/
inductive Value where
  | null
  | bool (b : Bool)
  | int (n : Int64)
  | float (x : Float)
  | text (s : String)
  | bytes (bs : List UInt8)
  | list (items : List Value)
deriving Inhabited

namespace ValueKind

/-- Every kind, in the order in which they are listed to a user. -/
def all : List ValueKind :=
  [bool, int, float, decimal, text, bytes, date, dateTime, guid]

/-- The name of a kind in settings and serialized fields. -/
def name : ValueKind → String
  | bool => "bool"
  | int => "int"
  | float => "float"
  | decimal => "decimal"
  | text => "text"
  | bytes => "bytes"
  | date => "date"
  | dateTime => "date_time"
  | guid => "guid"

/-- The kind of a given name. -/
def ofName? (s : String) : Option ValueKind :=
  all.find? fun kind => kind.name = s

/-- Every kind is found by its own name. -/
theorem ofName?_name (kind : ValueKind) : ofName? kind.name = some kind := by
  cases kind <;> decide

end ValueKind

namespace Value

/-- Floats in statement text: digits in full for points from -4 to 16, no plus sign. -/
def floatLayout : Decimal.Layout :=
  { lastPoint := 16, beforeFirstPoint := -5, plusSign := false }

/-- The text of a float, as written in messages and bound to textual columns. -/
def floatText (x : Float) : String :=
  floatLayout.text x

/-- The value of a float given in single precision. -/
def ofSingle (x : Float32) : Value :=
  .float x.toFloat

/-- Whether a value is the null value. -/
def isNull : Value → Bool
  | .null => true
  | _ => false

/-- Whether a value is a list. -/
def isList : Value → Bool
  | .list _ => true
  | _ => false

/-- The kind of a scalar value; null and lists have none. -/
def kind : Value → Option ValueKind
  | .bool _ => some .bool
  | .int _ => some .int
  | .float _ => some .float
  | .text _ => some .text
  | .bytes _ => some .bytes
  | .null | .list _ => none

/-- The kind of an operand: a list reports that of its first element that has one. -/
def operandKind : Value → Option ValueKind
  | .list items => items.findSome? kind
  | v => v.kind

/-- One byte as two upper case hexadecimal digits. -/
def hexByte (b : UInt8) : List Char :=
  let digit (n : Nat) := (Nat.digitChar n).toUpper
  [digit (b.toNat / 16), digit (b.toNat % 16)]

/-- Bytes as upper case hexadecimal digits. -/
def hexText (bs : List UInt8) : String :=
  String.ofList (bs.flatMap hexByte)

mutual

/-- The text of a value in messages: a literal of the statement language. -/
def display : Value → String
  | .null => "NULL"
  | .bool b => if b then "true" else "false"
  | .int n => Numeral.text n.toInt
  | .float x => floatText x
  | .text s => Text.enclosed '\'' '\'' s
  | .bytes bs => "X'" ++ hexText bs ++ "'"
  | .list items => "(" ++ ", ".intercalate (displayAll items) ++ ")"

/-- The texts of the elements of a list. -/
def displayAll : List Value → List String
  | [] => []
  | v :: vs => display v :: displayAll vs

end

end Value

end FilterSql
