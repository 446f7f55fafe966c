import FilterSql.Value

/-!
# Reading a value as a type

Rows hold values, programs want integers, texts and so on. A `Shape` names what is wanted,
its `Shape.Carrier` is what a value is read into, and `Value.as?` refuses the values that do not fit.
-/

namespace FilterSql

/-- What a member of a row can be read as. -/
inductive Shape where
  | any | int64 | int32 | float | bool | text | bytes
  | optional (inner : Shape)
deriving DecidableEq, Repr

/-- The Lean type that a value of a shape is read into. -/
abbrev Shape.Carrier : Shape → Type
  | .any => Value
  | .int64 => Int64
  | .int32 => Int32
  | .float => Float
  | .bool => Bool
  | .text => String
  | .bytes => List UInt8
  | .optional inner => Option inner.Carrier

/-- The name of a shape in error messages. -/
def Shape.typeName : Shape → String
  | .any => "value"
  | .int64 => "i64"
  | .int32 => "i32"
  | .float => "f64"
  | .bool => "bool"
  | .text => "alloc::string::String"
  | .bytes => "alloc::vec::Vec<u8>"
  | .optional inner => "core::option::Option<" ++ inner.typeName ++ ">"

namespace Value

/-- Read a value as an integer; a boolean counts as zero or one. -/
def asInt64? : Value → Option Int64
  | .int n => some n
  | .bool b => some (if b then 1 else 0)
  | _ => none

/-- Read a value as an integer of thirty-two bits. -/
def asInt32? (v : Value) : Option Int32 :=
  v.asInt64?.bind fun n =>
    if Int32.minValue.toInt ≤ n.toInt ∧ n.toInt ≤ Int32.maxValue.toInt then
      some (Int32.ofInt n.toInt)
    else none

/-- Read a value as a float; an integer is rounded to the nearest one. -/
def asFloat? : Value → Option Float
  | .float x => some x
  | .int n => some (Decimal.ofInt64 n)
  | _ => none

/-- Read a value as a boolean; an integer is true unless it is zero. -/
def asBool? : Value → Option Bool
  | .bool b => some b
  | .int n => some (n != 0)
  | _ => none

/-- Read a value as a text. -/
def asText? : Value → Option String
  | .text s => some s
  | _ => none

/-- Read a value as bytes; a text gives its encoding. -/
def asBytes? : Value → Option (List UInt8)
  | .bytes bs => some bs
  | .text s => some s.toUTF8.toList
  | _ => none

/-- Read a value as a given shape, or nothing when it does not fit. -/
def as? (v : Value) : (shape : Shape) → Option shape.Carrier
  | .any => some v
  | .int64 => v.asInt64?
  | .int32 => v.asInt32?
  | .float => v.asFloat?
  | .bool => v.asBool?
  | .text => v.asText?
  | .bytes => v.asBytes?
  | .optional inner => if v.isNull then some none else (v.as? inner).map some

end Value

end FilterSql
