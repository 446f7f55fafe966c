import FilterSql.Value

/-!
# JSON values

The values of JSON texts, how they are written out, and how they correspond to bindable values.
The members of an object are kept as a list in the order in which they are written.
-/

namespace FilterSql

/-- A JSON value. Integer literals are kept apart from all other numbers. -/
inductive Json where
  | null
  | bool (b : Bool)
  | integer (n : Int)
  | real (x : Float)
  | text (s : String)
  | array (items : List Json)
  | object (members : List (String × Json))
deriving Inhabited

namespace Json

/-- Floats in JSON texts are laid out as in statement texts, with a plus sign in front of a
positive exponent. -/
def floatLayout : Decimal.Layout :=
  { Value.floatLayout with plusSign := true }

/-- One lower case hexadecimal digit. -/
def hexDigit (n : Nat) : Char :=
  Nat.digitChar n

/-- A character inside a JSON string: quotes, backslashes and control characters are escaped. -/
def escape (c : Char) : List Char :=
  if c = '"' then ['\\', '"']
  else if c = '\\' then ['\\', '\\']
  else if c = '\n' then ['\\', 'n']
  else if c = '\r' then ['\\', 'r']
  else if c = '\t' then ['\\', 't']
  else if c = '\x08' then ['\\', 'b']
  else if c = '\x0c' then ['\\', 'f']
  else if c.toNat < 0x20 then
    ['\\', 'u', '0', '0', hexDigit (c.toNat / 16), hexDigit (c.toNat % 16)]
  else [c]

/-- A text as a JSON string. -/
def quote (s : String) : String :=
  String.ofList ('"' :: s.toList.flatMap escape ++ ['"'])

/-- A number that is no integer literal; what JSON cannot express is written as null. -/
def realText (x : Float) : String :=
  if Decimal.isFinite x then floatLayout.text x else "null"

mutual

/-- The text of a value without any white space. -/
def compact : Json → String
  | .null => "null"
  | .bool b => if b then "true" else "false"
  | .integer n => Numeral.text n
  | .real x => realText x
  | .text s => quote s
  | .array items => "[" ++ ",".intercalate (compactItems items) ++ "]"
  | .object members => "\x7b" ++ ",".intercalate (compactMembers members) ++ "\x7d"

/-- The texts of the elements of an array. -/
def compactItems : List Json → List String
  | [] => []
  | v :: vs => compact v :: compactItems vs

/-- The texts of the members of an object. -/
def compactMembers : List (String × Json) → List String
  | [] => []
  | (name, v) :: rest => (quote name ++ ":" ++ compact v) :: compactMembers rest

end

/-- A line break followed by an indentation of two spaces for each level. -/
def lineBreak (level : Nat) : String :=
  String.ofList ('\n' :: List.replicate (2 * level) ' ')

/-- Parts between brackets, each on a line of its own; without parts only the brackets. -/
def block (opening closing : String) (level : Nat) : List String → String
  | [] => opening ++ closing
  | parts =>
    opening ++ lineBreak (level + 1) ++ ("," ++ lineBreak (level + 1)).intercalate parts ++
      lineBreak level ++ closing

mutual

/-- The text of a value with one element or member on a line, indented by two spaces. -/
def prettyAt (level : Nat) : Json → String
  | .array items => block "[" "]" level (prettyItems (level + 1) items)
  | .object members => block "\x7b" "\x7d" level (prettyMembers (level + 1) members)
  | v => compact v

/-- The texts of the elements of an array. -/
def prettyItems (level : Nat) : List Json → List String
  | [] => []
  | v :: vs => prettyAt level v :: prettyItems level vs

/-- The texts of the members of an object. -/
def prettyMembers (level : Nat) : List (String × Json) → List String
  | [] => []
  | (name, v) :: rest => (quote name ++ ": " ++ prettyAt level v) :: prettyMembers level rest

end

/-- The indented text of a value. -/
def pretty (v : Json) : String :=
  prettyAt 0 v

end Json

namespace Value

mutual

/-- The bindable value that a JSON value stands for; an object anywhere inside has none. Integers
beyond sixty-four bits become floats. -/
def ofJson? : Json → Option Value
  | .null => some .null
  | .bool b => some (.bool b)
  | .integer n =>
    if Int64.minValue.toInt ≤ n ∧ n ≤ Int64.maxValue.toInt then some (.int (Int64.ofInt n))
    else some (.float (Float.ofInt n))
  | .real x => some (.float x)
  | .text s => some (.text s)
  | .array items => (ofJsonItems? items).map .list
  | .object _ => none

/-- The bindable values of the elements of an array. -/
def ofJsonItems? : List Json → Option (List Value)
  | [] => some []
  | v :: vs => (ofJson? v).bind fun x => (ofJsonItems? vs).map (x :: ·)

end

mutual

/-- The JSON value that a value is serialized as. Bytes become an array of numbers. -/
def toJson : Value → Json
  | .null => .null
  | .bool b => .bool b
  | .int n => .integer n.toInt
  | .float x => .real x
  | .text s => .text s
  | .bytes bs => .array (bs.map fun b => .integer b.toNat)
  | .list items => .array (toJsonItems items)

/-- The JSON values of the elements of a list. -/
def toJsonItems : List Value → List Json
  | [] => []
  | v :: vs => toJson v :: toJsonItems vs

end

end Value

end FilterSql
