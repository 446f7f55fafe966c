/-!
# Environments

The variables that a program is started with. A variable is held as an entry made of its name, an
equals sign and its value; looking a name up means finding the first entry that begins with the name
and an equals sign. What follows need not be a text: it may hold bytes that belong to no character.
-/

namespace FilterSql

namespace Environment

/-- A part of a value: a character, or a byte that belongs to none. -/
inductive Piece where
  | char (c : Char)
  | stray (byte : UInt8)
deriving DecidableEq, Repr

/-- The character that a part of a value is. -/
def Piece.char? : Piece → Option Char
  | char c => some c
  | stray _ => none

/-- The parts of a text. -/
def pieces (s : String) : List Piece :=
  s.toList.map .char

/-- What the entry of a name begins with. -/
def opening (name : String) : List Piece :=
  pieces name ++ [.char '=']

/-- A variable. -/
structure Variable where
  /-- The name. -/
  name : String
  /-- The value. -/
  value : List Piece
deriving DecidableEq, Repr

namespace Variable

/-- The entry of a variable. -/
def entry (v : Variable) : List Piece :=
  opening v.name ++ v.value

/-- The variable of a name whose value is a text. -/
def ofText (name value : String) : Variable :=
  { name, value := pieces value }

/-- A name and a text make a variable. -/
instance : Coe (String × String) Variable :=
  ⟨fun v => ofText v.1 v.2⟩

/-- Names and texts make variables. -/
instance : Coe (List (String × String)) (List Variable) :=
  ⟨List.map fun v => v⟩

end Variable

end Environment

/-- The environment of a program. -/
structure Environment where
  /-- The variables in the order in which they are looked through. -/
  entries : List Environment.Variable := []

namespace Environment

/-- What stands in the environment for a name. The empty name stands for nothing, nor does one with a
null character, which ends an entry. -/
def find? (env : Environment) (name : String) : Option (List Piece) :=
  if name = "" ∨ '\x00' ∈ name.toList then none
  else env.entries.findSome? fun v => (opening name).isPrefixOf? v.entry

/-- The text that parts of a value make up, if there is no stray byte among them. -/
def text? (value : List Piece) : Option String :=
  (value.mapM Piece.char?).map String.ofList

/-- The text that stands in the environment for a name. -/
def get? (env : Environment) (name : String) : Option String :=
  (env.find? name).bind text?

end Environment

end FilterSql
