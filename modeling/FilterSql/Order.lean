import FilterSql.Field
import FilterSql.Text.Blank
import FilterSql.Text.Split

/-!
# Ordering

The terms of an `ORDER BY`. A list of terms breaks ties from left to right.
-/

namespace FilterSql

/-- The direction of an ordering term. -/
inductive Direction where
  | ascending
  | descending
deriving DecidableEq, Repr

/-- The name of a direction. -/
def Direction.name : Direction → String
  | .ascending => "ascending"
  | .descending => "descending"

/-- The direction that a word stands for, in any case of ASCII letters. -/
def Direction.ofWord? (word : List Char) : Option Direction :=
  let lower := String.ofList (word.map Char.toLower)
  if lower = "asc" ∨ lower = "ascending" then some .ascending
  else if lower = "desc" ∨ lower = "descending" then some .descending
  else none

/-- One term of an ordering. -/
structure OrderTerm where
  /-- What is ordered by. -/
  field : Field
  /-- In which direction. -/
  direction : Direction := .ascending
deriving Repr

/-- Read `name`, `name:asc` or `name:desc`. White space around either part is dropped, and the name
may not be empty. -/
def OrderTerm.parse (s : String) : Option OrderTerm :=
  let (name, direction?) := match Text.splitFirst ':' s.toList with
    | some (name, word) => (name, Direction.ofWord? (Text.trimChars word))
    | none => (s.toList, some .ascending)
  let name := Text.trimChars name
  if name.isEmpty then none
  else direction?.map fun direction => { field := { name := String.ofList name }, direction }

end FilterSql
