import FilterSql.Text.Alphanumeric
import FilterSql.Text.Lowercase

/-!
# Naming conventions

How a column or table name is derived from the name of a property or entity that declares none.

Snake case walks over a name once. Characters other than letters and digits become underscores, a
run of them a single one, and none at the start of the result. A character that is no small ASCII
letter opens a new word when the name holds a lower case character beside it. Neighbours are looked
up by counting characters up to the position of the character in the encoded name, in bytes; in a
name within ASCII the two counts are the same.
-/

namespace FilterSql

/-- The convention for names that are not declared. -/
inductive Naming where
  | asIs
  | snakeCase
deriving DecidableEq, Repr

namespace Naming

/-- Whether the character at position `i` is lower case; outside the name it is not. -/
def isLowercaseAt (name : Array Char) (i : Nat) : Bool :=
  (name[i]?).any Text.isLowercase

/-- Whether the character `c` at byte position `offset` opens a new word inside `name`. -/
def opensWord (name : Array Char) (offset : Nat) (c : Char) : Bool :=
  c.toUpper == c &&
    (isLowercaseAt name (offset + 1) || (0 < offset && isLowercaseAt name (offset - 1)))

/-- Snake case of the characters from byte position `offset` on. `atStart` holds while no word has
been begun at the current place. -/
def snakeFrom (name : Array Char) (offset : Nat) (atStart : Bool) : List Char → List Char
  | [] => []
  | c :: rest =>
    let next := offset + c.utf8Size
    if !Text.isAlphanumeric c then
      if atStart then snakeFrom name next true rest else '_' :: snakeFrom name next true rest
    else
      let tail := c.toLower :: snakeFrom name next false rest
      if !atStart && opensWord name offset c then '_' :: tail else tail

/-- A name in snake case; what is no letter or digit at its end is dropped. -/
def snake (name : String) : String :=
  let chars := name.toList
  let kept := (chars.reverse.dropWhile fun c => !Text.isAlphanumeric c).reverse
  String.ofList (snakeFrom chars.toArray 0 true kept)

/-- The name that the convention derives. -/
def apply : Naming → String → String
  | asIs, name => name
  | snakeCase, name => snake name

end Naming

end FilterSql
