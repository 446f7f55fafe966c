/-!
# Patterns

Matching a text against a pattern of `LIKE`: a percent sign stands for any characters, an underscore
for any single one, the escape character takes away the meaning of the character behind it, and
every other character stands for itself, without regard to the case of ASCII letters.
-/

namespace FilterSql.Pattern

/-- A part of a pattern. -/
inductive Piece where
  /-- Any number of characters. -/
  | any
  /-- Exactly one character. -/
  | one
  /-- This character, in either case if it is an ASCII letter. -/
  | exactly (c : Char)
deriving DecidableEq, Repr

/-- The parts of a pattern. An escape character at its very end matches nothing. -/
def pieces (escape : Option Char) : List Char → Option (List Piece)
  | [] => some []
  | c :: cs =>
    if some c = escape then
      match cs with
      | d :: rest => (pieces escape rest).map (.exactly d :: ·)
      | [] => none
    else
      let piece := if c = '%' then Piece.any else if c = '_' then .one else .exactly c
      (pieces escape cs).map (piece :: ·)

/-- Whether a rest of the text exists that the parts match, each rest being tried in turn. -/
def someTail (matchRest : List Char → Bool) : List Char → Bool
  | [] => matchRest []
  | c :: cs => matchRest (c :: cs) || someTail matchRest cs

/-- Whether a text consists of the parts. -/
def matchPieces : List Piece → List Char → Bool
  | [], text => text.isEmpty
  | .any :: rest, text => someTail (matchPieces rest) text
  | .one :: rest, text =>
    match text with
    | _ :: cs => matchPieces rest cs
    | [] => false
  | .exactly c :: rest, text =>
    match text with
    | d :: cs => c.toLower == d.toLower && matchPieces rest cs
    | [] => false

/-- Whether a text matches a pattern. -/
def isMatch (pattern : List Char) (escape : Option Char) (text : List Char) : Bool :=
  match pieces escape pattern with
  | some ps => matchPieces ps text
  | none => false

end FilterSql.Pattern
