import FilterSql.Json.Number
import FilterSql.Text.Hexadecimal

/-!
# Lexemes of JSON texts

A JSON text is first cut into punctuation marks and scalar values; white space between them is
dropped.
-/

namespace FilterSql.Json

/-- A piece of a JSON text. -/
inductive Lexeme where
  | openArray | closeArray | openObject | closeObject | comma | colon
  | scalar (v : Json)

/-- The character that a backslash followed by `c` stands for. -/
def unescape? (c : Char) : Option Char :=
  if c = '"' then some '"'
  else if c = '\\' then some '\\'
  else if c = '/' then some '/'
  else if c = 'b' then some '\x08'
  else if c = 'f' then some '\x0c'
  else if c = 'n' then some '\n'
  else if c = 'r' then some '\r'
  else if c = 't' then some '\t'
  else none

/-- Put a character in front of a scanned string. -/
def addChar (c : Char) : Option (List Char × List Char) → Option (List Char × List Char) :=
  Option.map fun (s, rest) => (c :: s, rest)

/-- The characters of a string up to its closing quote, and what follows. Control characters and
surrogates that do not form a pair are refused. -/
def scanString : List Char → Option (List Char × List Char)
  | [] => none
  | '"' :: rest => some ([], rest)
  | '\\' :: 'u' :: a :: b :: c :: d :: rest =>
    match Numeral.hexNumber? [a, b, c, d] with
    | none => none
    | some unit =>
      if unit < 0xD800 ∨ 0xE000 ≤ unit then addChar (Char.ofNat unit) (scanString rest)
      else
        match rest with
        | '\\' :: 'u' :: a :: b :: c :: d :: rest =>
          match Numeral.hexNumber? [a, b, c, d] with
          | none => none
          | some low =>
            if unit < 0xDC00 ∧ 0xDC00 ≤ low ∧ low < 0xE000 then
              let code := 0x10000 + (unit - 0xD800) * 0x400 + (low - 0xDC00)
              addChar (Char.ofNat code) (scanString rest)
            else none
        | _ => none
  | '\\' :: c :: rest =>
    match unescape? c with
    | some c => addChar c (scanString rest)
    | none => none
  | c :: rest => if c = '\\' ∨ c.toNat < 0x20 then none else addChar c (scanString rest)

/-- White space of JSON texts. -/
def isSpace (c : Char) : Bool :=
  c == ' ' || c == '\n' || c == '\r' || c == '\t'

/-- The words that stand for a value. -/
def words : List (List Char × Json) :=
  [("null".toList, .null), ("true".toList, .bool true), ("false".toList, .bool false)]

/-- Cut one of the words off the front of a text. -/
def scanWord (cs : List Char) : Option (Json × List Char) :=
  words.findSome? fun (word, v) => (word.isPrefixOf? cs).map fun rest => (v, rest)

/-- The lexeme at the front of a text that does not start with white space, and what follows. -/
def scan : List Char → Option (Lexeme × List Char)
  | '[' :: rest => some (.openArray, rest)
  | ']' :: rest => some (.closeArray, rest)
  | '\x7b' :: rest => some (.openObject, rest)
  | '\x7d' :: rest => some (.closeObject, rest)
  | ',' :: rest => some (.comma, rest)
  | ':' :: rest => some (.colon, rest)
  | '"' :: rest => (scanString rest).map fun (s, rest) => (.scalar (.text (String.ofList s)), rest)
  | c :: rest =>
    if c = '-' ∨ c.isDigit then
      (scanNumber (c :: rest)).bind fun (parts, rest) =>
        parts.value.map fun v => (.scalar v, rest)
    else (scanWord (c :: rest)).map fun (v, rest) => (.scalar v, rest)
  | [] => none

/-- The lexemes of a text, with at most `fuel` steps. -/
def lexemesWithin : (fuel : Nat) → List Char → Option (List Lexeme)
  | _, [] => some []
  | 0, _ :: _ => none
  | fuel + 1, c :: cs =>
    if isSpace c then lexemesWithin fuel cs
    else (scan (c :: cs)).bind fun (lexeme, rest) => (lexemesWithin fuel rest).map (lexeme :: ·)

/-- The lexemes of a text. Every step takes at least one character, so that as many steps as there
are characters are enough. -/
def lexemes (cs : List Char) : Option (List Lexeme) :=
  lexemesWithin cs.length cs

end FilterSql.Json
