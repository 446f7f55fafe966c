import FilterSql.Text.Split
import FilterSql.Toml
import FilterSql.Toml.Lexeme
import FilterSql.Toml.Time

/-!
# Plain values

The values that are written as a word without quotes: truth values, integers, floats and times.
-/

namespace FilterSql.Toml

/-- The digits of a run in which single underscores may separate digits. -/
def ungrouped? (isDigit : Char → Bool) (cs : List Char) : Option (List Char) :=
  let groups := Text.pieces '_' cs
  if groups.all fun g => !g.isEmpty && g.all isDigit then some groups.flatten else none

/-- The digits of a decimal number without superfluous zeros in front. -/
def wholeDigits? (cs : List Char) : Option (List Char) :=
  (ungrouped? Char.isDigit cs).filter fun ds => ds.length = 1 || ds.head? != some '0'

/-- The number that digits denote to a base of at most sixteen. -/
def numberInBase? (base : Nat) (cs : List Char) : Option Nat :=
  (ungrouped? (fun c => (Numeral.hexValue? c).any (· < base)) cs).map fun ds =>
    ds.foldl (fun n c => base * n + (Numeral.hexValue? c).getD 0) 0

/-- An integer: a decimal number with an optional sign, or a number to the base sixteen, eight or
two. -/
def integer? (cs : List Char) : Option Int :=
  match cs with
  | '0' :: 'x' :: ds => (numberInBase? 16 ds).map Int.ofNat
  | '0' :: 'o' :: ds => (numberInBase? 8 ds).map Int.ofNat
  | '0' :: 'b' :: ds => (numberInBase? 2 ds).map Int.ofNat
  | _ =>
    let (negative, ds) := Numeral.spanSign cs
    (wholeDigits? ds).map fun ds =>
      if negative then -(Numeral.toNat ds : Int) else Numeral.toNat ds

/-- Whether a text is the exponent of a float. -/
def isExponent (cs : List Char) : Bool :=
  (ungrouped? Char.isDigit (Numeral.spanSign cs).2).isSome

/-- Whether a text is a float: one of two words, or a decimal number with a fraction, an exponent,
or both. -/
def isFloat (cs : List Char) : Bool :=
  let body := (Numeral.spanSign cs).2
  if body = "inf".toList ∨ body = "nan".toList then true
  else
    let (number, exponent) :=
      (body.takeWhile fun c => c != 'e' && c != 'E', body.dropWhile fun c => c != 'e' && c != 'E')
    let exponentFits := exponent.isEmpty || isExponent exponent.tail
    match Text.splitFirst '.' number with
    | some (whole, fraction) =>
      (wholeDigits? whole).isSome && (ungrouped? Char.isDigit fraction).isSome && exponentFits
    | none => (wholeDigits? number).isSome && !exponent.isEmpty && exponentFits

/-- The value of a word. -/
def scalar? (cs : List Char) : Option Toml :=
  if cs = "true".toList then some (.bool true)
  else if cs = "false".toList then some (.bool false)
  else
    match integer? cs with
    | some n => some (.integer n)
    | none =>
      if isFloat cs then some (.float (String.ofList cs))
      else if Time.isTime cs then some (.time (String.ofList cs))
      else none

/-- The characters of words. -/
def isWordChar (c : Char) : Bool :=
  !(isSpace c || c == '\r' || c == '\n' || c == ',' || c == ']' || c == '\x7d' || c == '#')

/-- The word at the front of a text, and what follows. A date and a time of day with a space
between them are one word. -/
def word (cs : List Char) : List Char × List Char :=
  let first := cs.takeWhile isWordChar
  let rest := cs.dropWhile isWordChar
  match Time.date first, rest with
  | some [], ' ' :: more =>
    let second := more.takeWhile isWordChar
    if (Time.clock second).isSome then (first ++ ' ' :: second, more.dropWhile isWordChar)
    else (first, rest)
  | _, _ => (first, rest)

end FilterSql.Toml
