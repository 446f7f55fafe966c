import FilterSql.Decimal.Reading
import FilterSql.Text.Blank
import FilterSql.Truth

/-!
# Stored values

What a table stores in a column of a row, how stored values are ordered, and how a text or a number
is converted where the column or the operation wants the other.

Nulls come before numbers, numbers before texts, and texts before blobs. Integers and floats are
compared by their exact values.
-/

namespace FilterSql

/-- A value as a table stores it. -/
inductive Cell where
  | null
  | integer (n : Int64)
  | real (x : Float)
  | text (s : String)
  | blob (bs : List UInt8)
deriving DecidableEq, Inhabited

namespace Cell

/-- What a table keeps of a value: a float that is not a number becomes null. -/
def stored : Cell → Cell
  | real x => if x.isNaN then null else real x
  | c => c

/-- The value that is read back from a stored one. -/
def toValue : Cell → Value
  | null => .null
  | integer n => .int n
  | real x => .float x
  | text s => .text s
  | blob bs => .bytes bs

/-- The position of a value's class in the order of stored values. -/
def rank : Cell → Nat
  | null => 0
  | integer _ | real _ => 1
  | text _ => 2
  | blob _ => 3

/-- Compare an integer with a float by their exact values. -/
def compareIntReal (n : Int) (x : Float) : Ordering :=
  match Decimal.Binary.ofFloat x with
  | .nan => .gt
  | .infinite negative => if negative then .gt else .lt
  | .finite negative mantissa exponent =>
    let m : Int := if negative then -(mantissa : Int) else mantissa
    compare (n * Decimal.upward 2 (-exponent)) (m * Decimal.upward 2 exponent)

/-- Compare two floats. -/
def compareReal (x y : Float) : Ordering :=
  if x < y then .lt else if x == y then .eq else .gt

/-- The order of stored values. -/
def compare : Cell → Cell → Ordering
  | integer a, integer b => Ord.compare a.toInt b.toInt
  | integer a, real y => compareIntReal a.toInt y
  | real x, integer b => (compareIntReal b.toInt x).swap
  | real x, real y => compareReal x y
  | text s, text t => compareOfLessAndEq s t
  | blob a, blob b => Ord.compare (a.map UInt8.toNat) (b.map UInt8.toNat)
  | a, b => Ord.compare a.rank b.rank

/-- The truth of a statement about two values, unknown if one of them is null. -/
def relate (holds : Ordering → Bool) (a b : Cell) : Truth :=
  if a.rank = 0 ∨ b.rank = 0 then none else some (holds (a.compare b))

/-- Whether two values are equal and neither is null. -/
def same (a b : Cell) : Bool :=
  (relate (· == .eq) a b).holds

/-- White space around numbers in stored texts. -/
def isPad (c : Char) : Bool :=
  c == ' ' || ('\t' ≤ c && c ≤ '\r')

/-- The number that a text spells, in a place that wants numbers; other values stay. -/
def numeric : Cell → Cell
  | text s =>
    let cs := ((s.toList.dropWhile isPad).reverse.dropWhile isPad).reverse
    match Numeral.toInt64? cs with
    | some n => integer n
    | none =>
      if cs.any Char.isDigit then
        match Decimal.read cs with
        | some x => real x
        | none => text s
      else text s
  | c => c

/-- The integer key that a value can be stored as: integers, floats and texts of integral value. -/
def integerKey? (c : Cell) : Option Int64 :=
  match c.numeric with
  | integer n => some n
  | real x =>
    match (Decimal.Binary.ofFloat x).toInt? with
    | some n =>
      if Int64.minValue.toInt ≤ n ∧ n ≤ Int64.maxValue.toInt then some (Int64.ofInt n) else none
    | none => none
  | _ => none

/-- Floats as texts: at most fifteen significant digits, positional while the point stands at most
behind the fifteenth. -/
def realLayout : Decimal.Layout :=
  { lastPoint := 15, beforeFirstPoint := -4, plusSign := true }

/-- The text of a float where a pattern is applied to it. -/
def realText (x : Float) : String :=
  match Decimal.Binary.ofFloat x with
  | .finite negative mantissa exponent =>
    if mantissa = 0 then "0.0"
    else
      let r := Decimal.Rounding.of mantissa exponent
      let k := r.magnitude - 15
      let scaled := 2 * (r.value * Decimal.upward 2 r.exponent * Decimal.upward 10 (-k)) /
        (Decimal.upward 2 (-r.exponent) * Decimal.upward 10 k)
      let d := (Decimal.Scientific.mk ((scaled + 1) / 2) k).strip
      let body := realLayout.place (Numeral.ofNat d.digits) d.point
      String.ofList (if negative then '-' :: body else body)
  | .infinite negative => if negative then "-Inf" else "Inf"
  | .nan => ""

/-- The text of a value where a pattern is applied to it; null has none. -/
def patternText? : Cell → Option String
  | null => none
  | integer n => some (Numeral.text n.toInt)
  | real x => some (realText x)
  | text s => some s
  | blob bs => some ((String.fromUTF8? ⟨bs.toArray⟩).getD "")

end Cell

end FilterSql
