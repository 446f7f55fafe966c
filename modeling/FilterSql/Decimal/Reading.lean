import FilterSql.Decimal.Binary
import FilterSql.Text.Numeral

/-!
# Reading decimals

The grammar of the float texts that are accepted where a number is expected, and the float nearest
to what a text denotes, in double or in single precision.
-/

namespace FilterSql.Decimal

/-- What a float text denotes: one of the values that are no numbers, or
`± digits · 10 ^ exponent`. -/
inductive Literal where
  | nan
  | infinite (negative : Bool)
  | finite (negative : Bool) (digits : Nat) (exponent : Int)
deriving DecidableEq, Repr

namespace Literal

/-- The exponent part at the end of a float text: nothing, or `e` with a signed run of digits. -/
def readExponent : List Char → Option Int
  | [] => some 0
  | c :: cs => if c = 'e' ∨ c = 'E' then Numeral.toInt? cs else none

/-- What a text behind its sign denotes: digits with an optional point on either side and an
optional exponent, or one of the words `inf`, `infinity` and `nan` in any letter case. -/
def readUnsigned (negative : Bool) (cs : List Char) : Option Literal :=
  let word := cs.map Char.toLower
  if word = "inf".toList ∨ word = "infinity".toList then some (.infinite negative)
  else if word = "nan".toList then some .nan
  else
    let (whole, rest) := Numeral.spanDigits cs
    let (fraction, rest) := match rest with
      | '.' :: rest => Numeral.spanDigits rest
      | _ => ([], rest)
    if whole.isEmpty && fraction.isEmpty then none
    else
      (readExponent rest).map fun exponent =>
        .finite negative (Numeral.toNat (whole ++ fraction)) (exponent - fraction.length)

/-- What a text with an optional sign denotes. -/
def read (cs : List Char) : Option Literal :=
  let (negative, rest) := Numeral.spanSign cs
  readUnsigned negative rest

/-- The number of digits in front of the decimal point; zero or negative below one. -/
def magnitude (digits : Nat) (exponent : Int) : Int :=
  (Numeral.ofNat digits).length + exponent

/-- The nearest float. Far outside the range of floats the answer is an infinity or a zero, without
computing the power. -/
def toFloat : Literal → Float
  | nan => Decimal.nan
  | infinite negative => if negative then -infinity else infinity
  | finite negative digits exponent =>
    let x :=
      if digits = 0 ∨ magnitude digits exponent < -400 then 0.0
      else if 400 < magnitude digits exponent then infinity
      else Float.ofScientific digits (decide (exponent < 0)) exponent.natAbs
    if negative then -x else x

/-- The nearest float of single precision. -/
def toSingle : Literal → Float32
  | nan => Decimal.nan.toFloat32
  | infinite negative => (if negative then -infinity else infinity).toFloat32
  | finite negative digits exponent =>
    let x : Float32 :=
      if digits = 0 ∨ magnitude digits exponent < -100 then 0.0
      else if 100 < magnitude digits exponent then infinity.toFloat32
      else Float32.ofScientific digits (decide (exponent < 0)) exponent.natAbs
    if negative then -x else x

end Literal

/-- The float that a text denotes. -/
def read (cs : List Char) : Option Float :=
  (Literal.read cs).map Literal.toFloat

end FilterSql.Decimal
