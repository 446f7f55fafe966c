import FilterSql.Json
import FilterSql.Decimal.Reading

/-!
# Numbers of JSON texts

A number literal is cut into its parts by the grammar of JSON. An integer literal of at most
sixty-four bits is kept exactly. Every other number becomes a float: its digits are collected into
an unsigned sixty-four bit significand until the next digit would overflow it, and the significand
is then multiplied or divided by a power of ten in floating point.
-/

namespace FilterSql.Json

/-- The parts of a number literal. -/
structure NumberParts where
  /-- Whether a minus sign stands in front. -/
  negative : Bool
  /-- The digits in front of the point. -/
  whole : List Char
  /-- The digits behind the point, if there is one. -/
  fraction : Option (List Char)
  /-- The signed exponent, if there is one. -/
  exponent : Option Int

/-- The digits behind a point at the front of a text, if there is one, and what follows. A point is
followed by a digit. -/
def scanFraction (cs : List Char) : Option (Option (List Char) × List Char) :=
  match cs with
  | '.' :: rest =>
    let (ds, rest) := Numeral.spanDigits rest
    if ds.isEmpty then none else some (some ds, rest)
  | _ => some (none, cs)

/-- The exponent behind a mark at the front of a text, if there is one, and what follows. A mark is
followed by an optional sign and a digit. -/
def scanExponent (cs : List Char) : Option (Option Int × List Char) :=
  match cs with
  | c :: rest =>
    if c = 'e' ∨ c = 'E' then
      let (below, rest) := Numeral.spanSign rest
      let (ds, rest) := Numeral.spanDigits rest
      let size : Int := Numeral.toNat ds
      if ds.isEmpty then none else some (some (if below then -size else size), rest)
    else some (none, cs)
  | [] => some (none, cs)

/-- A number literal without its sign, cut off the front of a text. The whole part has no
superfluous zero. -/
def scanUnsigned (negative : Bool) (cs : List Char) : Option (NumberParts × List Char) := do
  let (whole, cs) := Numeral.spanDigits cs
  if whole.isEmpty || (whole.head? == some '0' && whole.length != 1) then none
  else
    let (fraction, cs) ← scanFraction cs
    let (exponent, cs) ← scanExponent cs
    return (⟨negative, whole, fraction, exponent⟩, cs)

/-- A number literal cut off the front of a text. -/
def scanNumber : List Char → Option (NumberParts × List Char)
  | '-' :: rest => scanUnsigned true rest
  | cs => scanUnsigned false cs

/-- Append digits to a significand while it stays below `2 ^ 64`: the significand, and how many
digits it took. -/
def gather (significand : Nat) : List Char → Nat × Nat
  | [] => (significand, 0)
  | d :: ds =>
    let next := 10 * significand + Numeral.digitValue d
    if next < Nat.pow 2 64 then
      let (result, count) := gather next ds
      (result, count + 1)
    else (significand, 0)

/-- A power of ten as a float. -/
def powerOfTen (n : Nat) : Float :=
  Float.ofScientific 1 false n

/-- Multiply a float by `10 ^ exponent`, in steps that floats can express. A result beyond the
range of floats is refused. -/
def scale (x : Float) (exponent : Int) : Option Float :=
  if 308 < exponent then if x == 0.0 then some x else none
  else if 0 ≤ exponent then
    let product := x * powerOfTen exponent.toNat
    if Decimal.isFinite product then some product else none
  else if -308 ≤ exponent then some (x / powerOfTen (-exponent).toNat)
  else if x == 0.0 then some x
  -- `10 ^ 308` is the greatest power of ten among the floats.
  else scale (x / powerOfTen 308) (exponent + 308)
termination_by (-exponent).toNat
decreasing_by omega

/-- The value of a number literal. -/
def NumberParts.value (parts : NumberParts) : Option Json :=
  let (start, used) := gather 0 parts.whole
  let dropped := parts.whole.length - used
  if parts.fraction.isNone && parts.exponent.isNone && dropped = 0 then
    if !parts.negative then some (.integer start)
    else if start ≠ 0 ∧ start ≤ Nat.pow 2 63 then some (.integer (-(start : Int)))
    else some (.real (-Float.ofNat start))
  else
    let (significand, placed) := gather start (parts.fraction.getD [])
    let exponent := (dropped : Int) - placed + parts.exponent.getD 0
    (scale (Float.ofNat significand) exponent).map fun x =>
      .real (if parts.negative then -x else x)

end FilterSql.Json
