import FilterSql.Decimal.Binary
import FilterSql.Text.Numeral

/-!
# Shortest decimals

The fewest decimal digits that still denote a given float. The reals that round to the float form
an interval around it; for one digit, two digits and so on, the two neighbours of the value on
that decimal grid are tried against the interval in exact integer arithmetic. The first grid with
a hit wins; of two hits the nearer wins, and a tie goes to the even digit.
-/

namespace FilterSql.Decimal

/-- A positive decimal number `digits · 10 ^ exponent`. -/
structure Scientific where
  /-- The significant digits as one number. -/
  digits : Nat
  /-- The power of ten that the digits are multiplied with. -/
  exponent : Int
deriving DecidableEq, Repr

/-- The position of the decimal point: the value is `0.digits · 10 ^ point`. -/
def Scientific.point (d : Scientific) : Int :=
  (Numeral.ofNat d.digits).length + d.exponent

/-- The same value without zeros at the end of its digits. -/
def Scientific.strip (d : Scientific) : Scientific :=
  let zeros := ((Numeral.ofNat d.digits).reverse.takeWhile (· == '0')).length
  ⟨d.digits / Nat.pow 10 zeros, d.exponent + zeros⟩

/-- Compare `a · 2 ^ i` with `b · 10 ^ k`, exactly. -/
def compareScaled (a : Nat) (i : Int) (b : Nat) (k : Int) : Ordering :=
  compare (a * upward 2 i * upward 10 (-k)) (b * upward 10 k * upward 2 (-i))

/-- The interval of reals that round to `mantissa · 2 ^ exponent`, in quarters of the last binary
place. A power of two has a neighbour below at half the distance. An end belongs to the interval
when the mantissa is even. -/
structure Rounding where
  /-- The lower end, in units of `2 ^ exponent`. -/
  lower : Nat
  /-- The value itself, in the same units. -/
  value : Nat
  /-- The upper end, in the same units. -/
  upper : Nat
  /-- The power of two that the three numbers are multiplied with. -/
  exponent : Int
  /-- Whether the ends belong to the interval. -/
  closed : Bool

/-- The rounding interval of `mantissa · 2 ^ exponent`. -/
def Rounding.of (mantissa : Nat) (exponent : Int) : Rounding :=
  { lower := 4 * mantissa -
      (if mantissa = Nat.pow 2 52 ∧ exponent ≠ -1074 then 1 else 2)
    value := 4 * mantissa
    upper := 4 * mantissa + 2
    exponent := exponent - 2
    closed := mantissa % 2 == 0 }

/-- Whether `d · 10 ^ k` rounds to the value. -/
def Rounding.admits (r : Rounding) (d : Nat) (k : Int) : Bool :=
  let low := compareScaled r.lower r.exponent d k
  let high := compareScaled r.upper r.exponent d k
  if r.closed then low != .gt && high != .lt else low == .lt && high == .gt

/-- How many digits the value has in front of its decimal point; zero or negative below one. -/
def Rounding.magnitude (r : Rounding) : Int :=
  -- No positive float is below `10 ^ (-400)`, so the lifted value has an integer part.
  let lifted := r.value * Nat.pow 10 400 * upward 2 r.exponent / upward 2 (-r.exponent)
  ((Numeral.ofNat lifted).length : Int) - 400

/-- The best decimal on the grid of multiples of `10 ^ k`, if one of the value's two neighbours
there rounds to the value. -/
def Rounding.nearestOn (r : Rounding) (k : Int) : Option Scientific :=
  let below :=
    r.value * upward 2 r.exponent * upward 10 (-k) / (upward 2 (-r.exponent) * upward 10 k)
  let above := below + 1
  match r.admits below k, r.admits above k with
  | true, true =>
    match compareScaled (2 * r.value) r.exponent (below + above) k with
    | .lt => some ⟨below, k⟩
    | .gt => some ⟨above, k⟩
    | .eq => some ⟨if below % 2 = 0 then below else above, k⟩
  | true, false => some ⟨below, k⟩
  | false, true => some ⟨above, k⟩
  | false, false => none

/-- The first of the grids with `count`, `count + 1`, … digits that holds a decimal for the value;
`tries` grids are looked at. -/
def Rounding.search (r : Rounding) (magnitude : Int) : (tries count : Nat) → Option Scientific
  | 0, _ => none
  | tries + 1, count =>
    match r.nearestOn (magnitude - count) with
    | some d => some d
    | none => r.search magnitude tries (count + 1)

/-- The shortest decimal that denotes `mantissa · 2 ^ exponent`. Seventeen digits always do. -/
def shortest (mantissa : Nat) (exponent : Int) : Scientific :=
  let r := Rounding.of mantissa exponent
  match r.search r.magnitude 17 1 with
  | some d => d.strip
  | none => ⟨0, 0⟩

end FilterSql.Decimal
