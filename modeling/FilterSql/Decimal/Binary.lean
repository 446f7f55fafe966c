/-!
# Floats taken apart

A float is read from its bits as `± mantissa · 2 ^ exponent` with natural mantissa, so that every
question about its value is one about integers.
-/

namespace FilterSql.Decimal

/-- The value of a float: not a number, infinite, or `± mantissa · 2 ^ exponent`. -/
inductive Binary where
  | nan
  | infinite (negative : Bool)
  | finite (negative : Bool) (mantissa : Nat) (exponent : Int)
deriving DecidableEq, Repr

/-- The value that a float's sixty-four bits stand for. -/
def Binary.ofFloat (x : Float) : Binary :=
  let bits : Nat := x.toBits.toNat
  let negative := decide (Nat.pow 2 63 ≤ bits)
  let scale : Nat := bits / Nat.pow 2 52 % 2048
  let fraction : Nat := bits % Nat.pow 2 52
  -- The greatest scale marks what is no number or no finite one, the least has no hidden bit.
  if scale = 2047 then if fraction = 0 then .infinite negative else .nan
  else if scale = 0 then .finite negative fraction (-1074)
  else .finite negative (fraction + Nat.pow 2 52) ((scale : Int) - 1075)

/-- The power of a base with a positive exponent; one for any other exponent. -/
def upward (base : Nat) (exponent : Int) : Nat :=
  Nat.pow base exponent.toNat

/-- The integer with the same value, where there is one. -/
def Binary.toInt? : Binary → Option Int
  | .finite negative mantissa exponent =>
    let magnitude? :=
      if 0 ≤ exponent then some (mantissa * upward 2 exponent)
      else
        let unit := upward 2 (-exponent)
        if mantissa % unit = 0 then some (mantissa / unit) else none
    magnitude?.map fun n => if negative then -(n : Int) else n
  | _ => none

/-- Whether a float is neither infinite nor a NaN. -/
def isFinite (x : Float) : Bool :=
  match Binary.ofFloat x with
  | .finite .. => true
  | _ => false

/-- The integer nearest to `n` among the signed sixty-four bit ones. -/
def clampToInt64 (n : Int) : Int64 :=
  Int64.ofInt (max Int64.minValue.toInt (min Int64.maxValue.toInt n))

/-- Positive infinity. -/
def infinity : Float :=
  Float.ofBits 0x7FF0000000000000

/-- Not a number. -/
def nan : Float :=
  Float.ofBits 0x7FF8000000000000

/-- The float nearest to an integer, a tie going to the even mantissa. -/
def ofInt64 (n : Int64) : Float :=
  .ofModel (.ofInt64 n)

end FilterSql.Decimal
