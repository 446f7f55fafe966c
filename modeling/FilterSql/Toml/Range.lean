import FilterSql.Decimal.Binary
import FilterSql.Decimal.Reading
import FilterSql.Toml

/-!
# The range of numbers

The grammar of documents admits numbers of any size, but no value stands for an integer beyond 128
bits or for a float that only an infinity is near to. A document may not hold such a number, not
even where it is ignored.
-/

namespace FilterSql.Toml

/-- Whether an integer fits into 128 bits, with a sign or without. -/
def fitsInteger (n : Int) : Bool :=
  decide (-Int.ofNat (Nat.pow 2 127) ≤ n) && decide (n < Int.ofNat (Nat.pow 2 128))

/-- Whether a float is one of the words for special values, or has a finite value. -/
def fitsFloat (literal : String) : Bool :=
  match Decimal.Literal.read (literal.toList.filter (· != '_')) with
  | some (.finite negative digits exponent) =>
    Decimal.isFinite (Decimal.Literal.finite negative digits exponent).toFloat
  | _ => true

mutual

/-- Whether all numbers of a value are in their range. -/
def fits : Toml → Bool
  | integer n => fitsInteger n
  | float literal => fitsFloat literal
  | array items => fitsItems items
  | table _ members => fitsMembers members
  | tables latest earlier => fitsMembers latest && fitsTables earlier
  | text _ | bool _ | time _ => true

/-- Whether all numbers of some values are in their range. -/
def fitsItems : List Toml → Bool
  | [] => true
  | v :: vs => fits v && fitsItems vs

/-- Whether all numbers of the members of a table are in their range. -/
def fitsMembers : List (String × Toml) → Bool
  | [] => true
  | (_, v) :: m => fits v && fitsMembers m

/-- Whether all numbers of some tables are in their range. -/
def fitsTables : List (List (String × Toml)) → Bool
  | [] => true
  | m :: ms => fitsMembers m && fitsTables ms

end

/-- The members of a table, provided that all numbers of those with other than the given names are
in their range. -/
def Members.knowing? (names : List String) (m : Members) : Option Members :=
  if fitsMembers (m.filter fun (name, _) => !names.contains name) then some m else none

end FilterSql.Toml
