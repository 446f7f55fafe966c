import FilterSql.Decimal.Shortest

/-!
# Float text

How the shortest decimal of a float is laid out as characters. What varies between the places
where floats are written is one `Layout` value.
-/

namespace FilterSql.Decimal

/-- The decisions of a float text format. -/
structure Layout where
  /-- Digits are written out in full while the decimal point stands at most here. -/
  lastPoint : Int
  /-- Zeros are written in front of the digits while the decimal point stands after this. -/
  beforeFirstPoint : Int
  /-- Whether a positive exponent carries a plus sign. -/
  plusSign : Bool

/-- Digits with the decimal point at `point`, in positional or scientific form. -/
def Layout.place (layout : Layout) (digits : List Char) (point : Int) : List Char :=
  let count : Int := digits.length
  if count ≤ point ∧ point ≤ layout.lastPoint then
    digits ++ List.replicate (point - count).toNat '0' ++ ['.', '0']
  else if 0 < point ∧ point ≤ layout.lastPoint then
    digits.take point.toNat ++ '.' :: digits.drop point.toNat
  else if layout.beforeFirstPoint < point ∧ point ≤ 0 then
    '0' :: '.' :: List.replicate (-point).toNat '0' ++ digits
  else
    let fraction := match digits.drop 1 with
      | [] => []
      | rest => '.' :: rest
    let exponent := point - 1
    let sign := if layout.plusSign && 0 < exponent then ['+'] else []
    digits.take 1 ++ fraction ++ 'e' :: sign ++ Numeral.ofInt exponent

/-- The text of a float. -/
def Layout.text (layout : Layout) (x : Float) : String :=
  match Binary.ofFloat x with
  | .nan => "NaN"
  | .infinite negative => if negative then "-inf" else "inf"
  | .finite negative mantissa exponent =>
    let body :=
      if mantissa = 0 then ['0', '.', '0']
      else
        let d := shortest mantissa exponent
        layout.place (Numeral.ofNat d.digits) d.point
    String.ofList (if negative then '-' :: body else body)

end FilterSql.Decimal
