/-!
# Decimal numerals

Digits of natural numbers, the text of integers, and reading a signed numeral that has to fit in
sixty-four bits.
-/

namespace FilterSql.Numeral

/-- The decimal digits of a natural number, most significant first. -/
def ofNat (n : Nat) : List Char :=
  Nat.toDigits 10 n

/-- The decimal text of an integer, with a minus sign in front of a negative one. -/
def ofInt : Int → List Char
  | .ofNat n => ofNat n
  | .negSucc n => '-' :: ofNat (n + 1)

/-- The decimal text of an integer as a string. -/
def text (n : Int) : String :=
  String.ofList (ofInt n)

/-- The value of one decimal digit. -/
def digitValue (c : Char) : Nat :=
  c.toNat - '0'.toNat

/-- The number that a run of digits denotes; the empty run denotes zero. -/
def toNat (ds : List Char) : Nat :=
  ds.foldl (fun n c => 10 * n + digitValue c) 0

/-- The leading digits of a text, and what follows them. -/
def spanDigits (cs : List Char) : List Char × List Char :=
  (cs.takeWhile Char.isDigit, cs.dropWhile Char.isDigit)

/-- Take one leading sign off a text: whether it was a minus, and the rest. -/
def spanSign : List Char → Bool × List Char
  | '-' :: cs => (true, cs)
  | '+' :: cs => (false, cs)
  | cs => (false, cs)

/-- The integer that a text of digits with an optional sign denotes. -/
def toInt? (cs : List Char) : Option Int :=
  let (negative, ds) := spanSign cs
  if ds.isEmpty || !ds.all Char.isDigit then none
  else some (if negative then -(toNat ds : Int) else toNat ds)

/-- The signed sixty-four bit integer that a text denotes, if it is a numeral in range. -/
def toInt64? (cs : List Char) : Option Int64 :=
  (toInt? cs).bind fun n =>
    if Int64.minValue.toInt ≤ n ∧ n ≤ Int64.maxValue.toInt then some (Int64.ofInt n) else none

/-- The unsigned sixty-four bit integer that a text of digits denotes, a leading plus allowed. -/
def toUInt64? (cs : List Char) : Option UInt64 :=
  let ds := match cs with
    | '+' :: rest => rest
    | _ => cs
  if ds.isEmpty || !ds.all Char.isDigit then none
  else if toNat ds < UInt64.size then some (UInt64.ofNat (toNat ds)) else none

end FilterSql.Numeral
