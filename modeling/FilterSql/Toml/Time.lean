import FilterSql.Text.Numeral

/-!
# Dates and times

The grammar of dates and times in TOML: a calendar date, a time of day, or both, and then possibly
the offset from universal time.
-/

namespace FilterSql.Toml.Time

/-- A number of exactly `n` digits at the front of a text. -/
def number (n : Nat) (cs : List Char) : Option (Nat × List Char) :=
  let ds := cs.take n
  if ds.length = n ∧ ds.all Char.isDigit then some (Numeral.toNat ds, cs.drop n) else none

/-- What follows one of some characters at the front of a text. -/
def mark (accepted : List Char) : List Char → Option (List Char)
  | c :: cs => if c ∈ accepted then some cs else none
  | [] => none

/-- The number of days of a month. -/
def daysOf (year month : Nat) : Nat :=
  if month = 2 then
    if (year % 4 = 0 ∧ year % 100 ≠ 0) ∨ year % 400 = 0 then 29 else 28
  else if month = 4 ∨ month = 6 ∨ month = 9 ∨ month = 11 then 30
  else 31

/-- What follows a calendar date. -/
def date (cs : List Char) : Option (List Char) := do
  let (year, cs) ← number 4 cs
  let (month, cs) ← number 2 (← mark ['-'] cs)
  let (day, cs) ← number 2 (← mark ['-'] cs)
  if 1 ≤ month ∧ month ≤ 12 ∧ 1 ≤ day ∧ day ≤ daysOf year month then some cs else none

/-- What follows seconds; they may have a fraction. -/
def seconds (cs : List Char) : Option (List Char) := do
  let (second, cs) ← number 2 cs
  if 60 < second then none
  else
    match cs with
    | '.' :: rest =>
      let (ds, rest) := Numeral.spanDigits rest
      if ds.isEmpty then none else some rest
    | _ => some cs

/-- What follows a time of day; the seconds may be left out. -/
def clock (cs : List Char) : Option (List Char) := do
  let (hour, cs) ← number 2 cs
  let (minute, cs) ← number 2 (← mark [':'] cs)
  if 23 < hour ∨ 59 < minute then none
  else
    match cs with
    | ':' :: rest => seconds rest
    | _ => some cs

/-- What follows an offset from universal time. -/
def offset (cs : List Char) : Option (List Char) :=
  (mark ['Z', 'z'] cs).or do
    let (hour, cs) ← number 2 (← mark ['+', '-'] cs)
    let (minute, cs) ← number 2 (← mark [':'] cs)
    if hour ≤ 23 ∧ minute ≤ 59 then some cs else none

/-- Whether a text is a date, a time of day, or both. -/
def isTime (cs : List Char) : Bool :=
  match date cs with
  | some [] => true
  | some rest =>
    match (mark ['T', 't', ' '] rest).bind clock with
    | some rest => rest.isEmpty || offset rest == some []
    | none => false
  | none => clock cs == some []

end FilterSql.Toml.Time
