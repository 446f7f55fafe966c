/-!
# Pages

A page of an ordered result: page `n` of `rows` rows covers the rows from `n * rows` up to, but not
including, `(n + 1) * rows`. Both the row count and the offset are signed sixty-four bit numbers in
a statement, so a page whose numbers do not fit is refused.
-/

namespace FilterSql

/-- Why page or row limit arguments are refused. -/
inductive PageFault where
  /-- A page has to hold at least one row. -/
  | noRows
  /-- The row count does not fit a statement. -/
  | tooManyRows (rows : Nat)
  /-- The offset of the page does not fit a statement. -/
  | offsetTooLarge (index rows : Nat)
  /-- A row limit does not fit a statement. -/
  | topTooLarge (top : Nat)
deriving DecidableEq, Repr

/-- One more than the greatest number that can stand in a statement. -/
def rowBound : Nat := 9223372036854775808

/-- The text of a page fault. -/
def PageFault.text : PageFault → String
  | .noRows => "rows per batch must be positive"
  | .tooManyRows rows => s!"{rows} rows per batch exceeds 9223372036854775807"
  | .offsetTooLarge index rows => s!"page {index} of {rows} rows overflows the row offset"
  | .topTooLarge top => s!"top {top} exceeds 9223372036854775807"

/-- A zero-based page of an ordered result. -/
structure Page where
  /-- The number of the page, counted from zero. -/
  index : Nat
  /-- The number of rows on a page. -/
  rows : Nat
  /-- A page holds rows. -/
  rows_pos : 0 < rows
  /-- The row count fits a statement. -/
  rows_lt : rows < rowBound
  /-- The offset fits a statement. -/
  offset_lt : index * rows < rowBound

namespace Page

/-- The page with a given number and row count, if its numbers fit a statement. -/
def of (index rows : Nat) : Except PageFault Page :=
  if pos : 0 < rows then
    if fits : rows < rowBound then
      if lt : index * rows < rowBound then .ok ⟨index, rows, pos, fits, lt⟩
      else .error (.offsetTooLarge index rows)
    else .error (.tooManyRows rows)
  else .error .noRows

/-- The number of rows that the page asks for. -/
def limit (p : Page) : Nat :=
  p.rows

/-- The number of rows in front of the page. -/
def offset (p : Page) : Nat :=
  p.index * p.rows

/-- The page's part of a result. -/
def window {α : Type} (p : Page) (result : List α) : List α :=
  (result.drop p.offset).take p.limit

/-- A page holds at most as many rows as it asks for. -/
theorem length_window_le {α : Type} (p : Page) (result : List α) :
    (p.window result).length ≤ p.rows := by
  simp only [window, limit, List.length_take]
  omega

end Page

end FilterSql
