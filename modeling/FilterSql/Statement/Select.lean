import FilterSql.Entity
import FilterSql.Order
import FilterSql.Page
import FilterSql.Statement.Where

/-!
# Reading statements

The parts of a `SELECT` and of a `SELECT COUNT(*)`, and how they are written. A part of the rows is
asked for by page or by a plain row limit, and each dialect has its own clause for that.
-/

namespace FilterSql

/-- Which rows of the ordered result are wanted. -/
inductive Window where
  | all
  /-- At most this many rows from the start. -/
  | first (count : Nat)
  | page (p : Page)

/-- The parts of a `SELECT`. -/
structure Select where
  /-- The table that is read. -/
  table : TableName
  /-- The columns of the result; without any, all columns of the table. -/
  columns : List String
  /-- The condition that rows have to meet. -/
  filter : Group Test
  /-- The columns that the result is ordered by. -/
  order : List (String × Direction)
  /-- Which rows are wanted. -/
  window : Window

/-- The parts of a `SELECT COUNT(*)`. -/
structure Count where
  /-- The table whose rows are counted. -/
  table : TableName
  /-- The condition that rows have to meet. -/
  filter : Group Test

/-- The name of the column that holds a count. -/
def countAlias : String := "CountValue"

/-- The token of a table name. -/
def TableName.token (t : TableName) : Token :=
  .qualified t.schema t.name

/-- The table with a hint behind it, if the dialect writes hints there. -/
def TableName.phrases (t : TableName) (d : Dialect) (hint : Option String) : List (List Token) :=
  match hint, d.hintPosition with
  | some h, .afterTable => [[t.token], [.raw h]]
  | _, _ => [[t.token]]

/-- A hint in front of the statement, if the dialect writes hints there. -/
def Dialect.leadingHint (d : Dialect) (hint : Option String) : List (List Token) :=
  match hint, d.hintPosition with
  | some h, .statementPrefix => [[.raw h]]
  | _, _ => []

/-- The keyword of a direction. -/
def Direction.keyword : Direction → Keyword
  | .ascending => .asc
  | .descending => .desc

/-- The phrases that limit a result to `limit` rows behind the first `offset` ones. -/
def Dialect.windowPhrases (d : Dialect) (limit offset : Option Int) : List (List Token) :=
  match d with
  | .tsql =>
    [[.word .offset], [.integer (offset.getD 0)], [.word .rows]] ++
      match limit with
      | some n =>
        [[.word .fetch], [.word .next], [.integer n], [.word .rows], [.word .only]]
      | none => []
  | _ =>
    (match limit with
      | some n => [[.word .limit], [.integer n]]
      | none => []) ++
    match offset with
    | some n => [[.word .offset], [.integer n]]
    | none => []

/-- The phrase of a plain row limit in front of the columns, where the dialect writes it there. -/
def Window.topPhrases (w : Window) (d : Dialect) : List (List Token) :=
  match w with
  | first n =>
    if d.hasTop then [[.word .top], Token.parenthesized [.integer n]] else []
  | _ => []

/-- The phrases of the wanted rows at the end of a statement. -/
def Window.endPhrases (w : Window) (d : Dialect) : List (List Token) :=
  match w with
  | all => []
  | first n => if d.hasTop then [] else d.windowPhrases (some n) none
  | page p => d.windowPhrases (some p.limit) (some p.offset)

/-- The phrases of a condition, if it restricts anything. -/
def Group.wherePhrases (g : Group Test) : List (List Token) :=
  match g.phrase? with
  | some p => [[.word .where], p]
  | none => []

namespace Select

/-- The columns of the result. -/
def projection (s : Select) : List Token :=
  match s.columns with
  | [] => [.mark .star]
  | columns => Token.commaSeparated (columns.map fun c => [.ident c])

/-- The ordering, if there is one. -/
def orderPhrases (s : Select) : List (List Token) :=
  match s.order with
  | [] => []
  | order =>
    let terms := order.map fun (column, direction) =>
      Token.spaced [[.ident column], [.word direction.keyword]]
    [[.word .orderBy], Token.commaSeparated terms]

/-- The tokens of a `SELECT`. -/
def tokens (s : Select) (d : Dialect) (hint : Option String) : List Token :=
  Token.spaced (d.leadingHint hint ++ [[.word .select]] ++ s.window.topPhrases d ++
    [s.projection, [.word .from]] ++ s.table.phrases d hint ++ s.filter.wherePhrases ++
    s.orderPhrases ++ s.window.endPhrases d)

end Select

/-- The tokens of a `SELECT COUNT(*)`. -/
def Count.tokens (c : Count) (d : Dialect) (hint : Option String) : List Token :=
  Token.spaced (d.leadingHint hint ++
    [[.word .select], .word .count :: Token.parenthesized [.mark .star], [.word .as],
      [.ident countAlias], [.word .from]] ++
    c.table.phrases d hint ++ c.filter.wherePhrases)

end FilterSql
