import FilterSql.Error
import FilterSql.FieldCase
import FilterSql.Store.Cell

/-!
# Tables

A table has named columns without types, a primary key, unique columns, and possibly one integer
column whose value it generates. Rows are kept in the order in which they were inserted, or in the
order of the generated key if there is one.
-/

namespace FilterSql

/-- What is declared about a table. -/
structure TableSchema where
  /-- The name of the table. -/
  name : String
  /-- The names of the columns in order. -/
  columns : List String
  /-- The columns of the primary key in key order. -/
  key : List String := []
  /-- Columns that are unique each on its own. -/
  unique : List String := []
  /-- The integer key column whose value is generated when none is given. -/
  auto : Option String := none
deriving Repr

/-- One row, with a value for each column of the table. -/
abbrev Row := List Cell

/-- A table with its rows. -/
structure Table where
  /-- What is declared about the table. -/
  schema : TableSchema
  /-- The rows in the order in which they are read. -/
  rows : List Row := []

/-- Whether two names of tables or columns are the same for the database. -/
def sameName (a b : String) : Bool :=
  FieldCase.insensitive.agree a b

namespace TableSchema

/-- The position of a column. -/
def position? (t : TableSchema) (column : String) : Option Nat :=
  t.columns.findIdx? fun c => sameName c column

/-- The position of the generated key. -/
def autoPosition? (t : TableSchema) : Option Nat :=
  t.auto.bind t.position?

/-- The key columns in key order, under their declared names. -/
def keyColumns (t : TableSchema) : List String :=
  (t.auto.toList ++ t.key).filterMap fun c => t.columns.find? (sameName c)

/-- The sets of columns, by position, in which no two rows may agree. -/
def uniqueSets (t : TableSchema) : List (List Nat) :=
  let sets := t.auto.toList.map ([·]) ++ (if t.key.isEmpty then [] else [t.key]) ++
    t.unique.map ([·])
  sets.map fun set => set.filterMap t.position?

/-- The unique set that the columns name: as many columns as the set has, and all of its columns
among them. -/
def conflictSet? (t : TableSchema) (columns : List String) : Option (List Nat) :=
  let positions := columns.map t.position?
  t.uniqueSets.find? fun set =>
    set.length = columns.length && set.all fun i => positions.contains (some i)

end TableSchema

/-- The value of a row in the column at a position. -/
def Row.at (row : Row) (i : Nat) : Cell :=
  row.getD i .null

/-- Whether two rows agree in some columns; a null agrees with nothing. -/
def Row.agreeOn (columns : List Nat) (a b : Row) : Bool :=
  columns.all fun i => (a.at i).same (b.at i)

namespace Table

/-- Whether a row may stand beside others: it agrees with none of them in a unique set. -/
def admits (t : Table) (others : List Row) (row : Row) : Bool :=
  t.schema.uniqueSets.all fun set => !others.any fun r => Row.agreeOn set r row

/-- The key that is generated for the next row: one more than the greatest so far. Behind the last
key, the database tries others at random; here the least positive one is taken that is free. -/
def nextKey (t : Table) (i : Nat) : Except EngineFault Int64 :=
  let keys := t.rows.filterMap fun row =>
    match row.at i with
    | .integer n => some n
    | _ => none
  match keys.max? with
  | none => .ok 1
  | some n =>
    if n = Int64.maxValue then
      let candidates := (List.range' 1 (keys.length + 1)).map Int64.ofNat
      match candidates.find? fun k => !keys.contains k with
      | some k => .ok k
      | none => .error .full
    else .ok (n + 1)

/-- A new row with its generated key settled: an integer is kept, null is replaced by the next key,
and anything that is no integer is refused. -/
def settleKey (t : Table) (row : Row) : Except EngineFault Row :=
  match t.schema.autoPosition? with
  | none => .ok row
  | some i =>
    match row.at i with
    | .null => (t.nextKey i).map fun n => row.set i (.integer n)
    | c =>
      match c.integerKey? with
      | some n => .ok (row.set i (.integer n))
      | none => .error .datatypeMismatch

/-- Whether a row is read in front of another one because of its generated key. -/
def precedes (t : Table) (a b : Row) : Bool :=
  match t.schema.autoPosition? with
  | some i => (a.at i).compare (b.at i) == .lt
  | none => false

/-- Rows with one more: at the end, or in its place by the generated key. -/
def place (t : Table) (rows : List Row) (row : Row) : List Row :=
  let (before, after) := rows.span fun r => !t.precedes row r
  before ++ row :: after

/-- The table with one more row. -/
def insert (t : Table) (row : Row) : Except EngineFault Table :=
  if t.admits t.rows row then .ok { t with rows := t.place t.rows row }
  else .error .uniqueViolation

/-- The table with the row at position `i` replaced by another one. -/
def replace (t : Table) (i : Nat) (row : Row) : Except EngineFault Table :=
  let others := t.rows.eraseIdx i
  -- A row whose generated key changes moves to the place of its new key.
  if !t.admits others row then .error .uniqueViolation
  else
    let keeps : Bool := match t.schema.autoPosition? with
      | some k => (t.rows[i]?).any fun old => (old.at k).same (row.at k)
      | none => true
    .ok { t with rows := if keeps then t.rows.set i row else t.place others row }

end Table

/-- The tables of one database. -/
abbrev Database := List Table

namespace Database

/-- The schemas that exist in every database. -/
def schemas : List String := ["main", "temp"]

/-- The table of a name in a schema, which all tables share. -/
def table? (db : Database) (schema : Option String) (name : String) : Option Table :=
  if schema.all (sameName "main") then db.find? fun t => sameName t.schema.name name else none

/-- The database with a table replaced by another state of it. -/
def update (db : Database) (t : Table) : Database :=
  db.map fun u => if sameName u.schema.name t.schema.name then t else u

end Database

end FilterSql
