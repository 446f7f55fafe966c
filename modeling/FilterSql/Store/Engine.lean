import FilterSql.Store.Coercion
import FilterSql.Store.Hint
import FilterSql.Store.Pattern
import FilterSql.Store.Table

/-!
# Running statements

What the statements of the library mean on in-memory tables. A statement is first prepared: it is
checked against the tables, and its placeholders are found. Then its parameters are sent, and only then
are rows read or written. How statements are prepared is up to an engine; the one given here reads the
statements of the library.

A quoted name that matches no column stands for itself as a text, as the database does it.
-/

namespace FilterSql.Store

/-- A name where a value is wanted: a column of the table, or else a text. -/
inductive Operand where
  /-- The column at a position. -/
  | column (index : Nat)
  /-- A text. -/
  | text (s : String)

/-- What a name stands for. -/
def operand (t : TableSchema) (name : String) : Operand :=
  match t.position? name with
  | some i => .column i
  | none => .text name

/-- The value of an operand in a row. -/
def Operand.value (row : Row) : Operand → Cell
  | column i => row.at i
  | text s => .text s

/-- The value of an argument where it is compared with an operand. Only the generated key has a
type, and texts compared with it are taken as numbers. -/
def Operand.adapt (t : TableSchema) (o : Operand) (argument : Cell) : Cell :=
  match o with
  | column i => if t.autoPosition? = some i then argument.numeric else argument
  | text _ => argument

/-- Whether the order of two values is as a comparison says. -/
def comparisonHolds : Comparison → Ordering → Bool
  | .eq, o => o == .eq
  | .ne, o => o != .eq
  | .lt, o => o == .lt
  | .le, o => o != .gt
  | .gt, o => o == .gt
  | .ge, o => o != .lt

/-- A truth value, negated if wanted. -/
def flipIf (negated : Bool) (t : Truth) : Truth :=
  if negated then t.not else t

/-- The truth of a pattern test. -/
def likeTruth (subject pattern : Cell) (escape : Option Char) : Truth :=
  match subject.patternText?, pattern.patternText? with
  | some s, some p => some (Pattern.isMatch p.toList escape s.toList)
  | _, _ => none

/-- The truth of a relation between a value and the arguments at given positions. Arguments of
comparisons are adapted to the operand first, patterns are not. -/
def relationTruth (subject : Cell) (adapt : Cell → Cell) (argument : Nat → Cell) :
    Relation → Truth
  | .compare op i => Cell.relate (comparisonHolds op) subject (adapt (argument i))
  | .like negated i escape => flipIf negated (likeTruth subject (argument i) escape)
  | .isIn negated is =>
    flipIf negated
      (Conjunction.or.join (is.map fun i =>
        Cell.relate (comparisonHolds .eq) subject (adapt (argument i))))
  | .between negated low high =>
    flipIf negated
      ((Cell.relate (comparisonHolds .ge) subject (adapt (argument low))).and
        (Cell.relate (comparisonHolds .le) subject (adapt (argument high))))
  | .isNull negated => some (decide (subject.rank = 0) != negated)

/-- The truth of a test on a row. -/
def testTruth (t : TableSchema) (argument : Nat → Cell) (row : Row) (test : Test) : Truth :=
  let o := operand t test.column
  relationTruth (o.value row) (o.adapt t) argument test.relation

/-- Whether a condition selects a row. -/
def selects (t : TableSchema) (argument : Nat → Cell) (g : Group Test) (row : Row) : Bool :=
  match g.truth? (testTruth t argument row) with
  | some truth => truth.holds
  | none => true

/-- The order of two rows by several terms, the first one counting most. -/
def compareRows (t : TableSchema) : List (String × Direction) → Row → Row → Ordering
  | [], _, _ => .eq
  | (name, direction) :: rest, a, b =>
    let o := operand t name
    let order := (o.value a).compare (o.value b)
    let order := if direction = .descending then order.swap else order
    order.then (compareRows t rest a b)

/-- Rows in the order of the terms; equal rows stay in the order in which they are read. -/
def sortRows (t : TableSchema) (order : List (String × Direction)) (rows : List Row) : List Row :=
  rows.mergeSort fun a b => compareRows t order a b != .gt

/-- The wanted part of a result. -/
def windowOf {α : Type} (w : Window) (result : List α) : List α :=
  match w with
  | .all => result
  | .first n => result.take n
  | .page p => p.window result

/-- The name of a result column and its value in a row. -/
def resultMember (t : TableSchema) (name : String) (row : Row) : String × Value :=
  let o := operand t name
  let shown := match o with
    | .column i => t.columns.getD i name
    | .text s => Dialect.sqlite.quote s
  (shown, (o.value row).toValue)

/-- A row as a result record. -/
def resultRow (t : TableSchema) (columns : List String) (row : Row) : Record :=
  let columns := if columns.isEmpty then t.columns else columns
  Record.ofList (columns.map fun c => resultMember t c row)

/-- The rows of a `SELECT`. -/
def select (t : Table) (s : Select) (argument : Nat → Cell) : List Record :=
  let found := t.rows.filter (selects t.schema argument s.filter)
  (windowOf s.window (sortRows t.schema s.order found)).map (resultRow t.schema s.columns)

/-- The single row of a `SELECT COUNT(*)`. -/
def count (t : Table) (c : Count) (argument : Nat → Cell) : List Record :=
  let found := t.rows.filter (selects t.schema argument c.filter)
  [Record.ofList [(countAlias, .int (Int64.ofNat found.length))]]

/-- The row that an upsert inserts: each column has the value bound to it first, or null. -/
def newRow (t : TableSchema) (u : Upsert) (argument : Nat → Cell) : Row :=
  t.columns.map fun c =>
    match u.bound.findIdx? (sameName c) with
    | some i => argument i
    | none => .null

/-- A row with some columns taken from another one. -/
def overwrite (t : TableSchema) (columns : List String) (row values : Row) : Row :=
  columns.foldl (fun r c =>
    match t.position? c with
    | some i => r.set i (values.at i)
    | none => r) row

/-- The rows that an upsert reports about the row that it wrote. -/
def reported (t : TableSchema) (u : Upsert) (row : Row) : List Record :=
  match u.result with
  | some c => [Record.ofList [resultMember t c row]]
  | none => []

/-- Run an upsert on a table whose unique set `conflict` decides whether the row exists. Without a
conflict set every row counts as new. -/
def upsert (t : Table) (u : Upsert) (conflict : Option (List Nat)) (argument : Nat → Cell) :
    Except EngineFault (Table × List Record) := do
  let row ← t.settleKey (newRow t.schema u argument)
  -- A clash in another unique set is found when the row is put in its place.
  match conflict.bind fun set => t.rows.findIdx? fun r => Row.agreeOn set r row with
  | none => return (← t.insert row, reported t.schema u row)
  | some i =>
    if u.updated.isEmpty then return (t, [])
    else
      let written := overwrite t.schema u.updated (t.rows.getD i []) row
      return (← t.replace i written, reported t.schema u written)

/-- Whether a command is written in the database's own language. -/
def understands (d : Dialect) (c : Command) : Bool :=
  match c with
  | .select c =>
    match c.window with
    | .all => true
    | _ => d ≠ .tsql
  | .count _ => true
  | .upsert u =>
    match d.upsertStyle with
    | .onConflict => true
    | .onDuplicateKey => u.inserted.isEmpty
    | .merge => false

/-- What is left of a command in front of a hint behind its table. A limit in front of the columns
stays. -/
def front (d : Dialect) (c : Command) : Command :=
  match c with
  | .select c =>
    let window := match c.window with
      | .first n => if d.hasTop then .first n else .all
      | _ => .all
    .select { c with filter := {}, order := [], window }
  | .count c => .count { c with filter := {} }
  | .upsert u => .upsert u

/-- The command that the database reads, if it reads any: nothing stands in front of a hint that stands
in front of the statement. -/
def visible? (s : Statement) (extent : Extent) : Option Command :=
  match extent, s.dialect.hintPosition with
  | .whole, _ => some s.command
  | .front, .afterTable => some (front s.dialect s.command)
  | .front, .statementPrefix => none

/-- The table that a statement is about. -/
def target (db : Database) (table : TableName) : Except EngineFault Table :=
  match db.table? table.schema table.name with
  | some t => .ok t
  | none => .error (.noSuchTable table.display)

/-- The unique set that an upsert names, if it names one. All written columns have to exist. -/
def checkUpsert (t : TableSchema) (u : Upsert) : Except EngineFault (Option (List Nat)) :=
  match u.inserted.find? fun c => (t.position? c).isNone with
  | some missing => .error (.noSuchColumn missing)
  | none =>
    if u.inserted.isEmpty then .ok none
    else
      match t.conflictSet? u.qualifiers with
      | some set => .ok (some set)
      | none => .error .noMatchingConstraint

/-- A statement that is ready to run. -/
structure Prepared where
  /-- The placeholders that were found in it, in their order. -/
  placeholders : List String
  /-- What it does, as a function of its arguments. -/
  execute : (Nat → Cell) → Except EngineFault (Database × List Record)

/-- A way to prepare statements for a database. -/
abbrev Engine :=
  Database → Statement → Except EngineFault Prepared

/-- A command that has been checked against the tables, as a function of its arguments. -/
def check (db : Database) (d : Dialect) (c : Command) :
    Except EngineFault ((Nat → Cell) → Except EngineFault (Database × List Record)) := do
  if !understands d c then
    throw .notAStatement
  match c with
  | .select c =>
    let t ← target db c.table
    return fun argument => .ok (db, select t c argument)
  | .count c =>
    let t ← target db c.table
    return fun argument => .ok (db, count t c argument)
  | .upsert u =>
    let t ← target db u.table
    let conflict ← checkUpsert t.schema u
    return fun argument =>
      (upsert t u conflict argument).map fun (t, rows) => (db.update t, rows)

/-- Prepare a statement of the library. A statement of which nothing is read cannot be executed. -/
def prepare : Engine := fun db s =>
  match s.extent? with
  | none => .error (.badHint (s.hint.getD ""))
  | some extent =>
    let placeholders := s.placeholders extent
    match visible? s extent with
    | none => .ok { placeholders, execute := fun _ => .error .notAStatement }
    | some c => (check db s.dialect c).map fun execute => { placeholders, execute }

/-- Run a statement by an engine: prepare it, send its parameters, and execute it. A statement that fails
changes nothing. -/
def runBy (engine : Engine) (db : Database) (s : Statement) :
    Except ExecutionError (Database × List Record) := do
  let prepared ← (engine db s).mapError .engine
  let cells ← s.cells prepared.placeholders
  (prepared.execute fun i => cells.getD i .null).mapError .engine

/-- Run a statement of the library. -/
def run (db : Database) (s : Statement) : Except ExecutionError (Database × List Record) :=
  runBy prepare db s

/-- The key columns of a table in key order; a table that does not exist has none, but its schema
has to exist. -/
def keyColumns (db : Database) (table : TableName) : Except ExecutionError (List String) :=
  match table.schema with
  | some schema =>
    if Database.schemas.any (sameName schema) then
      .ok (((db.table? table.schema table.name).map (·.schema.keyColumns)).getD [])
    else .error (.engine (.unknownSchema schema))
  | none => .ok (((db.table? none table.name).map (·.schema.keyColumns)).getD [])

end FilterSql.Store
