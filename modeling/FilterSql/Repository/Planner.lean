import FilterSql.Filter.Normalize
import FilterSql.Repository.Action

/-!
# Planning operations

What blocking and asynchronous repositories share: everything up to the statement, and everything
after the rows. Nothing here asks the backend for anything, so whatever can be refused by looking at
the request alone is refused before that.
-/

namespace FilterSql

/-- The policies of a repository. -/
structure RepositoryOptions where
  /-- How names are matched with properties. -/
  fieldCase : FieldCase := .exact
  /-- Whether pages have to be ordered in every dialect. -/
  requireOrder : Bool := true
deriving Repr

/-- The optional parts of a plain query. -/
structure QueryOptions where
  /-- The columns of the result. -/
  columns : List Field := []
  /-- The ordering of the result. -/
  order : List OrderTerm := []
  /-- At most how many rows are returned. -/
  top : Option Nat := none
  /-- A table hint, passed on as it is. -/
  hint : Option String := none

/-- Plans the operations of a repository. -/
structure Planner where
  /-- The builder of the repository's statements. -/
  builder : Builder

/-- The planner for a dialect under the policies. -/
def RepositoryOptions.planner (o : RepositoryOptions) (d : Dialect) : Planner :=
  { builder := { dialect := d, fieldCase := o.fieldCase, requireOrder := o.requireOrder } }

namespace Planner

variable {σ : Type}

/-- Normalize a filter; without one, no row is excluded. -/
def normalize (p : Planner) (e : Entity) (f : Option Filter) : Action σ (Group Condition) := do
  Action.advance .normalizing
  match f with
  | some f => Action.ofExcept (f.normalize e p.builder.fieldCase)
  | none => return {}

/-- Build the statement of a request. -/
def build (p : Planner) (request : Request) : Action σ Statement := do
  Action.advance .building
  Action.resolve (p.builder.build request)

/-- The statement of a plain query. -/
def query (p : Planner) (e : Entity) (f : Option Filter) (options : QueryOptions) :
    Action σ Statement := do
  let filter ← p.normalize e f
  p.build {
    entity := e, operation := .query, filter, columns := options.columns
    order := options.order, top := options.top, hint := options.hint }

/-- The statement of a page. -/
def page (p : Planner) (e : Entity) (index rows : Nat) (order : List OrderTerm)
    (f : Option Filter) (hint : Option String) : Action σ Statement := do
  let page ← Action.ofExcept ((Page.of index rows).mapError .invalidPageArgument)
  let filter ← p.normalize e f
  p.build { entity := e, operation := .page page, filter, order, hint }

/-- The statement of a count. -/
def count (p : Planner) (e : Entity) (f : Option Filter) (hint : Option String) :
    Action σ Statement := do
  let filter ← p.normalize e f
  p.build { entity := e, operation := .count, filter, hint }

/-- The statement of a merge. There is nothing to normalize: the record is the whole input. -/
def merge (p : Planner) (e : Entity) (spec : MergeSpec) : Action σ Statement :=
  p.build { entity := e, operation := .merge spec }

/-- Whether a merge depends on the key columns that the database reports: for want of declared keys,
and either of qualifiers or of a way to match on other columns than the key. -/
def needsKeyColumns (p : Planner) (e : Entity) (qualifiers : List Field) : Bool :=
  e.keys.isEmpty && (qualifiers.isEmpty || p.builder.dialect.upsertStyle = .onDuplicateKey)

/-- What the record of a merge holds for the column that identifies the row, else null. -/
def supplied (p : Planner) (e : Entity) (spec : MergeSpec) (result : Option String) : Value :=
  let member := result.bind fun column =>
    spec.record.entries.find? fun (name, _) => e.columnOf p.builder.fieldCase name = column
  (member.map (·.2)).getD .null

/-- The value that identifies a merged row: what the database returned, else what the record itself
holds for the result column, else null. -/
def mergeResult (p : Planner) (e : Entity) (spec : MergeSpec) (rows : List Record) :
    Action σ Value :=
  match (rows.head?.bind Record.first?).filter fun v => !v.isNull with
  | some v => return v
  | none => do
    let keys ← Action.resolve (spec.resolveKeys (p.builder.scope e))
    return p.supplied e spec keys.result

/-- Read every row of a result, or fail with the first row that cannot be read. -/
def mapRows {α : Type} (read : Record → Except MappingError α) (rows : List Record) :
    Except QueryError (List α) :=
  (rows.mapM read).mapError .mapping

/-- The number that the single row of a count holds; it is never negative. -/
def countOf (rows : List Record) : Except QueryError Nat :=
  match rows with
  | [] => .error (.mapping (.missingColumn countAlias))
  | row :: _ =>
    ((row.read countAlias .int64).mapError .mapping).map fun (n : Int64) => n.toInt.toNat

end Planner

end FilterSql
