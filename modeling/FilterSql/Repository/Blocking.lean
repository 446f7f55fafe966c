import FilterSql.Repository.Backend
import FilterSql.Repository.Planner

/-!
# Blocking repositories

The operations over a blocking backend: each plans its statement, runs it, and reads the rows.
-/

namespace FilterSql

/-- A repository over a blocking backend. -/
structure BlockingRepository (σ τ : Type) where
  /-- The database that the repository works on. -/
  backend : Backend σ τ
  /-- The policies of the repository. -/
  options : RepositoryOptions := {}

namespace BlockingRepository

variable {σ τ α : Type}

/-- The planner of the repository's operations. -/
def planner (r : BlockingRepository σ τ) : Planner :=
  r.options.planner r.backend.dialect

/-- Run a statement and return its rows. -/
def execute (r : BlockingRepository σ τ) (s : Statement) (tx : Option τ) :
    Action σ (List Record) := do
  Action.advance .executing
  let rows ← Action.ask (r.backend.fetch s tx)
  Action.advance .mapping
  return rows

/-- The key columns of a table. The backend is asked once; its answer is remembered. -/
def keyColumns (r : BlockingRepository σ τ) (table : TableName) : Action σ (List String) := do
  match ← Action.recallKeys table with
  | some keys => return keys
  | none =>
    let keys ← Action.ask (r.backend.keyColumns table)
    Action.rememberKeys table keys
    return keys

/-- The rows of an entity that meet a filter. -/
def query (r : BlockingRepository σ τ) (e : Entity) (f : Option Filter) (options : QueryOptions)
    (tx : Option τ) (read : Record → Except MappingError α) : Action σ (List α) := do
  let s ← r.planner.query e f options
  let rows ← r.execute s tx
  Action.ofExcept (Planner.mapRows read rows)

/-- A page of the ordered rows of an entity that meet a filter. -/
def page (r : BlockingRepository σ τ) (e : Entity) (index rows : Nat) (order : List OrderTerm)
    (f : Option Filter) (hint : Option String) (tx : Option τ)
    (read : Record → Except MappingError α) : Action σ (List α) := do
  let s ← r.planner.page e index rows order f hint
  let rows ← r.execute s tx
  Action.ofExcept (Planner.mapRows read rows)

/-- The number of rows of an entity that meet a filter. -/
def count (r : BlockingRepository σ τ) (e : Entity) (f : Option Filter) (hint : Option String)
    (tx : Option τ) : Action σ Nat := do
  let s ← r.planner.count e f hint
  let rows ← r.execute s tx
  Action.ofExcept (Planner.countOf rows)

/-- Insert a record or update the row that it matches, and return the value that identifies the
row. -/
def merge (r : BlockingRepository σ τ) (e : Entity) (record : Record) (qualifiers : List Field)
    (tx : Option τ) : Action σ Value := do
  let reported ←
    (if r.planner.needsKeyColumns e qualifiers then r.keyColumns e.table else pure [])
  let spec : MergeSpec := { record, qualifiers, keyColumns := reported }
  let s ← r.planner.merge e spec
  let rows ← r.execute s tx
  r.planner.mergeResult e spec rows

end BlockingRepository

end FilterSql
