import FilterSql.Statement
import FilterSql.Statement.Merge

/-!
# Building statements

A request says what is wanted of an entity; a builder turns it into a statement of its dialect.
Building fills the cache of the type chain and depends on nothing but its inputs otherwise.
-/

namespace FilterSql

/-- What a statement is to do. -/
inductive Operation where
  | query
  | page (p : Page)
  | count
  | merge (spec : MergeSpec)

/-- Everything that goes into one statement. -/
structure Request where
  /-- The entity that the statement is about. -/
  entity : Entity
  /-- What the statement is to do. -/
  operation : Operation
  /-- The columns of the result; without any, all mapped columns, or `*` if none is mapped. -/
  columns : List Field := []
  /-- The condition that rows have to meet. -/
  filter : Group Condition := {}
  /-- The ordering of the result. -/
  order : List OrderTerm := []
  /-- At most how many rows a plain query returns. -/
  top : Option Nat := none
  /-- A table hint, passed on as it is. -/
  hint : Option String := none

/-- A dialect and the policies under which statements are built. -/
structure Builder where
  /-- The dialect of the statements. -/
  dialect : Dialect
  /-- How names are matched with properties. -/
  fieldCase : FieldCase := .exact
  /-- Whether pages have to be ordered in every dialect. -/
  requireOrder : Bool := true

namespace Builder

/-- What the names of a request are resolved against. -/
def scope (b : Builder) (e : Entity) : Scope :=
  { entity := e, fieldCase := b.fieldCase }

/-- Refuse a page without an ordering where one is required. -/
def checkOrder (b : Builder) (r : Request) : Except QueryError Unit :=
  match r.operation with
  | .page _ =>
    if r.order.isEmpty && (b.dialect.offsetNeedsOrder || b.requireOrder) then
      .error (.missingOrderForPaging b.dialect)
    else .ok ()
  | _ => .ok ()

/-- The rows that a request asks for. A page makes a plain row limit void. -/
def window (r : Request) : Except QueryError Window :=
  match r.operation, r.top with
  | .page p, _ => .ok (.page p)
  | _, some n =>
    if n < rowBound then .ok (.first n) else .error (.invalidPageArgument (.topTooLarge n))
  | _, none => .ok .all

/-- The columns of the result. -/
def projection (r : Request) (s : Scope) : StateM TypeChain (List String) :=
  if r.columns.isEmpty then pure (r.entity.properties.map (·.columnName))
  else r.columns.mapM fun f => do return (← s.fieldColumn f).name

/-- The columns of the ordering. -/
def ordering (r : Request) (s : Scope) : StateM TypeChain (List (String × Direction)) :=
  r.order.mapM fun term => do return ((← s.fieldColumn term.field).name, term.direction)

/-- The `SELECT` that a request asks for. -/
def select (b : Builder) (r : Request) : Building (Select × List Parameter) := do
  let s := b.scope r.entity
  ExceptT.mk (pure (b.checkOrder r))
  let window ← ExceptT.mk (pure (window r))
  let columns ← (projection r s : StateM TypeChain _)
  let (filter, ps) ← r.filter.bind s
  let order ← (ordering r s : StateM TypeChain _)
  return ({ table := r.entity.table, columns, filter, order, window }, ps)

/-- The `SELECT COUNT(*)` that a request asks for. -/
def count (b : Builder) (r : Request) : Building (Count × List Parameter) := do
  let (filter, ps) ← r.filter.bind (b.scope r.entity)
  return ({ table := r.entity.table, filter }, ps)

/-- The statement that a request asks for. -/
def build (b : Builder) (r : Request) : Building Statement := do
  let d := b.dialect
  match r.operation with
  | .query | .page _ => do
    let (s, parameters) ← b.select r
    return { dialect := d, hint := r.hint, command := .select s, parameters }
  | .count => do
    let (c, parameters) ← b.count r
    return { dialect := d, hint := r.hint, command := .count c, parameters }
  | .merge spec => do
    let (u, parameters) ← spec.plan d (b.scope r.entity)
    let hint := if d.upsertTakesHints then r.hint else none
    return { dialect := d, hint, command := .upsert u, parameters }

/-- The outcome of building a request, and the chain with the cache filled. -/
def run (b : Builder) (r : Request) (types : TypeChain) :
    Except QueryError Statement × TypeChain :=
  (b.build r).run.run types

end Builder

end FilterSql
