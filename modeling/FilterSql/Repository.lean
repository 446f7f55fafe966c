import FilterSql.Repository.Async
import FilterSql.Repository.Blocking

/-!
# Repositories

A repository as its callers see it: the same four operations, whether they block or run under a
cancellation signal.
-/

namespace FilterSql

/-- A call of an operation, by the type of what it returns. -/
inductive Call (τ : Type) : Type → Type 1 where
  /-- The rows of an entity that meet a filter. -/
  | query {α : Type} (e : Entity) (f : Option Filter) (options : QueryOptions) (tx : Option τ)
    (read : Record → Except MappingError α) : Call τ (List α)
  /-- A page of the ordered rows of an entity that meet a filter. -/
  | page {α : Type} (e : Entity) (index rows : Nat) (order : List OrderTerm) (f : Option Filter)
    (hint : Option String) (tx : Option τ) (read : Record → Except MappingError α) :
    Call τ (List α)
  /-- The number of rows of an entity that meet a filter. -/
  | count (e : Entity) (f : Option Filter) (hint : Option String) (tx : Option τ) : Call τ Nat
  /-- A record that is inserted, or written to the row that it matches. -/
  | merge (e : Entity) (record : Record) (qualifiers : List Field) (tx : Option τ) : Call τ Value

variable {σ τ α : Type}

/-- The operation that a call starts on a blocking repository. -/
def BlockingRepository.call (r : BlockingRepository σ τ) : Call τ α → Action σ α
  | .query e f options tx read => r.query e f options tx read
  | .page e index rows order f hint tx read => r.page e index rows order f hint tx read
  | .count e f hint tx => r.count e f hint tx
  | .merge e record qualifiers tx => r.merge e record qualifiers tx

/-- The operation that a call starts on an asynchronous repository. -/
def AsyncRepository.call (r : AsyncRepository σ τ) : Call τ α → Action σ α
  | .query e f options tx read => r.query e f options tx read
  | .page e index rows order f hint tx read => r.page e index rows order f hint tx read
  | .count e f hint tx => r.count e f hint tx
  | .merge e record qualifiers tx => r.merge e record qualifiers tx

/-- How the operations of a repository are run. -/
inductive Access where
  | blocking
  /-- Under a cancellation signal, which may be set. -/
  | async (cancelled : Bool)
deriving DecidableEq, Repr

/-- A repository over a backend. -/
structure Repository (σ τ : Type) where
  /-- The database that the repository works on. -/
  backend : Backend σ τ
  /-- The policies of the repository. -/
  options : RepositoryOptions := {}
  /-- How its operations are run. -/
  access : Access := .blocking

namespace Repository

/-- The operation that a call starts. -/
def call (r : Repository σ τ) (c : Call τ α) : Action σ α :=
  match r.access with
  | .blocking =>
    BlockingRepository.call { backend := r.backend, options := r.options } c
  | .async cancelled =>
    AsyncRepository.call { backend := r.backend.async, options := r.options, cancelled } c

/-- The rows of an entity that meet a filter. -/
def query (r : Repository σ τ) (e : Entity) (f : Option Filter) (options : QueryOptions)
    (tx : Option τ) (read : Record → Except MappingError α) : Action σ (List α) :=
  r.call (.query e f options tx read)

/-- A page of the ordered rows of an entity that meet a filter. -/
def page (r : Repository σ τ) (e : Entity) (index rows : Nat) (order : List OrderTerm)
    (f : Option Filter) (hint : Option String) (tx : Option τ)
    (read : Record → Except MappingError α) : Action σ (List α) :=
  r.call (.page e index rows order f hint tx read)

/-- The number of rows of an entity that meet a filter. -/
def count (r : Repository σ τ) (e : Entity) (f : Option Filter) (hint : Option String)
    (tx : Option τ) : Action σ Nat :=
  r.call (.count e f hint tx)

/-- Insert a record or update the row that it matches, and return the value that identifies the
row. -/
def merge (r : Repository σ τ) (e : Entity) (record : Record) (qualifiers : List Field)
    (tx : Option τ) : Action σ Value :=
  r.call (.merge e record qualifiers tx)

end Repository

end FilterSql
