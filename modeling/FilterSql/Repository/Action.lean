import FilterSql.Repository.Stage
import FilterSql.Statement.Builder

/-!
# Actions

What a repository does is made of actions. They run in a session, which holds the state of the
database, what the repository remembers, and the stages that the current operation has reached; each
of them may be refused, and then the rest of the operation is left out.
-/

namespace FilterSql

/-- What a repository remembers between operations. -/
structure Caches where
  /-- The type mappings with the answers given so far. -/
  types : TypeChain := {}
  /-- The key columns that the backend has reported. -/
  keys : Assoc TableName (List String) := []

/-- The state in which an operation runs. -/
structure Session (σ : Type) where
  /-- The state of the backend. -/
  backend : σ
  /-- What the repository remembers. -/
  caches : Caches
  /-- The stages that the current operation has reached, the latest one last. -/
  stages : List Stage := []

/-- A part of an operation: it may be refused, and runs in a session. -/
abbrev Action (σ : Type) := ExceptT QueryError (StateM (Session σ))

namespace Action

variable {σ α : Type}

/-- Reach a stage. -/
def advance (stage : Stage) : Action σ Unit :=
  ExceptT.mk fun s => (.ok (), { s with stages := s.stages ++ [stage] })

/-- Go on with a result that may be an error. -/
def ofExcept (r : Except QueryError α) : Action σ α :=
  ExceptT.mk (pure r)

/-- Ask the backend for something. -/
def ask (call : StateM σ (Except ExecutionError α)) : Action σ α :=
  ExceptT.mk fun s =>
    let (r, backend) := call s.backend
    (r.mapError .execution, { s with backend })

/-- Resolve types through the chain that the repository holds. -/
def resolve (m : Building α) : Action σ α :=
  ExceptT.mk fun s =>
    let (r, types) := m.run.run s.caches.types
    (r, { s with caches := { s.caches with types } })

/-- The key columns of a table that are remembered. -/
def recallKeys (table : TableName) : Action σ (Option (List String)) :=
  ExceptT.mk fun s => (.ok (s.caches.keys.get? table), s)

/-- Remember the key columns of a table. -/
def rememberKeys (table : TableName) (keys : List String) : Action σ Unit :=
  ExceptT.mk fun s =>
    (.ok (), { s with caches := { s.caches with keys := s.caches.keys.insert table keys } })

/-- Run an action as a whole operation, from the first stage to the last. -/
def perform (action : Action σ α) : StateM (Session σ) (Except QueryError α) :=
  fun s =>
    let (r, s) := action.run.run { s with stages := [.requested] }
    (r, { s with stages := s.stages ++ [.last r] })

end Action

end FilterSql
