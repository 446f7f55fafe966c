import FilterSql.Statement

/-!
# Backends

All that a repository needs of a database: its dialect, a way to run a statement, and the key
columns of a table. What a backend does may depend on, and change, a state of type `σ`; `τ` is the
type of its transaction handles. A blocking backend runs a statement to its end; an asynchronous one
watches a cancellation signal meanwhile.
-/

namespace FilterSql

/-- A database as a blocking repository sees it. -/
structure Backend (σ τ : Type) where
  /-- The dialect that the database speaks. -/
  dialect : Dialect
  /-- Run a statement, within a transaction if one is given, and return its rows. -/
  fetch : Statement → Option τ → StateM σ (Except ExecutionError (List Record))
  /-- The key columns of a table in key order. -/
  keyColumns : TableName → StateM σ (Except ExecutionError (List String))

/-- A database as an asynchronous repository sees it. -/
structure AsyncBackend (σ τ : Type) where
  /-- The dialect that the database speaks. -/
  dialect : Dialect
  /-- Run a statement, within a transaction if one is given, and return its rows. The last argument
  tells whether the cancellation signal is set. -/
  fetch : Statement → Option τ → Bool → StateM σ (Except ExecutionError (List Record))
  /-- The key columns of a table in key order. -/
  keyColumns : TableName → StateM σ (Except ExecutionError (List String))

/-- A blocking database behind a cancellation signal: once the signal is set, no statement is run.
Key columns are still reported. -/
def Backend.async {σ τ : Type} (b : Backend σ τ) : AsyncBackend σ τ where
  dialect := b.dialect
  fetch s tx cancelled := if cancelled then return .error .cancelled else b.fetch s tx
  keyColumns := b.keyColumns

end FilterSql
