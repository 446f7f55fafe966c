import FilterSql.Repository.Backend
import FilterSql.Store.Engine

/-!
# Connections and transactions

A connection holds one database. While a transaction is open it also holds the database as it was
when the transaction began; rolling back restores it. All statements on the connection act on the
same database, whether they are given the transaction or not.

A transaction handle belongs to the connection that opened it. It is finished by committing or
rolling back; a handle that is given up unfinished rolls back.
-/

namespace FilterSql.Store

/-- A connection to one database. -/
structure Connection where
  /-- The tables as statements see them. -/
  current : Database
  /-- The tables at the beginning of the open transaction. -/
  saved : Option Database := none

namespace Connection

/-- Open a transaction; only one can be open at a time. -/
def begin (c : Connection) : Except EngineFault Connection :=
  match c.saved with
  | some _ => .error .transactionOpen
  | none => .ok { c with saved := some c.current }

/-- Keep what has been done since the transaction began. -/
def commit (c : Connection) : Except EngineFault Connection :=
  match c.saved with
  | some _ => .ok { c with saved := none }
  | none => .error .noTransaction

/-- Undo what has been done since the transaction began. -/
def rollback (c : Connection) : Except EngineFault Connection :=
  match c.saved with
  | some before => .ok { current := before, saved := none }
  | none => .error .noTransaction

end Connection

/-- The handle of a transaction. -/
structure Transaction where
  /-- The name of the connection that opened it. -/
  owner : String
  /-- Whether it has been committed or rolled back. -/
  finished : Bool := false
deriving DecidableEq, Repr

/-- Several connections by name, and the transaction handles that are held, by label. -/
structure Server where
  /-- The connections. -/
  connections : Assoc String Connection
  /-- The handles. -/
  handles : Assoc String Transaction := []

namespace Server

/-- The connection of a name; a name without one stands for a connection to an empty database. -/
def connection (s : Server) (name : String) : Connection :=
  (s.connections.get? name).getD { current := [] }

/-- Replace a connection. -/
def setConnection (s : Server) (name : String) (c : Connection) : Server :=
  { s with connections := s.connections.insert name c }

/-- Change a connection, unless that fails. -/
def change (s : Server) (name : String) (f : Connection → Except EngineFault Connection) :
    Except ExecutionError Unit × Server :=
  match f (s.connection name) with
  | .ok c => (.ok (), s.setConnection name c)
  | .error fault => (.error (.engine fault), s)

/-- Give a handle up: unless it is finished, its transaction is rolled back. -/
def release (s : Server) (tx : Transaction) : Server :=
  if tx.finished then s else (s.change tx.owner Connection.rollback).2

/-- Open a transaction on a connection and hold its handle under a label. A handle that was held
under the label before is given up. -/
def begin (s : Server) (name label : String) : Except ExecutionError Unit × Server :=
  match s.change name Connection.begin with
  | (.ok (), s) =>
    let s := match s.handles.get? label with
      | some old => s.release old
      | none => s
    (.ok (), { s with handles := s.handles.insert label { owner := name } })
  | failed => failed

/-- Take a handle out of the server. -/
def take (s : Server) (label : String) : Option Transaction × Server :=
  (s.handles.get? label, { s with handles := s.handles.erase label })

/-- Finish the transaction held under a label by `f`, and give the handle up. A label without a
handle has nothing to finish. -/
def finish (s : Server) (label : String) (f : Connection → Except EngineFault Connection) :
    Except ExecutionError Unit × Server :=
  match s.take label with
  | (none, s) => (.ok (), s)
  | (some tx, s) =>
    let (r, s) := s.change tx.owner f
    (r, s.release { tx with finished := true })

/-- Commit the transaction held under a label. -/
def commit (s : Server) (label : String) : Except ExecutionError Unit × Server :=
  s.finish label Connection.commit

/-- Roll back the transaction held under a label. -/
def rollback (s : Server) (label : String) : Except ExecutionError Unit × Server :=
  s.finish label Connection.rollback

/-- Give up the handle held under a label. -/
def drop (s : Server) (label : String) : Server :=
  match s.take label with
  | (none, s) => s
  | (some tx, s) => s.release tx

/-- Run a statement on a connection by an engine. A transaction has to belong to the same connection; a
statement that fails changes nothing. -/
def fetchBy (engine : Engine) (name : String) (st : Statement) (tx : Option Transaction) :
    StateM Server (Except ExecutionError (List Record)) := fun s =>
  if tx.any fun tx => tx.owner ≠ name then (.error .foreignTransaction, s)
  else
    let c := s.connection name
    match runBy engine c.current st with
    | .ok (db, rows) => (.ok rows, s.setConnection name { c with current := db })
    | .error e => (.error e, s)

/-- The backend that a connection of the server is when its statements are run by an engine. -/
def backendBy (engine : Engine) (name : String) : Backend Server Transaction :=
  { dialect := .sqlite
    fetch := fetchBy engine name
    keyColumns := fun table s => (keyColumns (s.connection name).current table, s) }

/-- Run a statement of the library on a connection. -/
def fetch (name : String) (st : Statement) (tx : Option Transaction) :
    StateM Server (Except ExecutionError (List Record)) :=
  fetchBy prepare name st tx

/-- The backend that a connection of the server is. -/
def backend (name : String) : Backend Server Transaction :=
  backendBy prepare name

end Server

end FilterSql.Store
