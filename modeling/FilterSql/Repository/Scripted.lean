import FilterSql.Repository.Backend

/-!
# Scripted backends

A backend that plays back prepared replies and writes down what it is asked. It serves to watch a
repository at work without a database.
-/

namespace FilterSql.Scripted

/-- A reply to a statement. -/
abbrev Reply := Except ExecutionError (List Record)

/-- What is left to play back, and what has been asked. -/
structure Log where
  /-- The replies to the statements to come; when they run out, statements return no rows. -/
  replies : List Reply
  /-- The statements that were run, each with its transaction. -/
  sent : List (Statement × Option String) := []
  /-- The tables whose key columns were asked for. -/
  lookups : List TableName := []

/-- Write a statement down and play back the next reply. -/
def fetch (s : Statement) (tx : Option String) : StateM Log Reply := fun log =>
  let log := { log with sent := log.sent ++ [(s, tx)] }
  match log.replies with
  | [] => (.ok [], log)
  | reply :: rest => (reply, { log with replies := rest })

/-- The key columns of the tables that are described; without descriptions the question is not even
written down. -/
def keyColumns (keys : Option (Assoc String (List String))) (table : TableName) :
    StateM Log (Except ExecutionError (List String)) := fun log =>
  match keys with
  | none => (.ok [], log)
  | some keys =>
    (.ok ((keys.get? table.display).getD []), { log with lookups := log.lookups ++ [table] })

/-- A scripted backend of a dialect. -/
def backend (d : Dialect) (keys : Option (Assoc String (List String))) : Backend Log String :=
  { dialect := d, fetch, keyColumns := keyColumns keys }

end FilterSql.Scripted
