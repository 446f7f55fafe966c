import FilterSql.Statement.Binding
import FilterSql.Statement.Upsert

/-!
# Statements

A statement is a command in one dialect together with its parameters. Its text follows from the
command alone: giving a statement other values changes no character of it.
-/

namespace FilterSql

/-- What a statement does. -/
inductive Command where
  | select (s : Select)
  | count (c : Count)
  | upsert (u : Upsert)

/-- The tokens of a command in a dialect, with a table hint. -/
def Command.tokens (c : Command) (d : Dialect) (hint : Option String) : List Token :=
  match c with
  | select s => s.tokens d hint
  | count c => c.tokens d hint
  | upsert u => u.tokens d hint

/-- A command in a dialect with its bound parameters. -/
structure Statement where
  /-- The dialect that the statement is written in. -/
  dialect : Dialect
  /-- The table hint, passed on as it is. -/
  hint : Option String
  /-- What the statement does. -/
  command : Command
  /-- The parameters, in the order of their positions. -/
  parameters : List Parameter

namespace Statement

/-- The tokens of a statement. -/
def tokens (s : Statement) : List Token :=
  s.command.tokens s.dialect s.hint

/-- The text of a statement. -/
def sql (s : Statement) : String :=
  Token.renderAll s.dialect s.tokens

/-- The parameter of a given name. -/
def parameter? (s : Statement) (name : String) : Option Parameter :=
  s.parameters.find? fun p => p.name = name

/-- The same statement with other values, one for each parameter in order. Names and declared types
stay. -/
def withValues (s : Statement) (values : List Value) : Except QueryError Statement :=
  if values.length = s.parameters.length then
    .ok { s with
      parameters := List.zipWith (fun (p : Parameter) v => { p with value := v }) s.parameters values }
  else .error (.parameterCount s.parameters.length values.length)

end Statement

/-- The serialized form of a parameter; a missing type is left out. -/
def Parameter.toJson (p : Parameter) : Json :=
  .object ([("name", .text p.name), ("value", p.value.toJson)] ++
    (p.dbType.map fun t => ("db_type", Json.text t.name)).toList)

/-- The serialized form of a statement. -/
def Statement.toJson (s : Statement) : Json :=
  .object [("dialect", .text s.dialect.name), ("sql", .text s.sql),
    ("parameters", .array (s.parameters.map Parameter.toJson))]

end FilterSql
