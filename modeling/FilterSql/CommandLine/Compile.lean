import FilterSql.CommandLine.Arguments
import FilterSql.Filter.Json
import FilterSql.Json.Reading
import FilterSql.Settings

/-!
# Compiling from the command line

The statement that a command line asks for under given settings, and the text that is printed for
it: the statement on one line, and its parameters as JSON.
-/

namespace FilterSql.CommandLine

/-- Why no statement is printed for an acceptable command line. -/
inductive Failure where
  /-- The settings could not be loaded. -/
  | configuration (error : SettingsError)
  /-- The type mappings of the settings cannot be used. -/
  | mappings (error : SettingsError)
  /-- A filter or a record is not JSON. -/
  | notJson
  /-- An ordering cannot be read. -/
  | invalidOrder (text : String)
  /-- The record is not an object. -/
  | recordForm
  /-- A member of the record holds an object. -/
  | memberForm (name : String)
  /-- The statement cannot be built. -/
  | query (error : QueryError)

/-- The message of a failure. -/
def Failure.message : Failure → String
  | .configuration e => "Configuration error: " ++ e.message
  | .mappings e => "Error: " ++ e.message
  | .notJson => "Error: invalid JSON"
  | .invalidOrder text => s!"Error: invalid --order '{text}'"
  | .recordForm => "Error: --record must be a JSON object"
  | .memberForm name => s!"Error: member '{name}' is not a scalar"
  | .query e => "Error: " ++ e.message

/-- The value of a JSON text. -/
def readJson (text : String) : Except Failure Json :=
  match Json.read text with
  | some v => .ok v
  | none => .error .notJson

/-- The condition tree of a filter that is given as JSON; without one, no row is excluded. -/
def filterOf (text : Option String) (e : Entity) (fieldCase : FieldCase) :
    Except Failure (Group Condition) :=
  match text with
  | none => .ok {}
  | some text => do
    let v ← readJson text
    ((Filter.ofJson v).bind (·.normalize e fieldCase)).mapError .query

/-- The terms of an ordering. -/
def orderOf (texts : List String) : Except Failure (List OrderTerm) :=
  texts.mapM fun text =>
    match OrderTerm.parse text with
    | some term => .ok term
    | none => .error (.invalidOrder text)

/-- The record that a JSON object stands for. -/
def recordOf : Json → Except Failure Record
  | .object members => do
    let pairs ← members.mapM fun (name, v) =>
      match Value.ofJson? v with
      | some v => Except.ok (name, v)
      | none => .error (.memberForm name)
    return Record.ofList pairs
  | _ => .error .recordForm

namespace Given

/-- The name of the table that a statement is about. -/
def tableName (g : Given) : TableName :=
  .parse ((g.value? .table).getD "")

/-- The columns of a result; commas separate columns within one value. -/
def columns (g : Given) : List Field :=
  (g.values .columns).flatMap fun v =>
    (Text.pieces ',' v.toList).map fun name => { name := String.ofList name }

/-- What a row request is about: a page if the number of its rows is given, else all rows. -/
def operation (g : Given) : Except Failure Operation :=
  match g.number? .rows with
  | none => .ok .query
  | some rows =>
    ((Page.of ((g.number? .page).getD 0) rows).map .page).mapError fun fault =>
      .query (.invalidPageArgument fault)

/-- The entity that a record is merged into: a table with an identity, or a bare table. -/
def mergedEntity (g : Given) : Entity :=
  match g.value? .identity with
  | some name =>
    Entity.declare g.tableName.name [{ name, kind := .int, identity := true }] .asIs
      (some g.tableName)
  | none => .ofTable g.tableName

/-- What a command asks for. -/
def request (g : Given) (v : Verb) (fieldCase : FieldCase) : Except Failure Request := do
  let hint := g.value? .hints
  match v with
  | .select =>
    let entity := Entity.ofTable g.tableName
    let filter ← filterOf (g.value? .filter) entity fieldCase
    let order ← orderOf (g.values .order)
    let operation ← g.operation
    return { entity, operation, columns := g.columns, filter, order, top := g.number? .top, hint }
  | .merge =>
    let record ← recordOf (← readJson ((g.value? .record).getD ""))
    let qualifiers := (g.values .qualifier).map fun name => ({ name } : Field)
    return { entity := g.mergedEntity, operation := .merge { record, qualifiers }, hint }
  | .count =>
    let entity := Entity.ofTable g.tableName
    let filter ← filterOf (g.value? .filter) entity fieldCase
    return { entity, operation := .count, filter, hint }

end Given

/-- The statement that a command asks for under some settings. A dialect among the options takes the
place of the one in the settings. -/
def compile (s : Settings) (v : Verb) (g : Given) : Except Failure Statement := do
  let mapper ← s.typeMapper.mapError .mappings
  let request ← g.request v s.fieldCase
  let builder : Builder := {
    dialect := ((g.value? .dialect).bind Dialect.ofName?).getD s.dialect
    fieldCase := s.fieldCase
    requireOrder := s.requireOrder }
  ((builder.run request { mapper }).1).mapError .query

/-- What is printed for a statement. -/
def printed (s : Statement) : String :=
  s.sql ++ "\n" ++ (Json.array (s.parameters.map Parameter.toJson)).pretty ++ "\n"

end FilterSql.CommandLine
