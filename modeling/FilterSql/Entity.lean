import FilterSql.DbType
import FilterSql.Field
import FilterSql.FieldCase
import FilterSql.Naming
import FilterSql.Text.Split

/-!
# Entities

An entity is the declared shape of a mapped record: its table, its properties, the column that each
property maps to, and which properties form the key. An entity without properties addresses a table
by name alone.
-/

namespace FilterSql

/-- A table name with an optional schema. -/
structure TableName where
  /-- The schema in front of the name. -/
  schema : Option String := none
  /-- The name of the table itself. -/
  name : String
deriving DecidableEq, Repr

namespace TableName

/-- Read `schema.table` or `table`; the schema ends at the first dot. -/
def parse (s : String) : TableName :=
  match Text.splitFirst '.' s.toList with
  | some (schema, name) => { schema := some (String.ofList schema), name := String.ofList name }
  | none => { name := s }

/-- The table name in messages. -/
def display (t : TableName) : String :=
  match t.schema with
  | some schema => schema ++ "." ++ t.name
  | none => t.name

end TableName

/-- A mapped property. -/
structure Property where
  /-- The name that callers use. -/
  name : String
  /-- The declared column, if it differs from what the naming convention gives. -/
  column : Option String := none
  /-- The kind of value that the property holds. -/
  kind : ValueKind
  /-- The declared database type, if any. -/
  dbType : Option DbType := none
  /-- Whether the property is part of the primary key. -/
  primary : Bool := false
  /-- Whether the database generates the property's value. -/
  identity : Bool := false
deriving Repr

namespace Property

/-- The database column that the property maps to. -/
def columnName (p : Property) : String :=
  p.column.getD p.name

/-- The property's column as a field of the property's kind. -/
def field (p : Property) : Field :=
  { name := p.columnName, kind := some p.kind }

/-- The property with its column settled by a naming convention. -/
def named (p : Property) (naming : Naming) : Property :=
  { p with column := some (p.column.getD (naming.apply p.name)) }

end Property

/-- The declared shape of a mapped record. -/
structure Entity where
  /-- The name of the entity, the first half of every property identity. -/
  name : String
  /-- The table that holds the records. -/
  table : TableName
  /-- The properties in declaration order. -/
  properties : List Property
deriving Repr

namespace Entity

/-- An entity without properties for a table known by name only. -/
def ofTable (table : TableName) : Entity :=
  { name := table.name, table, properties := [] }

/-- Declare an entity. A table or column that is not given gets its name by the convention. -/
def declare (name : String) (properties : List Property) (naming : Naming := .asIs)
    (table : Option TableName := none) : Entity :=
  { name
    table := table.getD { name := naming.apply name }
    properties := properties.map fun p => p.named naming }

/-- Whether nothing is declared about the columns. -/
def isDynamic (e : Entity) : Bool :=
  e.properties.isEmpty

/-- The property that a name refers to: the first one of that name, else the first one whose column
has that name. -/
def property? (e : Entity) (fieldCase : FieldCase) (name : String) : Option Property :=
  (e.properties.find? fun p => fieldCase.agree p.name name).or
    (e.properties.find? fun p => fieldCase.agree p.columnName name)

/-- The column that a name stands for: that of its property, else the name itself. -/
def columnOf (e : Entity) (fieldCase : FieldCase) (name : String) : String :=
  ((e.property? fieldCase name).map (·.columnName)).getD name

/-- The property whose value the database generates. -/
def identity? (e : Entity) : Option Property :=
  e.properties.find? (·.identity)

/-- The properties that identify a record: the primary key, else the identity. -/
def keys (e : Entity) : List Property :=
  let primary := e.properties.filter (·.primary)
  if primary.isEmpty then e.identity?.toList else primary

/-- The mapped columns in declaration order. -/
def fields (e : Entity) : List Field :=
  e.properties.map (·.field)

/-- A property that is found is one of the entity's. -/
theorem property?_mem {e : Entity} {fieldCase : FieldCase} {name : String} {p : Property}
    (h : e.property? fieldCase name = some p) : p ∈ e.properties := by
  unfold property? at h
  rcases Option.or_eq_some_iff.1 h with h | ⟨_, h⟩ <;> exact List.mem_of_find?_eq_some h

end Entity

end FilterSql
