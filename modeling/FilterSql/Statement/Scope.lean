import FilterSql.Error
import FilterSql.TypeMapping

/-!
# Resolving names

A name that a caller gives is resolved against the entity: a property stands for its column and has
the property's database type; any other name stands for itself and is typed by kind alone.
-/

namespace FilterSql

/-- A column with the type that values compared with it or stored in it are declared as. -/
structure Column where
  /-- The name of the column. -/
  name : String
  /-- The declared type, or none when it is left to the value. -/
  dbType : Option DbType
deriving DecidableEq, Repr

/-- What names are resolved against. -/
structure Scope where
  /-- The entity that declares the properties. -/
  entity : Entity
  /-- How names are matched with its properties. -/
  fieldCase : FieldCase

/-- A computation that resolves types through a chain and may be refused. A refusal keeps the answers
that the chain has given before it. -/
abbrev Building := ExceptT QueryError (StateM TypeChain)

namespace Scope

/-- The column of a name. The kind counts only for a name that matches no property. -/
def column (s : Scope) (name : String) (kind : Option ValueKind) : StateM TypeChain Column :=
  fun types =>
    match s.entity.property? s.fieldCase name with
    | some p =>
      let (dbType, types) := types.resolve s.entity.name p
      ({ name := p.columnName, dbType }, types)
    | none => ({ name, dbType := kind.bind types.resolveKind }, types)

/-- The column of a field, typed by the field's own kind if it matches no property. -/
def fieldColumn (s : Scope) (f : Field) : StateM TypeChain Column :=
  s.column f.name f.kind

end Scope

end FilterSql
