import FilterSql.Entity
import FilterSql.Record

/-!
# Mapped types

A type whose values are stored as rows of an entity.
-/

namespace FilterSql

/-- A type that is read from and written to rows. -/
class Mapped (α : Type) where
  /-- The entity that the values belong to. -/
  entity : Entity
  /-- Read a value from a row. -/
  read : Record → Except MappingError α
  /-- The value's properties by column name, in declaration order. -/
  write : α → Record

end FilterSql
