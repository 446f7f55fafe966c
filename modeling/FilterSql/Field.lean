import FilterSql.Json

/-!
# Fields

A reference to a column or property by name, with an optional kind. Two fields are the same when
their names are; the kind takes no part in the comparison.
-/

namespace FilterSql

/-- A reference to a column or property. -/
structure Field where
  /-- The name as the caller gave it. -/
  name : String
  /-- The kind of value that the caller declares the column to hold. -/
  kind : Option ValueKind := none
deriving Repr

namespace Field

instance : BEq Field where
  beq a b := a.name == b.name

/-- Fields are compared by name alone. -/
@[simp]
theorem beq_iff_name (a b : Field) : (a == b) = true ↔ a.name = b.name := by
  simp [BEq.beq]

/-- The serialized form of a field; a missing kind is left out. -/
def toJson (f : Field) : Json :=
  .object (("name", .text f.name) ::
    (f.kind.map fun kind => ("kind", Json.text kind.name)).toList)

end Field

end FilterSql
