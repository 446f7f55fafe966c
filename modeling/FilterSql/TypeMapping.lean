import FilterSql.Assoc
import FilterSql.Entity

/-!
# Type mapping

Which database type a parameter is declared as. The type of a property comes from its own
declaration, else from a mapping of exactly that property, else from a mapping of its kind. A
`TypeChain` keeps the answers it has given, one for each thing that an answer depends on.
-/

namespace FilterSql

/-- The identity of a property: the name of its entity and its own. -/
structure PropertyKey where
  /-- The name of the entity. -/
  entity : String
  /-- The name of the property. -/
  property : String
deriving DecidableEq, Repr

namespace PropertyKey

/-- Read `Entity.Property`; the property starts behind the last dot, and neither part is empty. -/
def parse (s : String) : Option PropertyKey :=
  (Text.splitLast '.' s.toList).bind fun (entity, property) =>
    if entity.isEmpty || property.isEmpty then none
    else some ⟨String.ofList entity, String.ofList property⟩

/-- The text of a property identity. -/
def display (k : PropertyKey) : String :=
  k.entity ++ "." ++ k.property

end PropertyKey

/-- The registered mappings of properties and of kinds. -/
structure TypeMapper where
  /-- Mappings of single properties. -/
  properties : Assoc PropertyKey DbType := []
  /-- Mappings of all values of a kind. -/
  kinds : Assoc ValueKind DbType := []

namespace TypeMapper

/-- The mapper without mappings. -/
def empty : TypeMapper := {}

/-- Register a mapping of one property, in place of an earlier one. -/
def mapProperty (m : TypeMapper) (key : PropertyKey) (t : DbType) : TypeMapper :=
  { m with properties := m.properties.insert key t }

/-- Register a mapping of a kind, in place of an earlier one. -/
def mapKind (m : TypeMapper) (kind : ValueKind) (t : DbType) : TypeMapper :=
  { m with kinds := m.kinds.insert kind t }

/-- Drop the mapping of a property. -/
def unmapProperty (m : TypeMapper) (key : PropertyKey) : TypeMapper :=
  { m with properties := m.properties.erase key }

/-- Drop the mapping of a kind. -/
def unmapKind (m : TypeMapper) (kind : ValueKind) : TypeMapper :=
  { m with kinds := m.kinds.erase kind }

/-- The type that a property is mapped to on its own. -/
def property? (m : TypeMapper) (key : PropertyKey) : Option DbType :=
  m.properties.get? key

/-- The type that a kind is mapped to. -/
def kind? (m : TypeMapper) (kind : ValueKind) : Option DbType :=
  m.kinds.get? kind

/-- Whether nothing is mapped. -/
def isEmpty (m : TypeMapper) : Bool :=
  m.properties.isEmpty && m.kinds.isEmpty

/-- The database type of a property of the entity named `entity`: its declared type, else its own
mapping, else the mapping of its kind. -/
def resolve (m : TypeMapper) (entity : String) (p : Property) : Option DbType :=
  p.dbType.or ((m.property? ⟨entity, p.name⟩).or (m.kind? p.kind))

end TypeMapper

/-- Everything that the type of a property depends on besides the mappings. -/
structure TypeQuestion where
  /-- The identity of the property. -/
  key : PropertyKey
  /-- The declared type. -/
  annotation : Option DbType
  /-- The kind of the property's values. -/
  kind : ValueKind
deriving DecidableEq, Repr

/-- The question that a property of the entity named `entity` asks. -/
def TypeQuestion.of (entity : String) (p : Property) : TypeQuestion :=
  { key := ⟨entity, p.name⟩, annotation := p.dbType, kind := p.kind }

/-- A mapper together with the answers given so far. -/
structure TypeChain where
  /-- The registered mappings. -/
  mapper : TypeMapper := {}
  /-- The answers given so far. -/
  cache : Assoc TypeQuestion (Option DbType) := []

namespace TypeChain

/-- The type of a property, from the cache if its question has been asked before. -/
def resolve (c : TypeChain) (entity : String) (p : Property) : Option DbType × TypeChain :=
  let question := TypeQuestion.of entity p
  match c.cache.get? question with
  | some answer => (answer, c)
  | none =>
    let answer := c.mapper.resolve entity p
    (answer, { c with cache := c.cache.insert question answer })

/-- The type of a value of a kind that belongs to no property. It is not cached. -/
def resolveKind (c : TypeChain) (kind : ValueKind) : Option DbType :=
  c.mapper.kind? kind

/-- How many answers are kept. -/
def cached (c : TypeChain) : Nat :=
  c.cache.length

end TypeChain

end FilterSql
