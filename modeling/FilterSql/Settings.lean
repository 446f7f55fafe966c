import FilterSql.Dialect
import FilterSql.Repository
import FilterSql.Settings.Error
import FilterSql.Settings.Expansion
import FilterSql.Settings.Listing

/-!
# Settings

What can be settled for a program in a file: the dialect, the policies of repositories, the type
mappings, and where the database is. The type mappings are listed under names, which have to be
understood before they can be used: in one listing they name kinds, in the other properties.
-/

namespace FilterSql

/-- The settings of a program. -/
structure Settings where
  /-- The dialect that statements are written in. -/
  dialect : Dialect := .sqlite
  /-- How names are matched with properties. -/
  fieldCase : FieldCase := .exact
  /-- Whether pages have to be ordered in every dialect. -/
  requireOrder : Bool := true
  /-- The type mappings of kinds. -/
  types : Listing := .empty
  /-- The type mappings of properties. -/
  properties : Listing := .empty
  /-- The path of the database, with variables; without a path the database is kept in memory. -/
  path : Option String := none

namespace Settings

/-- Register the mapping that is listed under the name of a kind. -/
def mapKind (m : TypeMapper) : String × DbType → Except SettingsError TypeMapper
  | (name, t) =>
    match ValueKind.ofName? name with
    | some kind => .ok (m.mapKind kind t)
    | none => .error (.unknownKind name)

/-- Register the mapping that is listed under the name of a property. -/
def mapProperty (m : TypeMapper) : String × DbType → Except SettingsError TypeMapper
  | (name, t) =>
    match PropertyKey.parse name with
    | some key => .ok (m.mapProperty key t)
    | none => .error (.notAProperty name)

/-- The type mappings that the settings list. Of several names that cannot be understood the first
is reported, those of kinds before those of properties. -/
def typeMapper (s : Settings) : Except SettingsError TypeMapper := do
  let m ← s.types.entries.foldlM mapKind TypeMapper.empty
  s.properties.entries.foldlM mapProperty m

/-- The path of the database with its variables replaced. -/
def resolvedPath (s : Settings) (env : Environment) : Except SettingsError (Option String) :=
  match s.path with
  | none => .ok none
  | some path => (env.expand path).map some

/-- The policies of repositories. -/
def repositoryOptions (s : Settings) : RepositoryOptions :=
  { fieldCase := s.fieldCase, requireOrder := s.requireOrder }

end Settings

end FilterSql
