import FilterSql.Settings
import FilterSql.Toml.Range
import FilterSql.Toml.Reading

/-!
# Reading settings

Settings are written as a TOML document. Whatever the document does not mention keeps its usual
value, and what it mentions beyond the settings is ignored. A setting of the wrong form makes the
whole document unacceptable, and so does a number out of its range in what is ignored.
-/

namespace FilterSql

namespace Toml

/-- Whether a value is a table or an array that holds nothing. -/
def isEmpty : Toml → Bool
  | table _ [] | array [] => true
  | _ => false

/-- One of several choices, given by its name, or as a table with that name as its only member and
nothing in it. -/
def choice? {α : Type} (ofName? : String → Option α) : Toml → Option α
  | text s => ofName? s
  | table _ [(name, v)] => if v.isEmpty then ofName? name else none
  | _ => none

/-- A truth value. -/
def bool? : Toml → Option Bool
  | bool b => some b
  | _ => none

/-- A text. -/
def text? : Toml → Option String
  | text s => some s
  | _ => none

/-- The members of a section, whose members of other names are ignored. A section can also be given
as an array that lists the values of its members in order, and a time is a section that mentions
none of them. -/
def section? (names : List String) : Toml → Option Members
  | table _ m => Members.knowing? names m
  | time _ => some []
  | v => v.items?.map fun items => names.zip items

/-- A table of type mappings. -/
def listing? (v : Toml) : Option Listing := do
  let entries ← (← v.members?).mapM fun (name, t) => do
    return (name, ← t.choice? DbType.ofName?)
  return Listing.ofList entries

end Toml

namespace Settings

/-- The member of a table, read by `read?`; without the member the usual value. -/
def member {α : Type} (m : Toml.Members) (name : String) (read? : Toml → Option α) (usual : α) :
    Option α :=
  match m.get? name with
  | some v => read? v
  | none => some usual

/-- A setting in a section of its own. -/
def inSection {α : Type} (name : String) (read? : Toml → Option α) (usual : α) (v : Toml) :
    Option α := do
  member (← v.section? [name]) name read? usual

/-- The names of the members that settings are read from. -/
def names : List String :=
  ["dialect", "mapping", "paging", "types", "properties", "connection"]

/-- The settings that the members of a document stand for. -/
def ofMembers? (m : Toml.Members) : Option Settings := do
  let m ← m.knowing? names
  return {
    dialect := ← member m "dialect" (·.choice? Dialect.ofName?) .sqlite
    fieldCase :=
      ← member m "mapping" (inSection "field_case" (·.choice? FieldCase.ofName?) .exact) .exact
    requireOrder := ← member m "paging" (inSection "require_order_by" Toml.bool? true) true
    types := ← member m "types" Toml.listing? .empty
    properties := ← member m "properties" Toml.listing? .empty
    path :=
      ← member m "connection" (inSection "path" (fun v => v.text?.map some) none) none }

/-- The settings that a document spells. -/
def read (s : String) : Except SettingsError Settings :=
  match (Toml.read s).bind ofMembers? with
  | some settings => .ok settings
  | none => .error .malformed

end Settings

end FilterSql
