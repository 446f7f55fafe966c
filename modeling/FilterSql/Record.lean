import FilterSql.FieldCase
import FilterSql.Value.Extract

/-!
# Records

An ordered map from member names to values. A record is the dynamic form of a filter, the input of
an upsert and a row of a result. Names are pairwise distinct; pushing an existing name replaces its
value and keeps its position.
-/

namespace FilterSql

/-- An ordered map from names to values. -/
structure Record where
  /-- The members, in the order in which their names were first pushed. -/
  entries : List (String × Value)
deriving Inhabited

/-- Why a row could not be read. -/
inductive MappingError where
  /-- The row has no column of this name. -/
  | missingColumn (column : String)
  /-- The column's value, shown as `found`, cannot be read as the wanted shape. -/
  | typeMismatch (column : String) (expected : Shape) (found : String)

/-- The message of a mapping error. -/
def MappingError.message : MappingError → String
  | .missingColumn column => s!"column '{column}' is missing from the result row"
  | .typeMismatch column expected found =>
    let wanted := expected.typeName
    s!"column '{column}' holds {found}, which cannot be read as {wanted}"

namespace Record

/-- The record without members. -/
def empty : Record := ⟨[]⟩

/-- Members with one value replaced or one member added at the end. -/
def pushEntry (name : String) (value : Value) : List (String × Value) → List (String × Value)
  | [] => [(name, value)]
  | (n, v) :: rest => if n = name then (n, value) :: rest else (n, v) :: pushEntry name value rest

/-- Add a member, or replace the value of the member of exactly this name. -/
def push (r : Record) (name : String) (value : Value) : Record :=
  ⟨pushEntry name value r.entries⟩

/-- The record that results from pushing pairs in order. -/
def ofList (pairs : List (String × Value)) : Record :=
  pairs.foldl (fun r (name, value) => r.push name value) empty

/-- The value of the first member whose name agrees with `name`. -/
def find? (r : Record) (fieldCase : FieldCase) (name : String) : Option Value :=
  (r.entries.find? fun (n, _) => fieldCase.agree n name).map (·.2)

/-- The value of the member of exactly this name. -/
def get? (r : Record) (name : String) : Option Value :=
  r.find? .exact name

/-- Whether some member's name agrees with `name`. -/
def contains (r : Record) (fieldCase : FieldCase) (name : String) : Bool :=
  (r.find? fieldCase name).isSome

/-- How many members there are. -/
def size (r : Record) : Nat :=
  r.entries.length

/-- Whether there are no members. -/
def isEmpty (r : Record) : Bool :=
  r.entries.isEmpty

/-- The member names in order. -/
def names (r : Record) : List String :=
  r.entries.map (·.1)

/-- The member values in order. -/
def values (r : Record) : List Value :=
  r.entries.map (·.2)

/-- The value of the first member. -/
def first? (r : Record) : Option Value :=
  r.values.head?

/-- Read the member `name` as a given shape. -/
def read (r : Record) (name : String) (shape : Shape) : Except MappingError shape.Carrier :=
  match r.get? name with
  | none => .error (.missingColumn name)
  | some v =>
    match v.as? shape with
    | some x => .ok x
    | none => .error (.typeMismatch name shape v.display)

end Record

end FilterSql
