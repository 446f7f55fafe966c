/-!
# Matching of names

How the names that callers give are compared with declared names: exactly, or without regard to
the case of ASCII letters.
-/

namespace FilterSql

/-- How field names are matched against declared names. -/
inductive FieldCase where
  | exact
  | insensitive
deriving DecidableEq, Repr

namespace FieldCase

/-- The characters of a name with the ASCII letters in lower case. -/
def folded (s : String) : List Char :=
  s.toList.map Char.toLower

/-- Whether two names are the same under the policy. -/
def agree (fieldCase : FieldCase) (a b : String) : Bool :=
  match fieldCase with
  | exact => a == b
  | insensitive => folded a == folded b

/-- The name of the policy in settings. -/
def name : FieldCase → String
  | exact => "exact"
  | insensitive => "insensitive"

/-- The policy of a given name. -/
def ofName? (s : String) : Option FieldCase :=
  [exact, insensitive].find? fun fieldCase => fieldCase.name = s

/-- Agreement under the exact policy is equality. -/
@[simp]
theorem agree_exact (a b : String) : exact.agree a b = true ↔ a = b := by
  simp [agree]

/-- Agreement under the insensitive policy is equality of the folded names. -/
@[simp]
theorem agree_insensitive (a b : String) :
    insensitive.agree a b = true ↔ folded a = folded b := by
  simp [agree]

/-- A name agrees with itself. -/
@[simp]
theorem agree_self (fieldCase : FieldCase) (a : String) : fieldCase.agree a a = true := by
  cases fieldCase <;> simp

end FieldCase

end FilterSql
