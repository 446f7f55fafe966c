import FilterSql.Settings.Environment
import FilterSql.Settings.Error
import FilterSql.Text.Alphanumeric

/-!
# Variables in texts

A dollar sign in a text introduces a variable: its name stands between braces, or is the run of
letters, digits and underscores behind the sign. A text is read once from left to right; the values
of variables are taken as they are, and a dollar sign without a name stands for itself.
-/

namespace FilterSql.Environment

/-- The characters of a variable name that is not in braces. -/
def isNameChar (c : Char) : Bool :=
  Text.isAlphanumeric c || c == '_'

/-- The name in front of the next closing brace, and what follows the brace. Without a closing
brace the whole rest is the name. -/
def bracedName : List Char → List Char × List Char
  | [] => ([], [])
  | c :: cs =>
    if c = '\x7d' then ([], cs)
    else
      let (name, rest) := bracedName cs
      (c :: name, rest)

/-- What follows a name in braces is no longer than the text it stands in. -/
theorem length_bracedName_le (cs : List Char) : (bracedName cs).2.length ≤ cs.length := by
  induction cs with
  | nil => simp [bracedName]
  | cons c cs ih =>
    by_cases h : c = '\x7d'
    · simp [bracedName, h]
    · simp only [bracedName, h, if_false, List.length_cons]
      omega

/-- The text that has to stand in the environment for a name. -/
def require (env : Environment) (name : List Char) : Except SettingsError (List Char) :=
  match env.get? (String.ofList name) with
  | some value => .ok value.toList
  | none => .error (.missingVariable (String.ofList name))

/-- The characters of a text with every variable replaced by its value. -/
def expandChars (env : Environment) : List Char → Except SettingsError (List Char)
  | [] => .ok []
  | c :: cs =>
    if c ≠ '$' then (expandChars env cs).map (c :: ·)
    else if cs.head? = some '\x7b' then do
      let value ← env.require (bracedName cs.tail).1
      (expandChars env (bracedName cs.tail).2).map (value ++ ·)
    else if (cs.takeWhile isNameChar).isEmpty then (expandChars env cs).map ('$' :: ·)
    else do
      let value ← env.require (cs.takeWhile isNameChar)
      (expandChars env (cs.dropWhile isNameChar)).map (value ++ ·)
termination_by cs => cs.length
decreasing_by
  · simp
  · have := length_bracedName_le cs.tail
    simp only [List.length_cons]
    have : cs.tail.length ≤ cs.length := by simp
    omega
  · simp
  · simp only [List.length_cons]
    have := (List.dropWhile_sublist isNameChar (l := cs)).length_le
    omega

/-- A text with every variable replaced by its value, or the leftmost name for which the environment
holds no text. -/
def expand (env : Environment) (s : String) : Except SettingsError String :=
  (expandChars env s.toList).map String.ofList

end FilterSql.Environment
