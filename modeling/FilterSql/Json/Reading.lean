import FilterSql.Json.Lexeme

/-!
# Reading JSON texts

The lexemes of a text are taken in one by one. What has been read of the enclosing arrays and
objects is kept on a stack of open containers, so that a text is read in a single pass. The members
of an object come out in the order of their names, and of two members of one name the later counts.
-/

namespace FilterSql.Json

/-- Members with one more, kept in ascending order of names; an equal name is replaced. -/
def insertMember (name : String) (v : Json) : List (String × Json) → List (String × Json)
  | [] => [(name, v)]
  | (n, w) :: rest =>
    if name = n then (name, v) :: rest
    else if name < n then (name, v) :: (n, w) :: rest
    else (n, w) :: insertMember name v rest

/-- An array or object that has been opened and not closed. The elements of an array are held in
reverse. -/
inductive Container where
  | array (itemsReversed : List Json)
  | object (members : List (String × Json)) (name : String)

/-- What the text has to go on with. -/
inductive Expecting where
  /-- A value. -/
  | value
  /-- A value or the end of the array just opened. -/
  | valueOrClose
  /-- The name of a member of the object with these members. -/
  | name (members : List (String × Json))
  /-- The first name of an object or its end. -/
  | nameOrClose
  /-- The colon after a name. -/
  | colon (members : List (String × Json)) (name : String)
  /-- A comma or the end of the innermost container, whose last value is complete. -/
  | separator (last : Json)

/-- A partly read text: the open containers from the inside out, and what comes next. -/
structure Progress where
  /-- The containers around the current place, innermost first. -/
  stack : List Container
  /-- What the text has to go on with. -/
  expecting : Expecting

/-- At most this many containers may be open at once. -/
def maxDepth : Nat := 127

/-- Open a container if the nesting allows it. -/
def Progress.deepen (stack : List Container) (container : Container) (expecting : Expecting) :
    Option Progress :=
  if stack.length < maxDepth then some ⟨container :: stack, expecting⟩ else none

/-- Start the value at the current place. The placeholder container of a new object is completed
when its first name is read. -/
def Progress.begin (stack : List Container) : Lexeme → Option Progress
  | .scalar v => some ⟨stack, .separator v⟩
  | .openArray => Progress.deepen stack (.array []) .valueOrClose
  | .openObject => Progress.deepen stack (.object [] "") .nameOrClose
  | _ => none

/-- Go on with a text by one lexeme. -/
def Progress.step (p : Progress) (lexeme : Lexeme) : Option Progress :=
  match p.expecting, lexeme, p.stack with
  | .value, _, stack => Progress.begin stack lexeme
  | .valueOrClose, .closeArray, .array _ :: stack => some ⟨stack, .separator (.array [])⟩
  | .valueOrClose, _, stack => Progress.begin stack lexeme
  -- An empty object never gets to name a member, so its container goes unread.
  | .nameOrClose, .closeObject, _ :: stack => some ⟨stack, .separator (.object [])⟩
  | .nameOrClose, .scalar (.text name), stack => some ⟨stack, .colon [] name⟩
  | .name members, .scalar (.text name), stack => some ⟨stack, .colon members name⟩
  | .colon members name, .colon, _ :: stack => some ⟨.object members name :: stack, .value⟩
  | .separator v, .comma, .array items :: stack => some ⟨.array (v :: items) :: stack, .value⟩
  | .separator v, .closeArray, .array items :: stack =>
    some ⟨stack, .separator (.array (v :: items).reverse)⟩
  | .separator v, .comma, .object members name :: stack =>
    some ⟨.object members name :: stack, .name (insertMember name v members)⟩
  | .separator v, .closeObject, .object members name :: stack =>
    some ⟨stack, .separator (.object (insertMember name v members))⟩
  | _, _, _ => none

/-- The value of a text that has been read to its end. -/
def Progress.result : Progress → Option Json
  | ⟨[], .separator v⟩ => some v
  | _ => none

/-- Go on with a text by several lexemes. -/
def Progress.run (p : Progress) : List Lexeme → Option Progress
  | [] => some p
  | lexeme :: rest => (p.step lexeme).bind fun q => q.run rest

/-- The value that a sequence of lexemes spells. -/
def ofLexemes? (ls : List Lexeme) : Option Json :=
  ((Progress.mk [] .value).run ls).bind Progress.result

/-- The value of a JSON text. -/
def read (s : String) : Option Json :=
  (lexemes s.toList).bind ofLexemes?

end FilterSql.Json
