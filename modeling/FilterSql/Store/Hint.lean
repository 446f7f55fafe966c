import FilterSql.Statement
import FilterSql.Store.Cell

/-!
# Hints as the database reads them

A hint is text of the caller and may hold comments. A comment that is not closed in the hint reaches
over what stands behind it, so that the database reads no more than the front of the statement.

Tables have no index with a name, so that apart from comments a hint may only ask for no index to be
used. Any other text is SQL of its own, which is not read here: it is refused.
-/

namespace FilterSql.Store

/-- Where a text is while its comments are looked for. -/
inductive Comment where
  /-- In no comment. -/
  | outside
  /-- Between the slash and the star that open a comment. -/
  | opening
  /-- Behind the slash and the star that open a comment. -/
  | opened
  /-- Further in such a comment. -/
  | inside
  /-- Between the star and the slash that close it. -/
  | closing
  /-- In a comment that reaches to the end of the line. -/
  | line
deriving DecidableEq, Repr

/-- What a character does in front of the next one, and what it leaves of the text. A comment counts as
a blank. -/
def Comment.step (c : Char) (next : Option Char) : Comment → Comment × List Char
  | outside =>
    if c = '-' ∧ next = some '-' then (line, [])
    else if c = '/' ∧ next = some '*' then (opening, [])
    else (outside, [c])
  | opening => (opened, [])
  | opened | inside => if c = '*' ∧ next = some '/' then (closing, []) else (inside, [])
  | closing => (outside, [' '])
  | line => if c = '\n' then (outside, [' ']) else (line, [])

/-- A text without its comments, and where it ends. -/
def uncomment : Comment → List Char → List Char × Comment
  | state, [] => ([], state)
  | state, c :: cs =>
    let (state, shown) := state.step c cs.head?
    let (rest, last) := uncomment state cs
    (shown ++ rest, last)

/-- The words of a text between blanks, in upper case. -/
def upperWords (cs : List Char) : List String :=
  let parts := (cs.map fun c => if Cell.isPad c then ' ' else c.toUpper).splitOn ' '
  (parts.filter fun p => !p.isEmpty).map String.ofList

/-- Whether the words of a hint are acceptable where it stands: there are none, or they ask for no
index to be used on the table in front of them. -/
def acceptsWords (position : HintPosition) (words : List String) : Bool :=
  match words with
  | [] => true
  | ["NOT", "INDEXED"] => position = .afterTable
  | _ => false

/-- What the database reads of a statement with a hint. -/
inductive Extent where
  /-- All of it. -/
  | whole
  /-- What stands in front of the hint. -/
  | front
deriving DecidableEq, Repr

/-- What is read of a statement with a hint in front of the text `behind`, if the hint is acceptable. A
comment that is open at the end of the hint has to reach over all of this text. -/
def readHint (position : HintPosition) (hint behind : String) : Option Extent :=
  let (shown, state) := uncomment .outside hint.toList
  if '\x00' ∈ hint.toList ∨ !acceptsWords position (upperWords shown) then none
  else if state = .outside then some .whole
  else
    let (rest, last) := uncomment state behind.toList
    if rest.all Cell.isPad ∧ last ≠ .opened then some .front else none

/-- The placeholder that a token is written as. -/
def placeholder? (d : Dialect) : Token → Option String
  | .param name index => some (d.placeholder name index)
  | _ => none

end FilterSql.Store

namespace FilterSql

namespace Statement

/-- What the database reads of a statement, if it accepts the hint. A hint that is not written does not
matter. -/
def extent? (s : Statement) : Option Store.Extent :=
  match s.hint with
  | none => some .whole
  | some hint =>
    match s.tokens.dropWhile (· ≠ .raw hint) with
    | [] => some .whole
    | _ :: behind => Store.readHint s.dialect.hintPosition hint (Token.renderAll s.dialect behind)

/-- A statement without a hint is read as a whole. -/
theorem extent?_of_hint_eq_none {s : Statement} (h : s.hint = none) : s.extent? = some .whole := by
  rw [extent?, h]

/-- The tokens of a statement that the database reads. -/
def read (s : Statement) : Store.Extent → List Token
  | .whole => s.tokens
  | .front => s.tokens.takeWhile fun t => s.hint.map Token.raw ≠ some t

/-- The placeholders that the database finds in a statement, in their order. -/
def placeholders (s : Statement) (extent : Store.Extent) : List String :=
  (s.read extent).filterMap (Store.placeholder? s.dialect)

end Statement

end FilterSql
