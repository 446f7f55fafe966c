import FilterSql.Condition.Group
import FilterSql.Predicate
import FilterSql.Token

/-!
# The condition of a statement

A `Test` compares a column with the parameters at given positions. A tree of tests is written with
as few parentheses as the precedence of `NOT`, `AND` and `OR` allows: around a negated group and
around a nested group of several parts. A group in which nothing is left to write is left out, and
if it is negated, selects nothing.
-/

namespace FilterSql

/-- The name of the parameter at a zero-based position. -/
def parameterName (index : Nat) : String :=
  "p" ++ Numeral.text index

/-- How a column is tested against the parameters at the given positions. -/
inductive Relation where
  | compare (op : Comparison) (operand : Nat)
  | like (negated : Bool) (pattern : Nat) (escape : Option Char)
  | isIn (negated : Bool) (operands : List Nat)
  | between (negated : Bool) (low high : Nat)
  | isNull (negated : Bool)
deriving DecidableEq, Repr

/-- A test of one column. -/
structure Test where
  /-- The name of the column. -/
  column : String
  /-- What the column is tested for. -/
  relation : Relation
deriving DecidableEq, Repr

/-- The sign of a comparison. -/
def Comparison.mark : Comparison → Mark
  | eq => .eq
  | ne => .ne
  | lt => .lt
  | le => .le
  | gt => .gt
  | ge => .ge

/-- The keyword that joins the parts of a group. -/
def Conjunction.keyword : Conjunction → Keyword
  | and => .and
  | or => .or

namespace Token

/-- The placeholder of the parameter at a position. -/
def slot (index : Nat) : Token :=
  .param (parameterName index) index

/-- `NOT` as a phrase, if it is wanted. -/
def notPhrase (negated : Bool) : List (List Token) :=
  if negated then [[.word .not]] else []

end Token

/-- The phrases that a relation adds behind the column. -/
def Relation.phrases : Relation → List (List Token)
  | compare op operand => [[.mark op.mark], [.slot operand]]
  | like negated pattern escape =>
    Token.notPhrase negated ++ [[.word .like], [.slot pattern]] ++
      match escape with
      | some c => [[.word .escape], [.literal c.toString]]
      | none => []
  | isIn negated operands =>
    let slots := operands.map fun i => [Token.slot i]
    Token.notPhrase negated ++
      [[.word .in], Token.parenthesized (Token.commaSeparated slots)]
  | between negated low high =>
    Token.notPhrase negated ++
      [[.word .between], [.slot low], [.word .and], [.slot high]]
  | isNull negated => [[.word (if negated then .isNotNull else .isNull)]]

/-- The tokens of a test. -/
def Test.tokens (t : Test) : List Token :=
  Token.spaced ([.ident t.column] :: t.relation.phrases)

/-- The tokens of a condition that no row meets. -/
def Token.never : List Token :=
  Token.spaced [[.integer 1], [.mark .eq], [.integer 0]]

/-- The tokens of a group with the given parts. A group that stands inside another one is put
between parentheses when it has several parts. -/
def Token.combine (conjunction : Conjunction) (negated nested : Bool) (parts : List (List Token)) :
    Option (List Token) :=
  match parts with
  | [] => if negated then some Token.never else none
  | parts =>
    let joined := [Token.space, .word conjunction.keyword, Token.space].intercalate parts
    let wrapped := negated || (nested && 1 < parts.length)
    let body := if wrapped then Token.parenthesized joined else joined
    some (if negated then .word .not :: Token.space :: body else body)

namespace Node

mutual

/-- The tokens of a nested tree, if it adds anything. -/
def phrase? : Node Test → Option (List Token)
  | leaf t => some t.tokens
  | group conjunction negated children =>
    Token.combine conjunction negated true (phrasesOf children)

/-- The tokens of those trees that add anything, in order. -/
def phrasesOf : List (Node Test) → List (List Token)
  | [] => []
  | child :: rest =>
    match phrase? child with
    | some p => p :: phrasesOf rest
    | none => phrasesOf rest

end

end Node

/-- The tokens of a whole condition, if it restricts anything. -/
def Group.phrase? (g : Group Test) : Option (List Token) :=
  Token.combine g.conjunction g.negated false (Node.phrasesOf g.children)

end FilterSql
