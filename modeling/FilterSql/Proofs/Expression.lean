import FilterSql.Proofs.Collation
import FilterSql.Proofs.Truth
import FilterSql.Statement.Where

/-!
# Reading conditions

The condition of a statement as a database reads it: a boolean expression over columns, numbers and
parameters. The reader is a recursive descent over the tokens without blanks, with one function for
each level of precedence: `NOT` binds tighter than `AND`, `AND` tighter than `OR`, parentheses
override both, and the `AND` of a range test belongs to the test.

## Main definitions

* `Expression`, `Expression.value`: boolean expressions and their value on a row;
* `Expression.read`: the expression that some tokens are read as.

## Main results

* `Reads.test`, `Reads.parenthesized`, `Reads.not`, `Reads.and`, `Reads.or`: how the phrases of a
  condition are put together so that they are read as what they are meant to be.
-/

namespace FilterSql

/-- What a test is about: a column, a number that is written out, or a parameter. -/
inductive Term where
  | column (name : String)
  | number (n : Int)
  /-- The parameter at a zero-based position. -/
  | slot (index : Nat)

/-- A boolean expression, as a database evaluates it on a row. -/
inductive Expression where
  | compare (op : Comparison) (left right : Term)
  | isNull (subject : Term)
  | like (subject pattern : Term) (escape : Option Char)
  | among (subject : Term) (terms : List Term)
  | within (subject low high : Term)
  | not (inner : Expression)
  | and (left right : Expression)
  | or (left right : Expression)

/-- The value of a term, given the columns of a row and the values of the parameters. -/
def Term.value (row : String → Value) (bound : Nat → Value) : Term → Value
  | column name => row name
  | number n => .int (Int64.ofInt n)
  | slot index => bound index

namespace Expression

/-- The value of an expression, given the columns of a row and the values of the parameters. -/
def value (k : Collation) (row : String → Value) (bound : Nat → Value) : Expression → Truth
  | compare op left right => k.compare op (left.value row bound) (right.value row bound)
  | isNull subject => some (subject.value row bound).isNull
  | like subject pattern escape =>
    k.like escape (subject.value row bound) (pattern.value row bound)
  | among subject terms =>
    k.among (subject.value row bound) (terms.map (·.value row bound))
  | within subject low high =>
    k.within (subject.value row bound) (low.value row bound) (high.value row bound)
  | not inner => (inner.value k row bound).not
  | and left right => (left.value k row bound).and (right.value k row bound)
  | or left right => (left.value k row bound).or (right.value k row bound)

/-- The term that a single token stands for. -/
def term? : Token → Option Term
  | .ident name => some (.column name)
  | .integer n => some (.number n)
  | .param _ index => some (.slot index)
  | _ => none

/-- The comparison that a mark stands for. -/
def comparison? : Mark → Option Comparison
  | .eq => some .eq
  | .ne => some .ne
  | .lt => some .lt
  | .le => some .le
  | .gt => some .gt
  | .ge => some .ge
  | _ => none

/-- Read terms between commas up to a closing parenthesis, and return them with what follows. -/
def readTerms : List Token → Option (List Term × List Token)
  | t :: .mark .comma :: rest => do
    let term ← term? t
    let (terms, rest) ← readTerms rest
    return (term :: terms, rest)
  | t :: .mark .closeParen :: rest => do
    return ([← term? t], rest)
  | _ => none

/-- Read a membership, range or pattern test of `subject`. -/
def readPlainTest (subject : Term) : List Token → Option (Expression × List Token)
  | .word .in :: .mark .openParen :: rest => do
    let (terms, rest) ← readTerms rest
    return (.among subject terms, rest)
  | .word .between :: low :: .word .and :: high :: rest => do
    return (.within subject (← term? low) (← term? high), rest)
  | .word .like :: pattern :: .word .escape :: .literal s :: rest => do
    match s.toList with
    | [c] => return (.like subject (← term? pattern) (some c), rest)
    | _ => none
  | .word .like :: pattern :: rest => do
    return (.like subject (← term? pattern) none, rest)
  | _ => none

/-- Read what `subject` is tested for. -/
def readTest (subject : Term) : List Token → Option (Expression × List Token)
  | .word .isNull :: rest => some (.isNull subject, rest)
  | .word .isNotNull :: rest => some (.not (.isNull subject), rest)
  | .word .not :: rest => do
    let (test, rest) ← readPlainTest subject rest
    return (.not test, rest)
  | .mark m :: t :: rest => do
    return (.compare (← comparison? m) subject (← term? t), rest)
  | ts => readPlainTest subject ts

mutual

/-- Read terms of a disjunction as far as they go. -/
def readOr : (fuel : Nat) → List Token → Option (Expression × List Token)
  | 0, _ => none
  | fuel + 1, ts => do
    let (left, rest) ← readAnd fuel ts
    match rest with
    | .word .or :: rest => do
      let (right, rest) ← readOr fuel rest
      return (.or left right, rest)
    | _ => return (left, rest)

/-- Read terms of a conjunction as far as they go. -/
def readAnd : (fuel : Nat) → List Token → Option (Expression × List Token)
  | 0, _ => none
  | fuel + 1, ts => do
    let (left, rest) ← readFactor fuel ts
    match rest with
    | .word .and :: rest => do
      let (right, rest) ← readAnd fuel rest
      return (.and left right, rest)
    | _ => return (left, rest)

/-- Read a negation, an expression between parentheses, or a single test. -/
def readFactor : (fuel : Nat) → List Token → Option (Expression × List Token)
  | 0, _ => none
  | fuel + 1, .word .not :: rest => do
    let (inner, rest) ← readFactor fuel rest
    return (.not inner, rest)
  | fuel + 1, .mark .openParen :: rest => do
    let (inner, rest) ← readOr fuel rest
    match rest with
    | .mark .closeParen :: rest => return (inner, rest)
    | _ => none
  | _ + 1, t :: rest => do readTest (← term? t) rest
  | _ + 1, [] => none

end

end Expression

/-- Tokens without the blanks between them. -/
def Token.blankless (ts : List Token) : List Token :=
  ts.filter (· ≠ Token.space)

/-- The expression that some tokens are read as, if they are one expression and nothing else. The
reader goes down three levels for each token at most. -/
def Expression.read (ts : List Token) : Option Expression :=
  let ts := Token.blankless ts
  match readOr (3 * ts.length + 2) ts with
  | some (e, []) => some e
  | _ => none

namespace Expression

/-- The levels of precedence, the loosest one first. -/
inductive Level where
  | disjunction
  | conjunction
  | factor

namespace Level

/-- The reader of a level. -/
def read : Level → (fuel : Nat) → List Token → Option (Expression × List Token)
  | disjunction => readOr
  | conjunction => readAnd
  | factor => readFactor

/-- How many levels lie below this one. -/
def height : Level → Nat
  | disjunction => 2
  | conjunction => 1
  | factor => 0

/-- The tokens that end an expression of the level. -/
def stops : Level → List Token
  | disjunction => [.mark .closeParen]
  | conjunction => [.mark .closeParen, .word .or]
  | factor => [.mark .closeParen, .word .or, .word .and]

end Level

/-- The tokens are read at a level as the given expression, whatever ends it there. -/
def Reads (level : Level) (ts : List Token) (e : Expression) : Prop :=
  ∀ fuel rest, 3 * ts.length + level.height ≤ fuel → (∀ t ∈ rest.head?, t ∈ level.stops) →
    level.read fuel (ts ++ rest) = some (e, rest)

namespace Reads

variable {ts ts' : List Token} {e e' : Expression}

/-- What is read as a factor is a conjunction of one part. -/
theorem conjunction (h : Reads .factor ts e) : Reads .conjunction ts e := by
  intro fuel rest hfuel hrest
  obtain ⟨fuel, rfl⟩ : ∃ n, fuel = n + 1 := ⟨fuel - 1, by simp [Level.height] at hfuel; omega⟩
  -- what ends a conjunction ends a factor as well, and is no `AND` that would go on
  have hstops : Level.conjunction.stops ⊆ Level.factor.stops := by simp [Level.stops]
  have hfactor : readFactor fuel (ts ++ rest) = some (e, rest) :=
    h fuel rest (by simp [Level.height] at *; omega) fun t ht => hstops (hrest t ht)
  rw [Level.read, readAnd, hfactor]
  match rest with
  | [] => rfl
  | t :: rest =>
    have ht : t = .mark .closeParen ∨ t = .word .or := by simpa [Level.stops] using hrest t rfl
    rcases ht with rfl | rfl <;> rfl

/-- What is read as a conjunction is a disjunction of one part. -/
theorem disjunction (h : Reads .conjunction ts e) : Reads .disjunction ts e := by
  intro fuel rest hfuel hrest
  obtain ⟨fuel, rfl⟩ : ∃ n, fuel = n + 1 := ⟨fuel - 1, by simp [Level.height] at hfuel; omega⟩
  -- what ends a disjunction ends a conjunction as well, and is no `OR` that would go on
  have hstops : Level.disjunction.stops ⊆ Level.conjunction.stops := by simp [Level.stops]
  have hconjunction : readAnd fuel (ts ++ rest) = some (e, rest) :=
    h fuel rest (by simp [Level.height] at *; omega) fun t ht => hstops (hrest t ht)
  rw [Level.read, readOr, hconjunction]
  match rest with
  | [] => rfl
  | t :: rest =>
    obtain rfl : t = .mark .closeParen := by simpa [Level.stops] using hrest t rfl
    rfl

/-- A factor, `AND` and a conjunction are read as a longer conjunction. -/
theorem and (h : Reads .factor ts e) (h' : Reads .conjunction ts' e') :
    Reads .conjunction (ts ++ .word .and :: ts') (.and e e') := by
  intro fuel rest hfuel hrest
  simp only [List.length_append, List.length_cons, Level.height] at hfuel
  obtain ⟨fuel, rfl⟩ : ∃ n, fuel = n + 1 := ⟨fuel - 1, by omega⟩
  have hfactor : readFactor fuel (ts ++ .word .and :: (ts' ++ rest)) =
      some (e, .word .and :: (ts' ++ rest)) :=
    h fuel _ (by simp [Level.height]; omega) (by simp [Level.stops])
  have hrest : readAnd fuel (ts' ++ rest) = some (e', rest) :=
    h' fuel rest (by simp [Level.height]; omega) hrest
  simp [Level.read, readAnd, hfactor, hrest]

/-- A conjunction, `OR` and a disjunction are read as a longer disjunction. -/
theorem or (h : Reads .conjunction ts e) (h' : Reads .disjunction ts' e') :
    Reads .disjunction (ts ++ .word .or :: ts') (.or e e') := by
  intro fuel rest hfuel hrest
  simp only [List.length_append, List.length_cons, Level.height] at hfuel
  obtain ⟨fuel, rfl⟩ : ∃ n, fuel = n + 1 := ⟨fuel - 1, by omega⟩
  have hconjunction : readAnd fuel (ts ++ .word .or :: (ts' ++ rest)) =
      some (e, .word .or :: (ts' ++ rest)) :=
    h fuel _ (by simp [Level.height]; omega) (by simp [Level.stops])
  have hrest : readOr fuel (ts' ++ rest) = some (e', rest) :=
    h' fuel rest (by simp [Level.height]; omega) hrest
  simp [Level.read, readOr, hconjunction, hrest]

/-- Parentheses make a factor of any expression. -/
theorem parenthesized (h : Reads .disjunction ts e) :
    Reads .factor (.mark .openParen :: ts ++ [.mark .closeParen]) e := by
  intro fuel rest hfuel _
  simp only [List.length_append, List.length_cons, Level.height] at hfuel
  obtain ⟨fuel, rfl⟩ : ∃ n, fuel = n + 1 := ⟨fuel - 1, by omega⟩
  -- the closing parenthesis ends what stands inside, so anything may follow outside
  have hinner : readOr fuel (ts ++ .mark .closeParen :: rest) =
      some (e, .mark .closeParen :: rest) :=
    h fuel _ (by simp [Level.height]; omega) (by simp [Level.stops])
  simp [Level.read, readFactor, hinner]

/-- `NOT` in front of a factor negates it. -/
theorem not (h : Reads .factor ts e) : Reads .factor (.word .not :: ts) (.not e) := by
  intro fuel rest hfuel hrest
  simp only [List.length_cons, Level.height] at hfuel
  obtain ⟨fuel, rfl⟩ : ∃ n, fuel = n + 1 := ⟨fuel - 1, by omega⟩
  have hinner : readFactor fuel (ts ++ rest) = some (e, rest) :=
    h fuel rest (by simp [Level.height]; omega) hrest
  simp [Level.read, readFactor, hinner]

/-- A test is a factor when the reader of tests takes all of it, whatever ends it. -/
theorem test {t : Token} {term : Term} (hterm : term? t = some term)
    (h : ∀ rest, (∀ u ∈ rest.head?, u ∈ Level.factor.stops) →
      readTest term (ts ++ rest) = some (e, rest)) :
    Reads .factor (t :: ts) e := by
  intro fuel rest hfuel hrest
  simp only [List.length_cons, Level.height] at hfuel
  obtain ⟨fuel, rfl⟩ : ∃ n, fuel = n + 1 := ⟨fuel - 1, by omega⟩
  -- no token that stands for a term begins a negation or an expression between parentheses
  have hstep : readFactor (fuel + 1) (t :: (ts ++ rest)) = readTest term (ts ++ rest) := by
    cases t <;> simp only [term?, reduceCtorEq] at hterm <;> simp [readFactor, term?, hterm]
  simpa [Level.read, hstep] using h rest hrest

end Reads

/-- Tokens that are read as a disjunction are read as an expression. -/
theorem read_eq_some {ts : List Token} {e : Expression}
    (h : Reads .disjunction (Token.blankless ts) e) : read ts = some e := by
  have hread : readOr (3 * (Token.blankless ts).length + 2) (Token.blankless ts ++ []) =
      some (e, []) :=
    h (3 * (Token.blankless ts).length + 2) [] (by simp [Level.height]) (by simp)
  rw [List.append_nil] at hread
  simp [read, hread]

end Expression

end FilterSql
