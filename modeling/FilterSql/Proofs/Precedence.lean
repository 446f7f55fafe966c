import FilterSql.Proofs.Binding
import FilterSql.Proofs.Expression

/-!
# Conditions keep their meaning

The condition of a statement leaves out as many parentheses as precedence allows. Read back by the
rules of precedence it is still the tree that it was written for: a group is the conjunction or
disjunction of its parts, whatever stands inside them.

## Main definitions

* `Test.expression`, `Node.expression?`: the expression that a tree of tests is meant as;
* `Condition.truthIn`: the truth of a condition on a row of the table.

## Main results

* `Test.reads_tokens`: a test is read as the test that it is;
* `Node.written_phrasesOf`: every nested tree is read as what it is meant as, between any
  neighbours;
* `Node.truthsOf_bindAllFrom`: binding a tree keeps its truth;
* `Group.read_phrase`: the condition of a statement has the truth of the tree that it is built from.
-/

namespace FilterSql

open Expression

namespace Token

/-- Blanks are left out of each part. -/
theorem blankless_append (s t : List Token) : blankless (s ++ t) = blankless s ++ blankless t :=
  List.filter_append s t

/-- Blanks are left out of the parts and the separator of a list. -/
theorem blankless_intercalate (sep : List Token) (phrases : List (List Token)) :
    blankless (sep.intercalate phrases) = (blankless sep).intercalate (phrases.map blankless) := by
  induction phrases with
  | nil => rfl
  | cons p phrases ih =>
    cases phrases with
    | nil => simp
    | cons q phrases =>
      rw [List.intercalate_cons_cons, blankless_append, blankless_append, ih, List.map_cons,
        List.map_cons, List.map_cons, List.intercalate_cons_cons]

/-- Without the blanks, phrases stand directly behind each other. -/
theorem blankless_spaced (phrases : List (List Token)) :
    blankless (spaced phrases) = (phrases.map blankless).flatten := by
  -- without the blanks nothing is left of the separator
  have hflatten (xss : List (List Token)) : [].intercalate xss = xss.flatten := by
    induction xss with
    | nil => rfl
    | cons xs xss ih =>
      cases xss with
      | nil => simp
      | cons ys xss => rw [List.intercalate_cons_cons, ih, List.append_nil, ← List.flatten_cons]
  rw [spaced, blankless_intercalate, ← hflatten]
  rfl

/-- Without the blanks, phrases are separated by a comma alone. -/
theorem blankless_commaSeparated (phrases : List (List Token)) :
    blankless (commaSeparated phrases) =
      [Token.mark .comma].intercalate (phrases.map blankless) := by
  rw [commaSeparated, blankless_intercalate]
  rfl

/-- Parentheses are no blanks. -/
theorem blankless_parenthesized (phrase : List Token) :
    blankless (parenthesized phrase) =
      .mark .openParen :: blankless phrase ++ [.mark .closeParen] := by
  simp [parenthesized, blankless]

end Token

/-- A number of slots between commas, up to a closing parenthesis, are read as their positions. -/
theorem Expression.readTerms_slots (i : Nat) (is : List Nat) (rest : List Token) :
    readTerms ([Token.mark .comma].intercalate ((i :: is).map fun i => [Token.slot i]) ++
      .mark .closeParen :: rest) = some ((i :: is).map .slot, rest) := by
  induction is generalizing i with
  | nil => rfl
  | cons j is ih =>
    rw [List.map_cons, List.map_cons, List.intercalate_cons_cons]
    change readTerms (.slot i :: .mark .comma :: ([Token.mark .comma].intercalate
      ((j :: is).map fun i => [Token.slot i]) ++ .mark .closeParen :: rest)) = _
    rw [readTerms, ih j]
    rfl

/-- A list of slots is read as a membership test of their parameters. -/
theorem Expression.readPlainTest_slots (subject : Term) (i : Nat) (is : List Nat)
    (rest : List Token) :
    readPlainTest subject (.word .in :: (Token.blankless (Token.parenthesized
      (Token.commaSeparated ((i :: is).map fun i => [Token.slot i]))) ++ rest)) =
      some (.among subject ((i :: is).map .slot), rest) := by
  have hslots : ((i :: is).map fun i => [Token.slot i]).map Token.blankless =
      (i :: is).map fun i => [Token.slot i] := by
    simp [Token.blankless, Token.slot, Function.comp_def]
  rw [Token.blankless_parenthesized, Token.blankless_commaSeparated, hslots, List.cons_append,
    List.cons_append, List.append_assoc, List.singleton_append, readPlainTest, readTerms_slots]
  rfl

/-- An expression, negated if wanted. -/
def Expression.notIf (negated : Bool) (e : Expression) : Expression :=
  if negated then .not e else e

/-- The expression that a relation of a term stands for. -/
def Relation.expression (subject : Term) : Relation → Expression
  | compare op operand => .compare op subject (.slot operand)
  | like negated pattern escape => notIf negated (.like subject (.slot pattern) escape)
  | isIn negated operands => notIf negated (.among subject (operands.map .slot))
  | between negated low high => notIf negated (.within subject (.slot low) (.slot high))
  | isNull negated => notIf negated (.isNull subject)

/-- A membership test without the blanks. -/
theorem Relation.blankless_isIn (negated : Bool) (operands : List Nat) :
    ((isIn negated operands).phrases.map Token.blankless).flatten =
      (if negated then [Token.word .not] else []) ++ .word .in :: Token.blankless
        (Token.parenthesized (Token.commaSeparated (operands.map fun i => [Token.slot i]))) := by
  cases negated <;> simp [phrases, Token.notPhrase] <;> rfl

namespace Test

/-- The expression that a test stands for. -/
def expression (t : Test) : Expression :=
  t.relation.expression (.column t.column)

/-- The test is no membership test of an empty list. -/
def Writable (t : Test) : Prop :=
  ∀ negated, t.relation ≠ .isIn negated []

/-- A test is read as the test that it is. -/
theorem reads_tokens {t : Test} (h : t.Writable) :
    Reads .factor (Token.blankless t.tokens) t.expression := by
  obtain ⟨column, relation⟩ := t
  have hsplit : Token.blankless (tokens ⟨column, relation⟩) =
      .ident column :: (relation.phrases.map Token.blankless).flatten := by
    rw [tokens, Token.blankless_spaced]
    rfl
  rw [hsplit]
  refine Reads.test rfl fun rest hrest => ?_
  cases relation with
  | compare op operand => cases op <;> rfl
  | isNull negated => cases negated <;> rfl
  | between negated low high => cases negated <;> rfl
  | like negated pattern escape =>
    cases escape with
    | some c =>
      cases negated <;> simp [Relation.phrases, Token.notPhrase, Token.blankless, Token.slot,
        readTest, readPlainTest, term?, expression, Relation.expression, notIf]
    | none =>
      -- what ends the test is no further `ESCAPE`
      cases rest with
      | nil => cases negated <;> rfl
      | cons t rest =>
        have ht : t = .mark .closeParen ∨ t = .word .or ∨ t = .word .and := by
          simpa [Level.stops] using hrest t rfl
        rcases ht with rfl | rfl | rfl <;> cases negated <;> rfl
  | isIn negated operands =>
    cases operands with
    | nil => exact absurd rfl (h negated)
    | cons i is =>
      have hplain := readPlainTest_slots (.column column) i is rest
      rw [Relation.blankless_isIn]
      cases negated with
      | false => exact hplain
      | true =>
        rw [if_pos rfl, List.append_assoc, List.singleton_append, List.cons_append, readTest,
          hplain]
        rfl

end Test

/-- Tests that are bound are not about empty lists. -/
theorem Settled.writable {start : Nat} {cs : List (Condition × Column)} {ts : List Test}
    {ps : List Parameter} (h : Settled start cs ts ps) : ∀ t ∈ ts, t.Writable := by
  induction h with
  | nil => simp
  | @cons start c _ _ _ _ valid nonempty _ ih =>
    -- a membership test of no positions has no operands, which binding refuses
    refine List.forall_mem_cons.2 ⟨fun negated hrelation => ?_, ih⟩
    have hslots := Condition.slots_relation valid start
    rw [show c.relation start = .isIn negated [] from hrelation] at hslots
    have hoperands : c.operands = [] := by
      simpa [Relation.slots] using hslots.symm
    cases hop : c.operator <;> simp only [Condition.relation, hop, reduceCtorEq] at hrelation
    case isIn | notIn =>
      obtain ⟨items, hv⟩ := Condition.exists_items valid (by simp [hop])
      obtain rfl : items = [] := by simpa [Condition.operands, hop, hv] using hoperands
      simp [Condition.isEmptyMembership, hop, hv] at nonempty
    all_goals split at hrelation <;> cases hrelation

/-- Two expressions joined by a conjunction. -/
def Conjunction.expression : Conjunction → Expression → Expression → Expression
  | and => .and
  | or => .or

namespace Expression

/-- Several expressions joined by a conjunction. -/
def joined (conjunction : Conjunction) : (first : Expression) → List Expression → Expression
  | e, [] => e
  | e, e' :: es => conjunction.expression e (joined conjunction e' es)

/-- The expression that no row meets. -/
def never : Expression :=
  .compare .eq (.number 1) (.number 0)

/-- The expression of a group with the given parts. -/
def combine (conjunction : Conjunction) (negated : Bool) : List Expression → Option Expression
  | [] => if negated then some never else none
  | e :: es => some (notIf negated (joined conjunction e es))

/-- The tokens, blanks or not, are read at a level as the given expression. -/
abbrev Written (level : Level) (ts : List Token) (e : Expression) : Prop :=
  Reads level (Token.blankless ts) e

/-- Factors joined by a connective are read as the joined expression. -/
theorem Reads.joined (conjunction : Conjunction) {p : List Token} {e : Expression}
    {parts : List (List Token)} {es : List Expression} (h : Reads .factor p e)
    (hs : List.Forall₂ (Reads .factor) parts es) :
    Reads .disjunction ([Token.word conjunction.keyword].intercalate (p :: parts))
      (Expression.joined conjunction e es) := by
  -- factors make up a conjunction as they are; a disjunction takes each as a conjunction of one
  cases conjunction with
  | and =>
    refine Reads.disjunction ?_
    induction hs generalizing p e with
    | nil => simpa [Expression.joined] using h.conjunction
    | cons h' _ ih =>
      rw [List.intercalate_cons_cons, List.append_assoc]
      exact h.and (ih h')
  | or =>
    induction hs generalizing p e with
    | nil => simpa [Expression.joined] using h.conjunction.disjunction
    | cons h' _ ih =>
      rw [List.intercalate_cons_cons, List.append_assoc]
      exact h.conjunction.or (ih h')

/-- The condition that no row meets is read as such. -/
theorem written_never : Written .factor Token.never never :=
  Reads.test rfl fun _ _ => rfl

/-- The tokens of a group are read as the group: as a factor where it is nested, so that it may
stand between any neighbours. -/
theorem written_combine (conjunction : Conjunction) (negated nested : Bool)
    {parts : List (List Token)} {es : List Expression}
    (h : List.Forall₂ (Written .factor) parts es) :
    Option.Rel (Written (if nested then .factor else .disjunction))
      (Token.combine conjunction negated nested parts) (combine conjunction negated es) := by
  have loosen {ts : List Token} {e : Expression} (h : Written .factor ts e) :
      Written (if nested then .factor else .disjunction) ts e := by
    cases nested
    · exact h.conjunction.disjunction
    · exact h
  cases h with
  | nil => cases negated with
    | true => exact .some (loosen written_never)
    | false => exact .none
  | @cons p e parts es hp hs =>
    have hjoined : Written .disjunction
        ([Token.space, .word conjunction.keyword, Token.space].intercalate (p :: parts))
        (joined conjunction e es) := by
      rw [Written, Token.blankless_intercalate]
      exact Reads.joined conjunction hp (List.forall₂_map_left_iff.2 hs)
    have hwrapped := hjoined.parenthesized
    rw [← Token.blankless_parenthesized] at hwrapped
    -- parentheses are left out at the root and around a single part, unless they are negated
    cases negated with
    | true => exact .some (loosen hwrapped.not)
    | false => cases nested with
      | false => exact .some hjoined
      | true => cases hs with
        | nil => exact .some (by simpa [Token.combine, notIf, joined] using hp)
        | cons _ _ => exact .some hwrapped

end Expression

namespace Node

mutual

/-- The expression of a nested tree, if it adds anything. -/
def expression? : Node Test → Option Expression
  | leaf t => some t.expression
  | group conjunction negated children =>
    Expression.combine conjunction negated (expressionsOf children)

/-- The expressions of those trees that add anything, in order. -/
def expressionsOf : List (Node Test) → List Expression
  | [] => []
  | child :: rest => (expression? child).toList ++ expressionsOf rest

end

mutual

/-- A nested tree is read as what it is meant as, between any neighbours. -/
theorem written_phrase? : ∀ n : Node Test, (∀ t ∈ n.leaves, t.Writable) →
    Option.Rel (Written .factor) n.phrase? n.expression?
  | leaf t, h => .some (Test.reads_tokens (h t (by simp [leaves])))
  | group conjunction negated children, h => by
    rw [phrase?, expression?]
    exact written_combine conjunction negated true (written_phrasesOf children h)

/-- Every nested tree is read as what it is meant as, between any neighbours. -/
theorem written_phrasesOf : ∀ ns : List (Node Test), (∀ t ∈ leavesOf ns, t.Writable) →
    List.Forall₂ (Written .factor) (phrasesOf ns) (expressionsOf ns)
  | [], _ => .nil
  | child :: rest, h => by
    have hrest := written_phrasesOf rest fun t ht => h t (by simp [leavesOf, ht])
    have hchild := written_phrase? child fun t ht => h t (by simp [leavesOf, ht])
    rw [phrasesOf, expressionsOf]
    -- the phrase and the expression of the first tree are both there or both missing
    generalize child.phrase? = p, child.expression? = e at hchild
    cases hchild with
    | none => exact hrest
    | some hread => exact .cons hread hrest

end

end Node

section Values

variable (k : Collation) (row : String → Value) (bound : Nat → Value)

namespace Expression

/-- The value of an expression that may be negated. -/
theorem value_notIf (negated : Bool) (e : Expression) :
    (notIf negated e).value k row bound =
      if negated then (e.value k row bound).not else e.value k row bound := by
  cases negated <;> rfl

/-- Joined expressions have the joined value. -/
theorem value_joined (conjunction : Conjunction) (e : Expression) (es : List Expression) :
    (joined conjunction e es).value k row bound =
      conjunction.join ((e :: es).map (·.value k row bound)) := by
  induction es generalizing e with
  | nil => simp [joined]
  | cons e' es ih =>
    rw [List.map_cons, Conjunction.join_cons, ← ih e']
    cases conjunction <;> rfl

/-- No row meets the condition that no row meets. -/
theorem value_never : never.value k row bound = some false := by
  have horder : k.order (.int 1) (.int 0) = .gt := by
    rw [k.order_int]
    decide
  simp [never, value, Term.value, Collation.compare, Value.isNull, horder, Store.comparisonHolds]

/-- The expression of a group has the truth of the group. -/
theorem value_combine (conjunction : Conjunction) (negated : Bool) (es : List Expression) :
    (combine conjunction negated es).map (·.value k row bound) =
      conjunction.combine negated (es.map (·.value k row bound)) := by
  cases es with
  | nil => cases negated <;> simp [combine, Conjunction.combine, value_never]
  | cons e es =>
    rw [combine, Option.map_some, value_notIf, value_joined,
      Conjunction.combine_of_ne_nil _ _ (by simp)]

end Expression

namespace Node

mutual

/-- The expression of a tree has the truth of the tree. -/
theorem value_expression? : ∀ n : Node Test,
    n.expression?.map (·.value k row bound) = n.truth? (·.expression.value k row bound)
  | leaf _ => rfl
  | group conjunction negated children => by
    rw [expression?, truth?, value_combine, value_expressionsOf children]

/-- The expressions of several trees have the truths of the trees. -/
theorem value_expressionsOf : ∀ ns : List (Node Test),
    (expressionsOf ns).map (·.value k row bound) = truthsOf (·.expression.value k row bound) ns
  | [] => rfl
  | child :: rest => by
    rw [expressionsOf, List.map_append, value_expressionsOf rest, truthsOf_cons,
      ← value_expression? child]
    cases child.expression? <;> rfl

end

end Node

/-- The test of a condition has the truth of the condition when its positions hold the condition's
operands. -/
theorem Condition.value_test {c : Condition} (hvalid : c.fault? = none) {start : Nat}
    (hbound : ∀ i v, c.operands[i]? = some v → bound (start + i) = v) (column : String) :
    (Test.expression { column, relation := c.relation start }).value k row bound =
      c.truth k (row column) := by
  have hsingle (h : c.operands = [c.value]) : bound start = c.value :=
    hbound 0 c.value (by simp [h])
  unfold truth Test.expression relation
  cases hop : c.operator with
  | isNull | isNotNull => rfl
  | equal | notEqual =>
    -- a comparison with null binds nothing and is a test for null
    cases hnull : c.value.isNull with
    | true => rfl
    | false =>
      have hoperands : c.operands = [c.value] := by
        cases hv : c.value <;> simp_all [operands, Value.isNull]
      simp [Relation.expression, Expression.value, Term.value, hsingle hoperands]
  | lessThan | lessThanOrEqual | greaterThan | greaterThanOrEqual =>
    have hoperands : c.operands = [c.value] := by simp [operands, hop]
    simp [Relation.expression, Expression.value, Term.value, hsingle hoperands]
  | like | notLike =>
    have hoperands : c.operands = [c.value] := by simp [operands, hop]
    simp [Relation.expression, notIf, Expression.value, Term.value, hsingle hoperands]
  | isIn | notIn =>
    obtain ⟨items, hv⟩ := exists_items hvalid (by simp [hop])
    have hoperands : c.operands = items := by simp [operands, hop, hv]
    have hslots : (List.range' start items.length).map bound = items := by
      refine List.ext_getElem (by simp) fun i _ hi => ?_
      simpa using hbound i items[i] (by simp [hoperands, hi])
    simp [Relation.expression, notIf, Expression.value, Term.value, hv, Value.items, hoperands,
      Function.comp_def, hslots]
  | between | notBetween =>
    obtain ⟨low, high, hv⟩ := exists_bounds hvalid (by simp [hop])
    have hoperands : c.operands = [low, high] := by simp [operands, hop, hv]
    have hlow : bound start = low := hbound 0 low (by simp [hoperands])
    have hhigh : bound (start + 1) = high := hbound 1 high (by simp [hoperands])
    simp [Relation.expression, notIf, Expression.value, Term.value, hv, Collation.withinBounds,
      hlow, hhigh]

namespace Node

variable {k row bound}

mutual

/-- Binding a tree keeps its truth, when its positions hold the values of its parameters. -/
theorem truth?_bindFrom : ∀ {start : Nat} {n : Node (Condition × Column)} {t : Node Test}
    {ps : List Parameter}, bindFrom start n = .ok (t, ps) →
    (∀ i v, (ps.map (·.value))[i]? = some v → bound (start + i) = v) →
    t.truth? (·.expression.value k row bound) = n.truth? fun c => c.1.truth k (row c.2.name)
  | _, leaf (c, column), _, ps, h, hbound => by
    obtain ⟨test, hbind, rfl⟩ := bindFrom_leaf_eq_ok_iff.1 h
    obtain ⟨hvalid, -, rfl, rfl⟩ := (c.bindTo_eq_ok_iff _ _ _ _).1 hbind
    rw [Parameter.map_value_number] at hbound
    exact congrArg some (Condition.value_test k row bound hvalid hbound column.name)
  | _, group conjunction negated children, _, ps, h, hbound => by
    obtain ⟨tests, hbind, rfl⟩ := bindFrom_group_eq_ok_iff.1 h
    rw [truth?, truth?, truthsOf_bindAllFrom hbind hbound]

/-- Binding several trees keeps their truths. -/
theorem truthsOf_bindAllFrom : ∀ {start : Nat} {ns : List (Node (Condition × Column))}
    {ts : List (Node Test)} {ps : List Parameter}, bindAllFrom start ns = .ok (ts, ps) →
    (∀ i v, (ps.map (·.value))[i]? = some v → bound (start + i) = v) →
    truthsOf (·.expression.value k row bound) ts =
      truthsOf (fun c => c.1.truth k (row c.2.name)) ns
  | _, [], _, _, h, _ => by
    obtain ⟨rfl, rfl⟩ := bindAllFrom_nil_eq_ok_iff.1 h
    rfl
  | start, child :: rest, _, _, h, hbound => by
    obtain ⟨n, qs, ns', qs', hchild, hrest, rfl, rfl⟩ := bindAllFrom_cons_eq_ok_iff.1 h
    rw [List.map_append] at hbound
    -- the rest of the trees hold the parameters behind those of the first one
    have hbound' : ∀ i v, (qs'.map (·.value))[i]? = some v → bound (start + qs.length + i) = v :=
      fun i v hv => by
        rw [Nat.add_assoc]
        exact hbound _ v (by simpa [List.getElem?_append_right] using hv)
    have hbound : ∀ i v, (qs.map (·.value))[i]? = some v → bound (start + i) = v :=
      fun i v hv => by
        obtain ⟨hlt, -⟩ := List.getElem?_eq_some_iff.1 hv
        exact hbound i v (by rw [List.getElem?_append_left hlt, hv])
    rw [truthsOf_cons, truthsOf_cons, truth?_bindFrom hchild hbound,
      truthsOf_bindAllFrom hrest hbound']

end

mutual

/-- The truth of a replaced tree is that of the tree, with every leaf replaced first. -/
theorem truth?_map {α β : Type} (f : α → β) (leafTruth : β → Truth) :
    ∀ n : Node α, (n.map f).truth? leafTruth = n.truth? (leafTruth ∘ f)
  | leaf _ => rfl
  | group _ _ children => by rw [map, truth?, truth?, truthsOf_mapAll f leafTruth children]

/-- The truths of several replaced trees are those of the trees. -/
theorem truthsOf_mapAll {α β : Type} (f : α → β) (leafTruth : β → Truth) :
    ∀ ns : List (Node α), truthsOf leafTruth (mapAll f ns) = truthsOf (leafTruth ∘ f) ns
  | [] => rfl
  | child :: rest => by
    rw [mapAll, truthsOf_cons, truthsOf_cons, truth?_map f leafTruth child,
      truthsOf_mapAll f leafTruth rest]

end

end Node

end Values

/-- The truth of a condition on a row of the table: its field stands for a column of the row. -/
def Condition.truthIn (k : Collation) (s : Scope) (row : String → Value) (c : Condition) : Truth :=
  c.truth k (row (s.entity.columnOf s.fieldCase c.field.name))

/-- The condition of a statement has the truth of the tree that it is built from. It is left out
exactly when the tree contributes nothing; otherwise it is read, by the rules of precedence, as an
expression that has the value of the tree on every row, when every parameter has the value that is
bound at its position. -/
theorem Group.read_phrase {g : Group Condition} {s : Scope} {types types' : TypeChain}
    {t : Group Test} {ps : List Parameter}
    (h : (g.bind s).run.run types = (.ok (t, ps), types')) :
    (∀ (k : Collation) (row : String → Value),
      t.phrase? = none ↔ g.truth? (Condition.truthIn k s row) = none) ∧
    ∀ ts, t.phrase? = some ts → ∃ e, Expression.read ts = some e ∧
      ∀ (k : Collation) (row : String → Value) (bound : Nat → Value),
        (∀ i (hi : i < ps.length), bound i = ps[i].value) →
        g.truth? (Condition.truthIn k s row) = some (e.value k row bound) := by
  obtain ⟨-, children, rfl, hbind⟩ := Group.bind_eq_ok h
  have hwritable := (Node.settled_bindAllFrom hbind).writable
  have hread := written_combine g.conjunction g.negated false
    (Node.written_phrasesOf children hwritable)
  have htruth (k : Collation) (row : String → Value) (bound : Nat → Value)
      (hbound : ∀ i (hi : i < ps.length), bound i = ps[i].value) :
      (Expression.combine g.conjunction g.negated (Node.expressionsOf children)).map
        (·.value k row bound) = g.truth? (Condition.truthIn k s row) := by
    have hvalues : ∀ i v, (ps.map (·.value))[i]? = some v → bound (0 + i) = v := fun i v hv => by
      obtain ⟨hi, rfl⟩ := List.getElem?_eq_some_iff.1 hv
      rw [Nat.zero_add, hbound i (by simpa using hi), List.getElem_map]
    rw [value_combine, Node.value_expressionsOf, Node.truthsOf_bindAllFrom hbind hvalues,
      Node.truthsOf_mapAll, Group.truth?, Group.toNode, Node.truth?]
    congr 2
    funext c
    simp [Node.located, Condition.column, Condition.truthIn]
  -- some assignment holds the bound values, so the truth of the tree is known on every row
  have hsome (k : Collation) (row : String → Value) :=
    htruth k row (fun i => (ps.map (·.value)).getD i .null) fun i hi => by simp [hi]
  rw [Group.phrase?]
  generalize Token.combine g.conjunction g.negated false (Node.phrasesOf children) = phrase?,
    Expression.combine g.conjunction g.negated (Node.expressionsOf children) = expression?
    at hread htruth hsome ⊢
  cases hread with
  | none => exact ⟨fun k row => by simp [← hsome k row], by simp⟩
  | @some ts e hread =>
    refine ⟨fun k row => by simp [← hsome k row], fun ts' hts => ?_⟩
    obtain rfl : ts = ts' := by simpa using hts
    exact ⟨e, read_eq_some hread, fun k row bound hbound => (htruth k row bound hbound).symm⟩

/-- A negated disjunction with a range test, inside a conjunction. -/
theorem Group.read_phrase_negated_disjunction :
    let g : Group Condition :=
      { children := [
          .group .or true [.leaf (.eq { name := "a" } (.int 1)),
            .leaf (.between { name := "b" } (.int 2) (.int 3))],
          .leaf (.isNull { name := "c" })] }
    let s : Scope := { entity := .ofTable { name := "t" }, fieldCase := .exact }
    let bound : Nat → Value := fun i => [.int 1, .int 2, .int 3].getD i .null
    ∃ t ps ts e, (g.bind s).run.run {} = (.ok (t, ps), {}) ∧ t.phrase? = some ts ∧
      Expression.read ts = some e ∧ ∀ (k : Collation) (row : String → Value),
        g.truth? (Condition.truthIn k s row) = some (e.value k row bound) := by
  intro g s bound
  have h : (g.bind s).run.run {} = (.ok (_, _), {}) := rfl
  obtain ⟨e, hread, hvalue⟩ := (Group.read_phrase h).2 _ rfl
  refine ⟨_, _, _, e, h, rfl, hread, fun k row => hvalue k row bound fun i hi => ?_⟩
  match i, hi with
  | 0, _ | 1, _ | 2, _ => rfl

end FilterSql
