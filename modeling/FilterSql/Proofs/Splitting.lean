import FilterSql.Proofs.Requests
import FilterSql.Proofs.Separation

/-!
# Statements are split into their tokens

Names and strings may hold any characters, and tokens are written one behind the other with only the
blanks that a command puts there. Still no name can end early, swallow what follows it or add a
lexeme of its own: every command without a hint consists of tidy tokens.

## Main results

* `Relation.tidy_phrases`, `Group.tidy_wherePhrases`: conditions are tidy;
* `Select.tidy_tokens`, `Count.tidy_tokens`, `Upsert.tidy_tokens`: commands are tidy;
* `Builder.split_sql`: the text of a statement is split into the lexemes of its tokens.
-/

namespace FilterSql

/-- The phrases that a relation adds are tidy. -/
theorem Relation.tidy_phrases (r : Relation) : ∀ p ∈ r.phrases, Token.Tidy p := by
  have hnot (negated : Bool) : ∀ p ∈ Token.notPhrase negated, Token.Tidy p := by
    cases negated <;> simp [Token.notPhrase, Token.Plain]
  cases r with
  | compare op operand => simp [phrases, Token.slot, Token.Plain]
  | like negated pattern escape =>
    simp only [phrases, List.forall_mem_append]
    refine ⟨⟨hnot negated, by simp [Token.slot, Token.Plain]⟩, ?_⟩
    cases escape <;> simp [Token.Plain]
  | isIn negated operands =>
    have hslots : ∀ p ∈ operands.map fun i => [Token.slot i], Token.Tidy p := by
      simp [Token.slot, Token.Plain]
    have hlist := (Token.Tidy.commaSeparated hslots).parenthesized
    simp only [phrases, List.forall_mem_append]
    exact ⟨hnot negated, by simp [Token.Plain, hlist]⟩
  | between negated low high =>
    simp only [phrases, List.forall_mem_append]
    exact ⟨hnot negated, by simp [Token.slot, Token.Plain]⟩
  | isNull negated => simp [phrases, Token.Plain]

/-- A test is tidy. -/
theorem Test.tidy_tokens (t : Test) : Token.Tidy t.tokens :=
  Token.Tidy.spaced (List.forall_mem_cons.2 ⟨by simp [Token.Plain], t.relation.tidy_phrases⟩)

/-- A combination of tidy parts is tidy. -/
theorem Token.tidy_combine {conjunction : Conjunction} {negated nested : Bool}
    {parts : List (List Token)} (hparts : ∀ p ∈ parts, Tidy p) {p : List Token}
    (h : combine conjunction negated nested parts = some p) : Tidy p := by
  unfold combine at h
  split at h
  · split at h
    · obtain rfl := Option.some.inj h
      exact Tidy.spaced (by simp [Plain])
    · cases h
  · -- parentheses around the joined parts make no difference
    have hjoined := Tidy.joined conjunction.keyword hparts
    have hbody (wrapped : Bool) : Tidy (if wrapped then
        parenthesized ([Token.space, .word conjunction.keyword, Token.space].intercalate parts)
        else [Token.space, .word conjunction.keyword, Token.space].intercalate parts) := by
      cases wrapped
      · exact hjoined
      · exact hjoined.parenthesized
    obtain rfl := Option.some.inj h
    split
    · exact (tidy_singleton (t := .word .not).2 trivial).append_cons rfl (hbody _)
    · exact hbody _

namespace Node

mutual

/-- The phrase of a nested tree is tidy. -/
theorem tidy_phrase {n : Node Test} {p : List Token} (h : n.phrase? = some p) : Token.Tidy p := by
  cases n with
  | leaf t =>
    obtain rfl := Option.some.inj h
    exact t.tidy_tokens
  | group conjunction negated children => exact Token.tidy_combine (tidy_phrasesOf children) h

/-- The phrases of nested trees are tidy. -/
theorem tidy_phrasesOf (ns : List (Node Test)) : ∀ p ∈ phrasesOf ns, Token.Tidy p := by
  cases ns with
  | nil => simp [phrasesOf]
  | cons child rest =>
    rw [phrasesOf]
    split
    · next p hp => exact List.forall_mem_cons.2 ⟨tidy_phrase hp, tidy_phrasesOf rest⟩
    · exact tidy_phrasesOf rest

end

end Node

/-- The phrases of a condition are tidy. -/
theorem Group.tidy_wherePhrases (g : Group Test) : ∀ p ∈ g.wherePhrases, Token.Tidy p := by
  unfold wherePhrases
  split
  · next p hp =>
    have hphrase := Token.tidy_combine (Node.tidy_phrasesOf g.children) hp
    simp [Token.Plain, hphrase]
  · simp

/-- The phrases of a table are tidy. -/
theorem TableName.tidy_phrases (t : TableName) (d : Dialect) :
    ∀ p ∈ t.phrases d none, Token.Tidy p := by
  simp [phrases, token, Token.Plain]

/-- Without a hint, nothing stands in front of a statement. -/
theorem Dialect.tidy_leadingHint (d : Dialect) : ∀ p ∈ d.leadingHint none, Token.Tidy p := by
  simp [leadingHint]

/-- The phrases of a row limit are tidy. -/
theorem Dialect.tidy_windowPhrases (d : Dialect) {limit offset : Option Int}
    (hlimit : ∀ n ∈ limit, 0 ≤ n) (hoffset : ∀ n ∈ offset, 0 ≤ n) :
    ∀ p ∈ d.windowPhrases limit offset, Token.Tidy p := by
  cases d <;> cases limit <;> cases offset <;>
    simp_all [windowPhrases, Token.Plain]

namespace Window

variable (w : Window) (d : Dialect)

/-- The phrases of a row limit in front of the columns are tidy. -/
theorem tidy_topPhrases : ∀ p ∈ w.topPhrases d, Token.Tidy p := by
  unfold topPhrases
  split
  · next n =>
    have hcount : Token.Tidy [.integer n] := Token.tidy_singleton.2 (Int.natCast_nonneg n)
    split <;> simp [Token.Plain, hcount.parenthesized]
  · simp

/-- The phrases of the wanted rows at the end of a statement are tidy. -/
theorem tidy_endPhrases : ∀ p ∈ w.endPhrases d, Token.Tidy p := by
  cases w with
  | all => simp [endPhrases]
  | first n =>
    rw [endPhrases]
    split
    · simp
    · exact d.tidy_windowPhrases (by simp) (by simp)
  | page p =>
    rw [endPhrases]
    exact d.tidy_windowPhrases (by simp) (by simp)

end Window

namespace Select

variable (s : Select)

/-- The columns of the result are tidy. -/
theorem tidy_projection : Token.Tidy s.projection := by
  unfold projection
  split
  · simp [Token.Plain]
  · exact Token.Tidy.commaSeparated (by simp [Token.Plain])

/-- The phrases of the ordering are tidy. -/
theorem tidy_orderPhrases : ∀ p ∈ s.orderPhrases, Token.Tidy p := by
  unfold orderPhrases
  split
  · simp
  · have hterm (term : String × Direction) :
        Token.Tidy (Token.spaced [[.ident term.1], [.word term.2.keyword]]) :=
      Token.Tidy.spaced (by simp [Token.Plain])
    have hterms := Token.Tidy.commaSeparated
      (List.forall_mem_map.2 fun term (_ : term ∈ s.order) => hterm term)
    simp [Token.Plain, hterms]

/-- A `SELECT` is tidy. -/
theorem tidy_tokens (d : Dialect) : Token.Tidy (s.tokens d none) := by
  refine Token.Tidy.spaced ?_
  simp only [List.forall_mem_append]
  exact ⟨⟨⟨⟨⟨⟨⟨d.tidy_leadingHint, by simp [Token.Plain]⟩, s.window.tidy_topPhrases d⟩,
    by simp [Token.Plain, s.tidy_projection]⟩, s.table.tidy_phrases d⟩,
    s.filter.tidy_wherePhrases⟩, s.tidy_orderPhrases⟩, s.window.tidy_endPhrases d⟩

end Select

/-- A `SELECT COUNT(*)` is tidy. -/
theorem Count.tidy_tokens (c : Count) (d : Dialect) : Token.Tidy (c.tokens d none) := by
  have hword : Token.Tidy [.word .count] := Token.tidy_singleton.2 trivial
  have hcount := hword.append_parenthesized (Token.tidy_singleton (t := .mark .star) |>.2 trivial)
  refine Token.Tidy.spaced ?_
  simp only [List.forall_mem_append]
  exact ⟨⟨⟨d.tidy_leadingHint, by simpa [Token.Plain] using hcount⟩, c.table.tidy_phrases d⟩,
    c.filter.tidy_wherePhrases⟩

namespace Upsert

variable (u : Upsert) (d : Dialect)

/-- A list of names is tidy. -/
theorem tidy_nameList (names : List String) : Token.Tidy (nameList names) :=
  Token.Tidy.commaSeparated (by simp [Token.Plain])

/-- A column behind a dot is tidy. -/
theorem tidy_dotted (t : Token) (ht : t.Plain) (column : String) :
    Token.Tidy [t, .mark .dot, .ident column] :=
  (Token.tidy_singleton.2 ht).append_cons rfl (Token.tidy_singleton.2 trivial)

/-- A column of an alias is tidy. -/
theorem tidy_aliased (table column : String) : Token.Tidy (aliased table column) :=
  tidy_dotted (.ident table) trivial column

/-- The assignment of a tidy value is tidy. -/
theorem tidy_assignment {column : String} {value : List Token} (h : Token.Tidy value) :
    Token.Tidy (assignment column value) :=
  Token.Tidy.spaced (by simp [Token.Plain, h])

/-- Assignments of tidy values are tidy. -/
theorem tidy_assignments (columns : List String) {value : String → List Token}
    (h : ∀ c, Token.Tidy (value c)) : Token.Tidy (assignments columns value) :=
  Token.Tidy.commaSeparated (List.forall_mem_map.2 fun c _ => tidy_assignment (h c))

/-- The phrases of a new row of tidy values are tidy. -/
theorem tidy_valuesPhrases (columns : List String) {values : List (List Token)}
    (h : ∀ v ∈ values, Token.Tidy v) : ∀ p ∈ valuesPhrases columns values, Token.Tidy p := by
  unfold valuesPhrases
  split
  · simp [Token.Plain]
  · simp [Token.Plain, (tidy_nameList columns).parenthesized,
      (Token.Tidy.commaSeparated h).parenthesized]

/-- The bound values as a row source are tidy. -/
theorem tidy_source : Token.Tidy u.source := by
  have hitem (item : String × Nat) :
      Token.Tidy (Token.spaced [[.slot item.2], [.word .as], [.ident item.1]]) :=
    Token.Tidy.spaced (by simp [Token.slot, Token.Plain])
  have hitems := Token.Tidy.commaSeparated
    (List.forall_mem_map.2 fun item (_ : item ∈ u.bound.zipIdx) => hitem item)
  exact (Token.Tidy.spaced (by simp [Token.Plain, hitems])).parenthesized

/-- The condition on which rows match is tidy. -/
theorem tidy_matching : Token.Tidy u.matching := by
  have hequality (q : String) :
      Token.Tidy (Token.spaced [aliased targetAlias q, [.mark .eq], aliased sourceAlias q]) :=
    Token.Tidy.spaced (by simp [tidy_aliased, Token.Plain])
  exact (Token.Tidy.joined .and
    (List.forall_mem_map.2 fun q (_ : q ∈ u.qualifiers) => hequality q)).parenthesized

/-- The `INSERT` of an upsert is tidy. -/
theorem tidy_insertPhrases : ∀ p ∈ u.insertPhrases, Token.Tidy p := by
  have hplaceholders : ∀ p ∈ u.placeholders, Token.Tidy p := by
    simp [placeholders, Token.slot, Token.Plain]
  exact List.forall_mem_append.2 ⟨by simp [TableName.token, Token.Plain],
    tidy_valuesPhrases u.inserted hplaceholders⟩

/-- A `MERGE` is tidy. -/
theorem tidy_mergeTokens : Token.Tidy (u.mergeTokens d none) := by
  have hvalues : ∀ v ∈ u.inserted.map (aliased sourceAlias), Token.Tidy v :=
    List.forall_mem_map.2 fun c _ => tidy_aliased sourceAlias c
  refine Token.Tidy.append_cons (Token.Tidy.spaced ?_) rfl Token.tidy_nil
  simp only [List.forall_mem_append]
  -- the fixed beginning, the table, source and condition, the new row, the update, the result
  refine ⟨⟨⟨⟨⟨by simp [Token.Plain], u.table.tidy_phrases d⟩,
    by simp [Token.Plain, u.tidy_source, u.tidy_matching]⟩, tidy_valuesPhrases _ hvalues⟩, ?_⟩, ?_⟩
  · split
    · simp
    · simp [Token.Plain, tidy_assignments _ (tidy_aliased sourceAlias)]
  · split
    · simp [Token.Plain, tidy_dotted (.word .inserted) trivial]
    · simp

/-- An `INSERT … ON CONFLICT …` is tidy. -/
theorem tidy_onConflictTokens : Token.Tidy (u.onConflictTokens d none) := by
  have hexcluded (column : String) : Token.Tidy [.word .excluded, .mark .dot, .ident column] :=
    tidy_dotted (.word .excluded) trivial column
  refine Token.Tidy.spaced ?_
  simp only [List.forall_mem_append]
  -- a row of default values cannot be in conflict, so nothing is written about one
  refine ⟨⟨⟨d.tidy_leadingHint, u.tidy_insertPhrases⟩, ?_⟩, ?_⟩
  · split
    · simp
    · refine List.forall_mem_append.2
        ⟨by simp [Token.Plain, (tidy_nameList u.qualifiers).parenthesized], ?_⟩
      split
      · simp [Token.Plain]
      · simp [Token.Plain, tidy_assignments _ hexcluded]
  · split
    · split <;> simp [Token.Plain]
    · simp

/-- An `INSERT … ON DUPLICATE KEY UPDATE …` is tidy. -/
theorem tidy_onDuplicateKeyTokens : Token.Tidy u.onDuplicateKeyTokens := by
  have hvalue (column : String) :
      Token.Tidy (.word .values :: Token.parenthesized [.ident column]) :=
    (Token.tidy_singleton (t := .word .values) |>.2 trivial).append_parenthesized
      (Token.tidy_singleton.2 trivial)
  have hkept (column : String) : Token.Tidy (assignment column [.ident column]) :=
    tidy_assignment (Token.tidy_singleton.2 trivial)
  refine Token.Tidy.spaced (List.forall_mem_append.2 ⟨u.tidy_insertPhrases, ?_⟩)
  split
  · simp
  · -- with nothing to update, the first qualifier is assigned to itself
    have hupdates := tidy_assignments u.updated hvalue
    have hqualifier := Token.Tidy.commaSeparated
      (List.forall_mem_map.2 fun q (_ : q ∈ u.qualifiers.take 1) => hkept q)
    split <;> simp [Token.Plain, hupdates, hqualifier, -List.map_take]

/-- An upsert is tidy. -/
theorem tidy_tokens : Token.Tidy (u.tokens d none) := by
  unfold tokens
  split
  · exact u.tidy_mergeTokens d
  · exact u.tidy_onConflictTokens d
  · exact u.tidy_onDuplicateKeyTokens

end Upsert

/-- A command without a hint is tidy. -/
theorem Command.tidy_tokens (c : Command) (d : Dialect) : Token.Tidy (c.tokens d none) := by
  cases c with
  | select s => exact s.tidy_tokens d
  | count c => exact c.tidy_tokens d
  | upsert u => exact u.tidy_tokens d

namespace Builder

variable {b : Builder} {r : Request} {types types' : TypeChain} {st : Statement}

/-- A statement has no hint unless its request has one. -/
theorem hint_eq_none (h : b.run r types = (.ok st, types')) (hhint : r.hint = none) :
    st.hint = none := by
  obtain ⟨-, hcommand⟩ := run_eq_ok h
  cases hop : r.operation with
  | query | page | count =>
    rw [hop] at hcommand
    exact hcommand.1.trans hhint
  | merge spec =>
    rw [hop, hhint] at hcommand
    exact hcommand.1.trans (ite_self none)

/-- Names and strings cannot change the structure of a statement: the text of a statement without a
hint is split, by the rules of its dialect, into the lexemes of its tokens. -/
theorem split_sql (h : b.run r types = (.ok st, types')) (hhint : r.hint = none) :
    Lexeme.split b.dialect st.sql.toList =
      some (st.tokens.flatMap (Token.lexemes b.dialect)) := by
  have hdialect : st.dialect = b.dialect := (run_eq_ok h).1
  rw [Statement.sql, Statement.tokens, hint_eq_none h hhint, hdialect]
  exact Token.split_renderAll (st.command.tidy_tokens b.dialect)

/-- A quote in the name of a column and as an escape character stays where it is. -/
theorem split_sql_quotes :
    let e : Entity :=
      { name := "E", table := { name := "t\" FROM \"u" },
        properties := [{ name := "A", column := some "c\", '", kind := .text }] }
    let c : Condition := (Condition.like { name := "A" } "x").withEscape '\''
    let r : Request := { entity := e, operation := .count, filter := .all [c] }
    ∃ st types', run { dialect := .sqlite } r {} = (.ok st, types') ∧
      st.sql = "SELECT COUNT(*) AS \"CountValue\" FROM \"t\"\" FROM \"\"u\"" ++
        " WHERE \"c\"\", '\" LIKE @p0 ESCAPE ''''" ∧
      Lexeme.split .sqlite st.sql.toList = some
        [.word "SELECT".toList, .space, .word "COUNT".toList, .punctuation ['('],
          .punctuation ['*'], .punctuation [')'], .space, .word "AS".toList, .space,
          .identifier "CountValue", .space, .word "FROM".toList, .space,
          .identifier "t\" FROM \"u", .space, .word "WHERE".toList, .space, .identifier "c\", '",
          .space, .word "LIKE".toList, .space, .placeholder "@p0".toList, .space,
          .word "ESCAPE".toList, .space, .string "'"] := by
  intro e c r
  have hrun : run { dialect := .sqlite } r {} = (.ok _, _) := rfl
  exact ⟨_, _, hrun, by decide, (split_sql hrun rfl).trans (by decide)⟩

end Builder

end FilterSql
