import FilterSql.Proofs.Splitting
import FilterSql.Proofs.Vocabulary

/-!
# What a hint changes

A hint is text of the caller that is passed on as it is. Where it stands is decided apart for reading
and for writing statements, by the place that a dialect has for hints and by whether its upserts take
any. A hint must change nothing else: neither whether a request is built, nor its parameters, nor a
character of the text around it.

## Main definitions

* `Token.tables`: the tables that some tokens name;
* `Statement.HintedBehind`: a text is that of a statement with a hint behind its table;
* `Builder.InsertsHint`: a text is that of a statement with a hint in the place for it.

## Main results

* `Command.tables_tokens`: a command names one table;
* `Command.exists_tokens_eq`: where a hint comes into a command that names its table behind a word;
* `Builder.run_hint`: a hint is handed on to the statement, and nothing else depends on it;
* `Builder.run_hinted`: the statement with a hint and the one without.
-/

namespace FilterSql

namespace Token

/-- Whether a token names a table. -/
def isTable : Token → Bool
  | qualified _ _ => true
  | _ => false

/-- The tables that some tokens name. -/
def tables (ts : List Token) : List Token :=
  ts.filter isTable

/-- A token that names no table counts for nothing. -/
@[simp]
theorem tables_cons (t : Token) (ts : List Token) :
    tables (t :: ts) = if t.isTable then t :: tables ts else tables ts :=
  List.filter_cons

/-- No tokens name no table. -/
@[simp]
theorem tables_nil : tables [] = [] := rfl

/-- The tables of two parts are those of the first and then those of the second. -/
@[simp]
theorem tables_append (ts us : List Token) : tables (ts ++ us) = tables ts ++ tables us :=
  List.filter_append ts us

/-- Tokens of conditions name no table. -/
theorem InCondition.isTable_eq_false {t : Token} (h : t.InCondition) : t.isTable = false := by
  cases t with
  | qualified schema name => exact h.elim
  | _ => rfl

variable {phrases : List (List Token)}

/-- A separator that names no table adds none. -/
theorem tables_intercalate {sep : List Token} (h : tables sep = []) :
    tables (sep.intercalate phrases) = phrases.flatMap tables :=
  collect_intercalate tables_append h

/-- Blanks between phrases name no table. -/
@[simp]
theorem tables_spaced : tables (spaced phrases) = phrases.flatMap tables :=
  tables_intercalate rfl

/-- Commas between phrases name no table. -/
@[simp]
theorem tables_commaSeparated : tables (commaSeparated phrases) = phrases.flatMap tables :=
  tables_intercalate rfl

/-- Parentheses name no table. -/
@[simp]
theorem tables_parenthesized (phrase : List Token) :
    tables (parenthesized phrase) = tables phrase := by
  simp [parenthesized, isTable]

/-- Phrases with blanks between them are the first one, and each of the others behind a blank. -/
theorem spaced_cons (p : List Token) (phrases : List (List Token)) :
    spaced (p :: phrases) = p ++ phrases.flatMap (space :: ·) := by
  induction phrases generalizing p with
  | nil => simp [spaced]
  | cons q phrases ih =>
    rw [spaced, List.intercalate_cons_cons, ← spaced, ih]
    simp

end Token

open Token

/-! ### The table of a statement -/

/-- The condition of a statement names no table. -/
@[simp]
theorem Group.tables_wherePhrases (g : Group Test) : g.wherePhrases.flatMap tables = [] := by
  rw [List.flatMap_eq_nil_iff]
  intro p hp
  rw [tables, List.filter_eq_nil_iff]
  intro t ht
  obtain rfl | h := g.inCondition_wherePhrases p hp t ht
  · simp [isTable]
  · simp [h.isTable_eq_false]

/-- The clause of the wanted rows names no table. -/
theorem Window.tables_phrases (w : Window) (d : Dialect) :
    (w.topPhrases d).flatMap tables = [] ∧ (w.endPhrases d).flatMap tables = [] := by
  cases w <;> cases d <;>
    simp [topPhrases, endPhrases, Dialect.hasTop, Dialect.windowPhrases, isTable]

/-- The table of a statement is named once, with or without a hint. -/
@[simp]
theorem TableName.tables_phrases (t : TableName) (d : Dialect) (hint : Option String) :
    (t.phrases d hint).flatMap tables = [t.token] := by
  unfold phrases
  split <;> simp [token, isTable]

/-- A hint in front of a statement names no table. -/
@[simp]
theorem Dialect.tables_leadingHint (d : Dialect) (hint : Option String) :
    (d.leadingHint hint).flatMap tables = [] := by
  unfold leadingHint
  split <;> simp [isTable]

/-- A `SELECT` names one table. -/
theorem Select.tables_tokens (s : Select) (d : Dialect) (hint : Option String) :
    tables (s.tokens d hint) = [s.table.token] := by
  have hprojection : tables s.projection = [] := by
    unfold projection
    split <;> simp [List.flatMap_map, isTable]
  have horder : s.orderPhrases.flatMap tables = [] := by
    unfold orderPhrases
    split <;> simp [List.flatMap_map, isTable]
  obtain ⟨htop, hend⟩ := s.window.tables_phrases d
  simp [tokens, hprojection, horder, htop, hend, isTable]

/-- A `SELECT COUNT(*)` names one table. -/
theorem Count.tables_tokens (c : Count) (d : Dialect) (hint : Option String) :
    tables (c.tokens d hint) = [c.table.token] := by
  simp [tokens, isTable]

namespace Upsert

variable (u : Upsert)

/-- A list of names names no table. -/
@[simp]
theorem tables_nameList (names : List String) : tables (nameList names) = [] := by
  simp [nameList, List.flatMap_map, isTable]

/-- A `MERGE` names one table. -/
theorem tables_mergeTokens (d : Dialect) (hint : Option String) :
    tables (u.mergeTokens d hint) = [u.table.token] := by
  have hsource : tables u.source = [] := by
    simp [source, List.flatMap_map, slot, isTable]
  have hmatching : tables u.matching = [] := by
    rw [matching, tables_parenthesized, tables_intercalate (by simp [isTable])]
    simp [List.flatMap_map, aliased, isTable]
  have hvalues : (valuesPhrases u.inserted (u.inserted.map (aliased sourceAlias))).flatMap
      tables = [] := by
    unfold valuesPhrases
    split <;> simp [List.flatMap_map, aliased, isTable]
  have hassigned : tables (assignments u.updated (aliased sourceAlias)) = [] := by
    simp [assignments, assignment, List.flatMap_map, aliased, isTable]
  unfold mergeTokens
  simp only [tables_append, tables_spaced, List.flatMap_append, hvalues]
  -- what is left besides source and condition are the update and the reported column
  cases hupdated : u.updated <;> cases u.result <;> rw [hupdated] at hassigned <;>
    simp [hsource, hmatching, hassigned, isTable]

end Upsert

/-! ### The place of a hint -/

/-- The tokens of a hint behind a table. -/
def Dialect.hintBehind (d : Dialect) (hint : Option String) : List Token :=
  match hint, d.hintPosition with
  | some h, .afterTable => [space, .raw h]
  | _, _ => []

/-- The phrases of a table are the table and the hint behind it. -/
theorem TableName.flatMap_phrases (t : TableName) (d : Dialect) (hint : Option String) :
    (t.phrases d hint).flatMap (space :: ·) = [space, t.token] ++ d.hintBehind hint := by
  unfold phrases Dialect.hintBehind
  cases hint with
  | none => rfl
  | some h => cases d.hintPosition <;> rfl

/-- Where hints stand behind tables, none stands in front of a statement. -/
theorem Dialect.leadingHint_eq_nil {d : Dialect} (hd : d.hintPosition = .afterTable)
    (hint : Option String) : d.leadingHint hint = [] := by
  unfold leadingHint
  rw [hd]
  cases hint <;> rfl

/-- Phrases with a table among them are the tokens in front of the table, the table with its hint,
and the tokens behind it. -/
theorem Token.spaced_phrases (first : List Token) (before : List (List Token)) (w : Keyword)
    (t : TableName) (d : Dialect) (hint : Option String) (after : List (List Token)) :
    spaced (first :: before ++ [[.word w]] ++ t.phrases d hint ++ after) =
      (first ++ before.flatMap (space :: ·) ++ [space]) ++ [.word w, space, t.token] ++
        (d.hintBehind hint ++ after.flatMap (space :: ·)) := by
  simp [spaced_cons, TableName.flatMap_phrases]

/-- The word that the table of a command stands behind. -/
def Command.tableWord : Command → Keyword
  | select _ | count _ => .from
  | upsert _ => .into

/-- The table of a command. -/
def Command.table : Command → TableName
  | select s => s.table
  | count c => c.table
  | upsert u => u.table

namespace Command

variable {c : Command} {d : Dialect}

/-- A command that reads rows, or that upserts by `MERGE`, names one table. -/
theorem tables_tokens (hc : (∃ u, c = .upsert u) → d.upsertStyle = .merge) (hint : Option String) :
    tables (c.tokens d hint) = [c.table.token] := by
  cases c with
  | select s => exact s.tables_tokens d hint
  | count c => exact c.tables_tokens d hint
  | upsert u =>
    show tables (u.tokens d hint) = _
    rw [Upsert.tokens, hc ⟨u, rfl⟩]
    exact u.tables_mergeTokens d hint

/-- Where hints stand behind tables, the tokens of such a command are those of its phrases, in which
the hint stands behind the table alone. -/
theorem exists_phrases_eq (hc : (∃ u, c = .upsert u) → d.upsertStyle = .merge)
    (hd : d.hintPosition = .afterTable) :
    ∃ first before after rest, ∀ hint, c.tokens d hint =
      spaced (first :: before ++ [[.word c.tableWord]] ++ c.table.phrases d hint ++ after) ++
        rest := by
  cases c with
  | select s =>
    refine ⟨[.word .select], s.window.topPhrases d ++ [s.projection],
      s.filter.wherePhrases ++ s.orderPhrases ++ s.window.endPhrases d, [], fun hint => ?_⟩
    show s.tokens d hint = _
    rw [Select.tokens, Dialect.leadingHint_eq_nil hd]
    simp [tableWord, table]
  | count c =>
    refine ⟨[.word .select], [.word .count :: parenthesized [.mark .star], [.word .as],
      [.ident countAlias]], c.filter.wherePhrases, [], fun hint => ?_⟩
    show c.tokens d hint = _
    rw [Count.tokens, Dialect.leadingHint_eq_nil hd]
    simp [tableWord, table]
  | upsert u =>
    -- the phrases behind the target are read off the tokens
    refine ⟨[.word .merge], [], ?after, [.mark .semicolon], ?eq⟩
    case eq =>
      intro hint
      show u.tokens d hint = _
      rw [Upsert.tokens, hc ⟨u, rfl⟩]
      simp only [Upsert.mergeTokens, List.append_assoc]
      rfl

/-- Where hints stand behind tables, the tokens of such a command are the same with any hint but for
the hint behind the table. -/
theorem exists_tokens_eq (hc : (∃ u, c = .upsert u) → d.upsertStyle = .merge)
    (hd : d.hintPosition = .afterTable) :
    ∃ before after, ∀ hint, c.tokens d hint =
      before ++ [.word c.tableWord, space, c.table.token] ++ (d.hintBehind hint ++ after) := by
  obtain ⟨first, before, after, rest, htokens⟩ := exists_phrases_eq hc hd
  refine ⟨first ++ before.flatMap (space :: ·) ++ [space],
    after.flatMap (space :: ·) ++ rest, fun hint => ?_⟩
  rw [htokens, spaced_phrases]
  simp

/-- In PostgreSQL a hint stands in front of a command, with one blank behind it. -/
theorem tokens_postgres_some (c : Command) (h : String) :
    c.tokens .postgres (some h) = [.raw h, space] ++ c.tokens .postgres none := by
  -- in each case the first phrase behind the hint is there, so there is a blank in front of it
  cases c with
  | select s =>
    show spaced ([.raw h] :: [.word .select] :: _) = _
    rw [spaced, List.intercalate_cons_cons]
    rfl
  | count c =>
    show spaced ([.raw h] :: [.word .select] :: _) = _
    rw [spaced, List.intercalate_cons_cons]
    rfl
  | upsert u =>
    show spaced ([.raw h] :: [.word .insert] :: _) = _
    rw [spaced, List.intercalate_cons_cons]
    rfl

end Command

/-- A text is that of a statement with a blank and the hint `h` right behind the table `t`, which
stands behind the word `w` and is the only table that the statement names. -/
def Statement.HintedBehind (st : Statement) (w : Keyword) (t : TableName) (h sql : String) : Prop :=
  ∃ before after, st.tokens = before ++ [.word w, space, t.token] ++ after ∧
    Token.tables st.tokens = [t.token] ∧
    st.sql = renderAll st.dialect (before ++ [.word w, space, t.token]) ++
      renderAll st.dialect after ∧
    sql = renderAll st.dialect (before ++ [.word w, space, t.token]) ++ (" " ++ h) ++
      renderAll st.dialect after

/-- A command with a hint has the text of the command without one, with the hint behind its
table. -/
theorem Statement.hintedBehind {c : Command} {d : Dialect} {ps : List Parameter} (h : String)
    (hc : (∃ u, c = .upsert u) → d.upsertStyle = .merge) (hd : d.hintPosition = .afterTable) :
    HintedBehind { dialect := d, hint := none, command := c, parameters := ps } c.tableWord c.table h
      (sql { dialect := d, hint := some h, command := c, parameters := ps }) := by
  obtain ⟨before, after, htokens⟩ := Command.exists_tokens_eq hc hd
  have hnone : c.tokens d none = before ++ [.word c.tableWord, space, c.table.token] ++ after :=
    htokens none
  have hsome : c.tokens d (some h) =
      before ++ [.word c.tableWord, space, c.table.token] ++ ([space, .raw h] ++ after) := by
    rw [htokens]
    simp only [Dialect.hintBehind, hd]
  have hraw : renderAll d [space, .raw h] = " " ++ h := by
    simp [renderAll, render, Mark.text]
  refine ⟨before, after, hnone, Command.tables_tokens hc none, ?_, ?_⟩
  · show renderAll d (c.tokens d none) = _
    rw [hnone, renderAll_append]
  · show renderAll d (c.tokens d (some h)) = _
    rw [hsome, renderAll_append, renderAll_append _ [space, .raw h], hraw, ← String.append_assoc]

/-- In PostgreSQL a command with a hint has the text of the command without one behind the hint and
a blank. -/
theorem Statement.sql_postgres_some (c : Command) (ps : List Parameter) (h : String) :
    sql { dialect := .postgres, hint := some h, command := c, parameters := ps } =
      h ++ " " ++ sql { dialect := .postgres, hint := none, command := c, parameters := ps } := by
  have hraw : renderAll .postgres [.raw h, space] = h ++ " " := by
    simp [renderAll, render, Mark.text]
  show renderAll .postgres (c.tokens .postgres (some h)) = _
  rw [c.tokens_postgres_some, renderAll_append, hraw]
  rfl

/-! ### Requests with a hint -/

namespace Builder

variable (b : Builder) (r : Request)

/-- The hint that the statement of a request carries: an upsert has none where the dialect's upserts
take none. -/
def statementHint (hint : Option String) : Option String :=
  match r.operation with
  | .merge _ => if b.dialect.upsertTakesHints then hint else none
  | _ => hint

/-- A hint is handed on to the statement. Nothing else in the outcome depends on it. -/
theorem run_hint (types : TypeChain) (hint : Option String) :
    b.run { r with hint } types =
      match b.run { r with hint := none } types with
      | (.ok st, types') => (.ok { st with hint := b.statementHint r hint }, types')
      | (.error e, types') => (.error e, types') := by
  obtain ⟨entity, operation, columns, filter, order, top, _⟩ := r
  -- the parts of a statement are computed without looking at the hint
  have hselect : b.select ⟨entity, operation, columns, filter, order, top, hint⟩ =
      b.select ⟨entity, operation, columns, filter, order, top, none⟩ := rfl
  have hcount : b.count ⟨entity, operation, columns, filter, order, top, hint⟩ =
      b.count ⟨entity, operation, columns, filter, order, top, none⟩ := rfl
  unfold run build statementHint
  cases operation with
  | query | page =>
    simp only [Building.run_bind, hselect]
    rcases (b.select _).run.run types with ⟨_ | _, _⟩ <;> rfl
  | count =>
    simp only [Building.run_bind, hcount]
    rcases (b.count _).run.run types with ⟨_ | _, _⟩ <;> rfl
  | merge spec =>
    simp only [Building.run_bind]
    rcases (spec.plan b.dialect (b.scope entity)).run.run types with ⟨_ | _, _⟩
    · rfl
    · cases b.dialect.upsertTakesHints <;> rfl

/-- The table of a statement is that of the entity. It stands behind `INTO` in a statement that
writes rows, and behind `FROM` in one that reads them. -/
theorem run_table {b : Builder} {r : Request} {types types' : TypeChain} {st : Statement}
    (h : b.run r types = (.ok st, types')) :
    st.command.table = r.entity.table ∧
      match r.operation with
      | .merge _ => st.command.tableWord = .into
      | _ => st.command.tableWord = .from ∧ ¬∃ u, st.command = .upsert u := by
  obtain ⟨-, hcommand⟩ := run_eq_ok h
  cases hop : r.operation with
  | query | page =>
    rw [hop] at hcommand
    obtain ⟨-, s, hs, hselect⟩ := hcommand
    rw [hs]
    exact ⟨(select_eq_ok hselect).2.2.1, rfl, nofun⟩
  | count =>
    rw [hop] at hcommand
    obtain ⟨-, c, hc, hcount⟩ := hcommand
    rw [hc]
    exact ⟨(count_eq_ok hcount).1, rfl, nofun⟩
  | merge spec =>
    rw [hop] at hcommand
    obtain ⟨-, u, hu, hplanned⟩ := hcommand
    obtain ⟨-, -, -, -, hplan⟩ := MergeSpec.plan_eq_ok hplanned
    rw [hu]
    exact ⟨(congrArg (·.1.table) hplan).symm, rfl⟩

/-- A text is that of the statement of a request with the hint `h` in the place that the dialect has
for it: in front of the statement in PostgreSQL, and in the other dialects behind the table. Upserts
have no place for a hint in SQLite and in MySQL. -/
def InsertsHint (h : String) (st : Statement) (sql : String) : Prop :=
  match b.dialect, r.operation with
  | .postgres, _ => sql = h ++ " " ++ st.sql
  | .tsql, .merge _ => st.HintedBehind .into r.entity.table h sql
  | .sqlite, .merge _ | .mysql, .merge _ => sql = st.sql
  | _, _ => st.HintedBehind .from r.entity.table h sql

/-- A hint is inserted once and changes nothing else. With a hint a request is built when it is built
without one, and fails with the same error when it does not; the type chain is asked the same. The
parameters are the same, and the text is that of the statement without a hint with the hint, as it
is, in the place that the dialect has for it. -/
theorem run_hinted (types : TypeChain) (h : String) :
    let free := b.run { r with hint := none } types
    let hinted := b.run { r with hint := some h } types
    hinted.2 = free.2 ∧
      ((∃ e, free.1 = .error e ∧ hinted.1 = .error e) ∨
        ∃ st st', free.1 = .ok st ∧ hinted.1 = .ok st' ∧ st'.parameters = st.parameters ∧
          b.InsertsHint r h st st'.sql) := by
  intro free hinted
  have hhinted : hinted = _ := b.run_hint r types (some h)
  change hinted = match free with | (.ok st, types') => _ | (.error e, types') => _ at hhinted
  rcases hfree : free with ⟨e | st, types'⟩
  · rw [hfree] at hhinted
    rw [hhinted]
    exact ⟨rfl, .inl ⟨e, rfl, rfl⟩⟩
  rw [hfree] at hhinted
  rw [hhinted]
  refine ⟨rfl, .inr ⟨st, _, rfl, rfl, rfl, ?_⟩⟩
  have hdialect : st.dialect = b.dialect := (run_eq_ok hfree).1
  have hnone : st.hint = none := hint_eq_none hfree rfl
  obtain ⟨htable, hword⟩ := run_table hfree
  -- of the four parts of the statement only the hint is another one
  obtain ⟨d, _, c, ps⟩ := st
  obtain rfl : d = b.dialect := hdialect
  obtain rfl : _ = none := hnone
  unfold InsertsHint statementHint
  cases hop : r.operation with
  | query | page | count =>
    rw [hop] at hword
    obtain ⟨hword, hreads⟩ := hword
    cases b.dialect with
    | postgres => exact Statement.sql_postgres_some c ps h
    | sqlite | tsql | mysql =>
      rw [← hword, ← htable]
      exact Statement.hintedBehind h (fun hwrites => absurd hwrites hreads) rfl
  | merge spec =>
    rw [hop] at hword
    cases b.dialect with
    | postgres => exact Statement.sql_postgres_some c ps h
    | tsql =>
      rw [← hword, ← htable]
      exact Statement.hintedBehind h (fun _ => rfl) rfl
    | sqlite | mysql => rfl

end Builder

end FilterSql
