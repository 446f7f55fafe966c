import FilterSql.Proofs.Grammar
import FilterSql.Proofs.Merging
import FilterSql.Proofs.Splitting

/-!
# Statements are sentences of their dialects

The pieces of a statement are put together from optional parts, and whether a list is empty depends
on the values of a record, on the keys and on the options. Still every statement without a hint is
one that its dialect accepts, but for one case: MySQL cannot insert a row of default values.

## Main definitions

* `MergeSpec.InsertsNothing`: everything in a record is left to the database.

## Main results

* `Select.tokens_mem`, `Count.tokens_mem`: statements that read rows are sentences;
* `Upsert.onConflictTokens_mem`, `Upsert.mergeTokens_mem`: so are upserts of three dialects;
* `Upsert.onDuplicateKeyTokens_mem_iff`: those of MySQL are when they insert something;
* `Builder.tokens_mem_sentence_iff`: which statements are sentences.
-/

namespace FilterSql

open Grammar Language

/-! ### Reading rows -/

/-- Without a hint, nothing stands in front of a statement. -/
@[simp]
theorem Dialect.leadingHint_none (d : Dialect) : d.leadingHint none = [] := rfl

/-- Without a hint, a table stands alone. -/
@[simp]
theorem TableName.phrases_none (t : TableName) (d : Dialect) : t.phrases d none = [[t.token]] := rfl

/-- A table is named. -/
@[simp]
theorem TableName.token_mem (t : TableName) : [t.token] ∈ table :=
  qualified_mem_table t.schema t.name

namespace Window

variable (w : Window) (d : Dialect)

/-- A row limit in front of the columns is only written in T-SQL. -/
theorem words_topPhrases_mem : Token.words (w.topPhrases d) ∈ beginning d := by
  cases w with
  | all | page => cases d <;> first | exact nil_mem_optional | rfl
  | first n =>
    cases d with
    | tsql =>
      have hcount : Token.blankless (Token.parenthesized [.integer n]) ∈ enclosed number :=
        parenthesized_mem_enclosed (natCast_mem_number n)
      exact mem_optional (append_mem_mul (a := [Token.word .top]) rfl hcount)
    | sqlite | postgres | mysql => rfl

/-- In T-SQL only a page is written at the end. -/
theorem words_endPhrases_tsql_mem : Token.words (w.endPhrases .tsql) ∈ optional offsetFetch := by
  cases w with
  | all | first => exact nil_mem_optional
  | page p =>
    refine mem_optional ?_
    simp only [offsetFetch, mul_assoc]
    change [Token.word .offset, .integer p.offset, .word .rows, .word .fetch, .word .next,
      .integer p.limit, .word .rows, .word .only] ∈ _
    simp

/-- In the other dialects every row limit is written at the end. -/
theorem words_endPhrases_mem (h : d ≠ .tsql) :
    Token.words (w.endPhrases d) ∈ optional limit := by
  cases w with
  | all => exact nil_mem_optional
  | first n =>
    have hwords : Token.words ((first n).endPhrases d) = [.word .limit, .integer n] := by
      cases d <;> first | rfl | exact absurd rfl h
    rw [hwords]
    refine mem_optional ?_
    simp only [limit, mul_assoc]
    simp
  | page p =>
    have hwords : Token.words ((page p).endPhrases d) =
        [.word .limit, .integer p.limit] ++ [.word .offset, .integer p.offset] := by
      cases d <;> first | rfl | exact absurd rfl h
    have hoffset : [.word .offset, .integer p.offset] ∈ optional (word .offset * number) :=
      mem_optional (by simp)
    rw [hwords]
    exact mem_optional (append_mem_mul (by simp) hoffset)

end Window

namespace Select

variable (s : Select)

/-- The columns of the result are a star or a list of names. -/
theorem projection_mem : Token.blankless s.projection ∈ mark .star + listed name := by
  unfold projection
  cases s.columns with
  | nil => exact .inl rfl
  | cons c columns =>
    refine .inr (commaSeparated_mem_listed (List.cons_ne_nil _ _) ?_)
    exact List.forall_mem_map.2 fun c _ => ident_mem_name c

/-- A term of an ordering is a name with a direction. -/
theorem term_mem (column : String) (direction : Direction) :
    Token.blankless (Token.spaced [[.ident column], [.word direction.keyword]]) ∈
      name * optional (word .asc + word .desc) := by
  rw [Token.blankless_spaced_eq_words]
  refine append_mem_mul (ident_mem_name column) (mem_optional ?_)
  cases direction with
  | ascending => exact .inl rfl
  | descending => exact .inr rfl

/-- The ordering is written when there is one. -/
theorem words_orderPhrases_mem (h : s.order ≠ []) : Token.words s.orderPhrases ∈ orderBy := by
  unfold orderPhrases
  cases horder : s.order with
  | nil => exact absurd horder h
  | cons term order =>
    have hterms : Token.blankless (Token.commaSeparated ((term :: order).map fun term =>
        Token.spaced [[.ident term.1], [.word term.2.keyword]])) ∈
        listed (name * optional (word .asc + word .desc)) := by
      refine commaSeparated_mem_listed (List.cons_ne_nil _ _) ?_
      exact List.forall_mem_map.2 fun term _ => term_mem term.1 term.2
    rw [← List.append_nil (Token.blankless _)] at hterms
    exact append_mem_mul (a := [Token.word .orderBy]) rfl hterms

/-- The ordering and the wanted rows end a `SELECT`, if every page is ordered where it has to
be. -/
theorem words_ending_mem {d : Dialect}
    (hpage : d = .tsql → s.order = [] → ∀ p, s.window ≠ .page p) :
    Token.words s.orderPhrases ++ Token.words (s.window.endPhrases d) ∈ ending d := by
  by_cases horder : s.order = []
  · have hwords : Token.words s.orderPhrases = [] := by rw [orderPhrases, horder]; rfl
    rw [hwords, List.nil_append]
    cases d with
    | tsql =>
      -- without an ordering there is no page, so nothing is left to write
      cases hwindow : s.window with
      | all | first => exact nil_mem_optional
      | page p => exact absurd hwindow (hpage rfl horder p)
    | sqlite | postgres | mysql =>
      exact append_mem_mul nil_mem_optional (s.window.words_endPhrases_mem _ nofun)
  · have hterms := s.words_orderPhrases_mem horder
    cases d with
    | tsql => exact mem_optional (append_mem_mul hterms s.window.words_endPhrases_tsql_mem)
    | sqlite | postgres | mysql =>
      exact append_mem_mul (mem_optional hterms) (s.window.words_endPhrases_mem _ nofun)

/-- A `SELECT` is one of its dialect. -/
theorem tokens_mem {d : Dialect} (hfilter : ∀ t ∈ Node.leavesOf s.filter.children, t.Writable)
    (hpage : d = .tsql → s.order = [] → ∀ p, s.window ≠ .page p) :
    Token.blankless (s.tokens d none) ∈ select d := by
  rw [tokens, Token.blankless_spaced_eq_words, Dialect.leadingHint_none, TableName.phrases_none]
  simp only [Token.words_append, Token.words_cons, Token.words_nil, List.nil_append,
    List.append_nil, List.append_assoc, select, mul_assoc]
  refine append_mem_mul (a := [Token.word .select]) rfl ?_
  refine append_mem_mul (s.window.words_topPhrases_mem d) ?_
  refine append_mem_mul s.projection_mem ?_
  refine append_mem_mul (a := [Token.word .from]) rfl ?_
  refine append_mem_mul (a := [s.table.token]) s.table.token_mem ?_
  exact append_mem_mul (Group.words_wherePhrases_mem hfilter) (s.words_ending_mem hpage)

end Select

/-- A `SELECT COUNT(*)` is one in every dialect. -/
theorem Count.tokens_mem (c : Count) (d : Dialect)
    (hfilter : ∀ t ∈ Node.leavesOf c.filter.children, t.Writable) :
    Token.blankless (c.tokens d none) ∈ count := by
  rw [tokens, Token.blankless_spaced_eq_words, Dialect.leadingHint_none, TableName.phrases_none]
  simp only [Token.words_append, Token.words_cons, Token.words_nil, List.nil_append,
    List.append_nil, List.append_assoc, count, mul_assoc]
  refine append_mem_mul (a := [Token.word .select]) rfl ?_
  refine append_mem_mul (a := [Token.word .count]) rfl ?_
  refine append_mem_mul (a := Token.blankless (Token.parenthesized [Token.mark .star]))
    (parenthesized_mem_enclosed rfl) ?_
  refine append_mem_mul (a := [Token.word .as]) rfl ?_
  refine append_mem_mul (ident_mem_name countAlias) ?_
  refine append_mem_mul (a := [Token.word .from]) rfl ?_
  exact append_mem_mul c.table.token_mem (Group.words_wherePhrases_mem hfilter)

/-! ### Writing rows -/

namespace Upsert

variable {u : Upsert}

/-- Names with commas between them are a list of names. -/
theorem nameList_mem {names : List String} (h : names ≠ []) :
    Token.blankless (nameList names) ∈ listed name :=
  commaSeparated_mem_listed (mt List.map_eq_nil_iff.1 h)
    (List.forall_mem_map.2 fun c _ => ident_mem_name c)

/-- Assignments of values are a list of assignments. -/
theorem assignments_mem {columns : List String} (h : columns ≠ []) {value : String → List Token}
    {l : Language Token} (hvalue : ∀ c, Token.blankless (value c) ∈ l) :
    Token.blankless (assignments columns value) ∈ Grammar.assignments l := by
  refine commaSeparated_mem_listed (mt List.map_eq_nil_iff.1 h) (List.forall_mem_map.2 ?_)
  intro c _
  rw [assignment, Token.blankless_spaced_eq_words, mul_assoc]
  simp only [Token.words_cons, Token.words_nil, List.append_nil]
  exact append_mem_mul (ident_mem_name c)
    (append_mem_mul (a := [Token.mark .eq]) rfl (hvalue c))

/-- A column of an alias is a column of a name. -/
theorem aliased_mem (table column : String) :
    Token.blankless (aliased table column) ∈ columnOf name := by
  rw [columnOf, mul_assoc]
  exact append_mem_mul (ident_mem_name table)
    (append_mem_mul (a := [Token.mark .dot]) rfl (ident_mem_name column))

/-- A new row has columns and values. -/
theorem words_valuesPhrases_mem {columns : List String} {values : List (List Token)}
    {l : Language Token} (hcolumns : columns ≠ []) (hvalues : values ≠ [])
    (h : ∀ v ∈ values, Token.blankless v ∈ l) :
    Token.words (valuesPhrases columns values) ∈ row l := by
  cases columns with
  | nil => exact absurd rfl hcolumns
  | cons c columns =>
    rw [valuesPhrases, row, mul_assoc]
    · simp only [Token.words_cons, Token.words_nil, List.append_nil]
      refine append_mem_mul (parenthesized_mem_enclosed (nameList_mem hcolumns)) ?_
      refine append_mem_mul (a := [Token.word .values]) rfl ?_
      exact parenthesized_mem_enclosed (commaSeparated_mem_listed hvalues h)
    · exact hcolumns

/-- The values that are bound are parameters. -/
theorem words_placeholders_mem (hinserted : u.inserted ≠ []) (hbound : u.bound ≠ []) :
    Token.words (valuesPhrases u.inserted u.placeholders) ∈ row parameter := by
  refine words_valuesPhrases_mem hinserted ?_ ?_
  · simpa [placeholders] using hbound
  · exact List.forall_mem_map.2 fun i _ => slot_mem_parameter i

/-- An `INSERT … ON CONFLICT …` is one in SQLite and in PostgreSQL. -/
theorem onConflictTokens_mem (d : Dialect) (hqualifiers : u.qualifiers ≠ [])
    (hbound : u.inserted ≠ [] → u.bound ≠ []) :
    Token.blankless (u.onConflictTokens d none) ∈ insertOnConflict := by
  rw [onConflictTokens, Token.blankless_spaced_eq_words, Dialect.leadingHint_none, insertPhrases]
  simp only [Token.words_append, Token.words_cons, Token.words_nil, List.nil_append,
    List.append_nil, List.append_assoc, insertOnConflict, mul_assoc]
  refine append_mem_mul (a := [Token.word .insert]) rfl ?_
  refine append_mem_mul (a := [Token.word .into]) rfl ?_
  refine append_mem_mul (a := [u.table.token]) u.table.token_mem ?_
  rw [← List.append_assoc]
  refine append_mem_mul ?_ ?returning
  case returning =>
    cases u.result with
    | none => exact nil_mem_optional
    | some column =>
      dsimp only
      split
      · exact mem_optional (append_mem_mul (a := [Token.word .returning]) rfl (ident_mem_name column))
      · exact nil_mem_optional
  by_cases hinserted : u.inserted = []
  · -- a row of default values cannot be in conflict
    rw [hinserted]
    exact .inr (append_mem_mul (a := [Token.word .default]) rfl rfl)
  · have hexcluded (c : String) : Token.blankless [.word .excluded, .mark .dot, .ident c] ∈
        columnOf (word .excluded) := by
      rw [columnOf, mul_assoc]
      exact append_mem_mul (a := [Token.word .excluded]) rfl
        (append_mem_mul (a := [Token.mark .dot]) rfl (ident_mem_name c))
    rw [if_neg (by simpa using hinserted)]
    simp only [Token.words_append, Token.words_cons, Token.words_nil, List.append_nil,
      List.append_assoc]
    refine .inl (append_mem_mul (words_placeholders_mem hinserted (hbound hinserted)) ?_)
    refine append_mem_mul (a := [Token.word .on]) rfl ?_
    refine append_mem_mul (a := [Token.word .conflict]) rfl ?_
    refine append_mem_mul (parenthesized_mem_enclosed (nameList_mem hqualifiers)) ?_
    refine append_mem_mul (a := [Token.word .do]) rfl ?_
    cases hupdated : u.updated with
    | nil => exact .inl rfl
    | cons c columns =>
      have hassignments := assignments_mem (List.cons_ne_nil c columns) hexcluded
      rw [← List.append_nil (Token.blankless _)] at hassignments
      exact .inr (append_mem_mul (a := [Token.word .update]) rfl
        (append_mem_mul (a := [Token.word .set]) rfl hassignments))

/-- What is assigned to the columns of a row that is there already, in MySQL. -/
theorem values_mem (c : String) :
    Token.blankless (.word .values :: Token.parenthesized [.ident c]) ∈
      word .values * enclosed name + name :=
  .inl (append_mem_mul (a := [Token.word .values]) rfl
    (parenthesized_mem_enclosed (ident_mem_name c)))

/-- An `INSERT … ON DUPLICATE KEY UPDATE …` is one in MySQL, if anything is inserted. -/
theorem onDuplicateKeyTokens_mem (hinserted : u.inserted ≠ []) (hqualifiers : u.qualifiers ≠ [])
    (hbound : u.bound ≠ []) : Token.blankless u.onDuplicateKeyTokens ∈ insertOnDuplicateKey := by
  rw [onDuplicateKeyTokens, Token.blankless_spaced_eq_words, insertPhrases,
    if_neg (by simpa using hinserted)]
  simp only [Token.words_append, Token.words_cons, Token.words_nil, List.append_nil,
    List.append_assoc, insertOnDuplicateKey, mul_assoc]
  refine append_mem_mul (a := [Token.word .insert]) rfl ?_
  refine append_mem_mul (a := [Token.word .into]) rfl ?_
  refine append_mem_mul (a := [u.table.token]) u.table.token_mem ?_
  refine append_mem_mul (words_placeholders_mem hinserted hbound) ?_
  refine append_mem_mul (a := [Token.word .on]) rfl ?_
  refine append_mem_mul (a := [Token.word .duplicate]) rfl ?_
  refine append_mem_mul (a := [Token.word .key]) rfl ?_
  refine append_mem_mul (a := [Token.word .update]) rfl ?_
  cases hupdated : u.updated with
  | nil =>
    -- with nothing to update, the first qualifier is assigned to itself
    cases hfirst : u.qualifiers with
    | nil => exact absurd hfirst hqualifiers
    | cons q qualifiers =>
      exact assignments_mem (List.cons_ne_nil q []) fun c => .inr (ident_mem_name c)
  | cons c columns => exact assignments_mem (List.cons_ne_nil c columns) values_mem

/-- An upsert of MySQL that inserts nothing is no statement of MySQL. -/
theorem onDuplicateKeyTokens_not_mem (hinserted : u.inserted = []) :
    Token.blankless u.onDuplicateKeyTokens ∉ sentence .mysql := by
  have hwords : Token.blankless u.onDuplicateKeyTokens = [.word .insert, .word .into,
      u.table.token, .word .default, .word .values] := by
    rw [onDuplicateKeyTokens, Token.blankless_spaced_eq_words, insertPhrases, hinserted]
    rfl
  rw [hwords]
  -- neither a query nor a count inserts, and behind the table of an `INSERT` come its columns
  simp only [sentence, select, count, upsert, insertOnDuplicateKey, row, enclosed, mul_assoc,
    mem_add, cons_mem_word_mul, cons_mem_table_mul, cons_mem_mark_mul]
  simp

/-- The equalities that rows match on. -/
theorem matching_mem (h : u.qualifiers ≠ []) :
    Token.blankless u.matching ∈ enclosed equalities := by
  refine parenthesized_mem_enclosed ?_
  rw [Token.blankless_intercalate]
  refine intercalate_mem_separated (singleton_mem_word.2 rfl) (by simpa using h) ?_
  rw [List.map_map]
  refine List.forall_mem_map.2 fun q _ => ?_
  rw [Function.comp_apply, Token.blankless_spaced_eq_words, mul_assoc]
  simp only [Token.words_cons, Token.words_nil, List.append_nil]
  exact append_mem_mul (aliased_mem _ q)
    (append_mem_mul (a := [Token.mark .eq]) rfl (aliased_mem _ q))

/-- The bound values as a row source. -/
theorem source_mem (h : u.bound ≠ []) : Token.blankless u.source ∈
    enclosed (word .select * listed (parameter * word .as * name)) := by
  refine parenthesized_mem_enclosed ?_
  rw [Token.blankless_spaced_eq_words]
  simp only [Token.words_cons, Token.words_nil, List.append_nil]
  refine append_mem_mul (a := [Token.word .select]) rfl ?_
  refine commaSeparated_mem_listed (by simpa using h) (List.forall_mem_map.2 ?_)
  intro item _
  rw [Token.blankless_spaced_eq_words, mul_assoc]
  exact append_mem_mul (slot_mem_parameter item.2)
    (append_mem_mul (a := [Token.word .as]) rfl (ident_mem_name item.1))

/-- A new row of a `MERGE` takes its values from the source. -/
theorem words_merged_mem :
    Token.words (valuesPhrases u.inserted (u.inserted.map (aliased sourceAlias))) ∈
      row (columnOf name) + defaultRow := by
  by_cases hinserted : u.inserted = []
  · rw [hinserted]
    exact .inr (append_mem_mul (a := [Token.word .default]) rfl rfl)
  · refine .inl (words_valuesPhrases_mem hinserted (mt List.map_eq_nil_iff.1 hinserted) ?_)
    exact List.forall_mem_map.2 fun c _ => aliased_mem sourceAlias c

/-- What a `MERGE` says about rows that match. -/
theorem words_matched_mem :
    Token.words (match u.updated with
      | [] => []
      | columns => [[.word .when], [.word .matched], [.word .then], [.word .update], [.word .set],
          assignments columns (aliased sourceAlias)]) ∈
      optional (word .when * (word .matched * (word .then * (word .update * (word .set *
        Grammar.assignments (columnOf name)))))) := by
  cases u.updated with
  | nil => exact nil_mem_optional
  | cons c columns =>
    have hassignments := assignments_mem (List.cons_ne_nil c columns) (aliased_mem sourceAlias)
    rw [← List.append_nil (Token.blankless _)] at hassignments
    refine mem_optional (append_mem_mul (a := [Token.word .when]) rfl ?_)
    refine append_mem_mul (a := [Token.word .matched]) rfl ?_
    refine append_mem_mul (a := [Token.word .then]) rfl ?_
    refine append_mem_mul (a := [Token.word .update]) rfl ?_
    exact append_mem_mul (a := [Token.word .set]) rfl hassignments

/-- What a `MERGE` reports. -/
theorem words_output_mem :
    Token.words (match u.result with
      | some column => [[.word .output], [.word .inserted, .mark .dot, .ident column],
          [.word .as], [.ident resultAlias]]
      | none => []) ∈
      optional (word .output * (columnOf (word .inserted) * (word .as * name))) := by
  cases u.result with
  | none => exact nil_mem_optional
  | some column =>
    have hcolumn : Token.blankless [.word .inserted, .mark .dot, .ident column] ∈
        columnOf (word .inserted) := by
      rw [columnOf, mul_assoc]
      exact append_mem_mul (a := [Token.word .inserted]) rfl
        (append_mem_mul (a := [Token.mark .dot]) rfl (ident_mem_name column))
    refine mem_optional (append_mem_mul (a := [Token.word .output]) rfl ?_)
    refine append_mem_mul hcolumn ?_
    exact append_mem_mul (a := [Token.word .as]) rfl (ident_mem_name resultAlias)

/-- A `MERGE` is one in T-SQL. -/
theorem mergeTokens_mem (d : Dialect) (hqualifiers : u.qualifiers ≠ []) (hbound : u.bound ≠ []) :
    Token.blankless (u.mergeTokens d none) ∈ merge := by
  rw [mergeTokens, Token.blankless_append, Token.blankless_spaced_eq_words,
    TableName.phrases_none]
  simp only [Token.words_append, Token.words_cons, Token.words_nil, List.append_nil,
    List.append_assoc, merge, mul_assoc]
  refine append_mem_mul (a := [Token.word .merge]) rfl ?_
  refine append_mem_mul (a := [Token.word .into]) rfl ?_
  refine append_mem_mul (a := [u.table.token]) u.table.token_mem ?_
  refine append_mem_mul (a := [Token.word .as]) rfl ?_
  refine append_mem_mul (ident_mem_name targetAlias) ?_
  refine append_mem_mul (a := [Token.word .using]) rfl ?_
  refine append_mem_mul ?_ ?_
  · exact mul_assoc parameter (word .as) name ▸ source_mem hbound
  refine append_mem_mul (a := [Token.word .as]) rfl ?_
  refine append_mem_mul (ident_mem_name sourceAlias) ?_
  refine append_mem_mul (a := [Token.word .on]) rfl ?_
  refine append_mem_mul (matching_mem hqualifiers) ?_
  refine append_mem_mul (a := [Token.word .when]) rfl ?_
  refine append_mem_mul (a := [Token.word .not]) rfl ?_
  refine append_mem_mul (a := [Token.word .matched]) rfl ?_
  refine append_mem_mul (a := [Token.word .then]) rfl ?_
  refine append_mem_mul (a := [Token.word .insert]) rfl ?_
  refine append_mem_mul words_merged_mem ?_
  refine append_mem_mul words_matched_mem ?_
  exact append_mem_mul words_output_mem rfl

end Upsert

/-! ### Built statements -/

/-- Everything in a record is left to the database: it is null, and belongs to the column whose
values the database generates or to the one that identifies the row. -/
def MergeSpec.InsertsNothing (spec : MergeSpec) (s : Scope) : Prop :=
  ∀ entry ∈ spec.record.entries, entry.2.isNull = true ∧
    (s.entity.identityColumn? = some (s.entity.columnOf s.fieldCase entry.1) ∨
      s.entity.resultColumn? spec.keyColumns = some (s.entity.columnOf s.fieldCase entry.1))

namespace Builder

variable {b : Builder} {r : Request} {types types' : TypeChain} {st : Statement}

/-- A statement that reads rows is built from tests that can be written. -/
theorem writable_filter (h : b.run r types = (.ok st, types'))
    (hreads : ∀ spec, r.operation ≠ .merge spec) :
    ∀ t ∈ Node.leavesOf st.command.filter.children, t.Writable := by
  obtain ⟨children, hfilter, hbind⟩ := run_filter h hreads
  rw [hfilter]
  exact (Node.settled_bindAllFrom hbind).writable

/-- In T-SQL a page is only built with an ordering. -/
theorem window_ne_page {s : Select} {ps : List Parameter}
    (h : (b.select r).run.run types = (.ok (s, ps), types')) (hdialect : b.dialect = .tsql)
    (horder : s.order = []) (p : Page) : s.window ≠ .page p := by
  obtain ⟨hcheck, hwindow, -, -, hs, -⟩ := select_eq_ok h
  intro hpage
  -- a page is the window of a page request only, and such a request is checked for its ordering
  obtain ⟨q, hop⟩ : ∃ q, r.operation = .page q := by
    rw [hpage] at hwindow
    unfold window at hwindow
    split at hwindow
    · next q hop => exact ⟨q, hop⟩
    · split at hwindow <;> cases hwindow
    · cases hwindow
  have hnone : r.order = [] := by
    rw [hs, ordering_fst, List.map_eq_nil_iff] at horder
    exact horder
  rw [checkOrder, hop, hnone, hdialect] at hcheck
  cases hcheck

/-- An upsert that is built has columns to match on and values to bind. -/
theorem upsert_eq_ok {spec : MergeSpec} {u : Upsert} {ps : List Parameter}
    (h : (spec.plan b.dialect (b.scope r.entity)).run.run types = (.ok (u, ps), types')) :
    u.qualifiers ≠ [] ∧ (b.dialect.upsertStyle = .merge → u.bound ≠ []) ∧
      (b.dialect.upsertStyle ≠ .merge → u.bound = u.inserted ∧
        (u.inserted = [] ↔ spec.InsertsNothing (b.scope r.entity))) := by
  obtain ⟨-, hmatch, hcarried, -, hplan⟩ := MergeSpec.plan_eq_ok h
  rw [MergeKeys.plan] at hplan
  obtain rfl := congrArg Prod.fst hplan
  refine ⟨hmatch, fun hstyle => ?_, fun hstyle => ?_⟩
  · -- every column that rows are matched on is written by some member
    obtain ⟨q, hq⟩ := List.exists_mem_of_ne_nil _ hmatch
    have hcarrier := hcarried q hq
    rw [← spec.map_column_located _ types] at hcarrier
    rw [if_pos hstyle]
    exact List.ne_nil_of_mem hcarrier
  · rw [if_neg hstyle]
    refine ⟨rfl, ?_⟩
    rw [List.map_eq_nil_iff, MergeKeys.insertable, List.filter_eq_nil_iff, MergeSpec.located,
      List.forall_mem_map, MergeSpec.InsertsNothing]
    refine forall₂_congr fun entry _ => ?_
    simp [MergeKeys.isGenerated, hstyle, MergeSpec.keys, and_comm, or_iff_not_imp_left]

/-- A statement without a hint is a sentence of its dialect, unless it asks MySQL to insert a row of
default values, for want of anything to insert. -/
theorem tokens_mem_sentence_iff (h : b.run r types = (.ok st, types')) (hhint : r.hint = none) :
    Token.blankless st.tokens ∈ sentence b.dialect ↔
      ¬ (b.dialect = .mysql ∧
        ∃ spec, r.operation = .merge spec ∧ spec.InsertsNothing (b.scope r.entity)) := by
  obtain ⟨hdialect, hcommand⟩ := run_eq_ok h
  have htokens : st.tokens = st.command.tokens b.dialect none := by
    rw [Statement.tokens, hint_eq_none h hhint, hdialect]
  rw [htokens]
  cases hop : r.operation with
  | query | page =>
    rw [hop] at hcommand
    obtain ⟨-, s, hs, hselect⟩ := hcommand
    have hfilter := writable_filter h (by simp [hop])
    rw [hs] at hfilter ⊢
    refine iff_of_true (.inl (.inl (s.tokens_mem hfilter ?_))) (by simp)
    exact window_ne_page hselect
  | count =>
    rw [hop] at hcommand
    obtain ⟨-, c, hc, -⟩ := hcommand
    have hfilter := writable_filter h (by simp [hop])
    rw [hc] at hfilter ⊢
    exact iff_of_true (.inl (.inr (c.tokens_mem b.dialect hfilter))) (by simp)
  | merge spec =>
    rw [hop] at hcommand
    obtain ⟨-, u, hu, hplan⟩ := hcommand
    obtain ⟨hqualifiers, hmerge, hinsert⟩ := upsert_eq_ok hplan
    rw [hu]
    cases hb : b.dialect with
    | tsql =>
      rw [hb] at hmerge
      exact iff_of_true (.inr (u.mergeTokens_mem _ hqualifiers (hmerge rfl))) (by simp)
    | sqlite | postgres =>
      rw [hb] at hinsert
      obtain ⟨hbound, -⟩ := hinsert (by decide)
      exact iff_of_true (.inr (u.onConflictTokens_mem _ hqualifiers fun h => hbound ▸ h)) (by simp)
    | mysql =>
      rw [hb] at hinsert
      obtain ⟨hbound, hnothing⟩ := hinsert (by decide)
      by_cases hinserted : u.inserted = []
      · refine iff_of_false (Upsert.onDuplicateKeyTokens_not_mem hinserted) ?_
        exact not_not.2 ⟨rfl, spec, rfl, hnothing.1 hinserted⟩
      · have hwritten := Upsert.onDuplicateKeyTokens_mem hinserted hqualifiers (hbound ▸ hinserted)
        refine iff_of_true (.inr hwritten) ?_
        rintro ⟨-, spec', hspec, hleft⟩
        obtain rfl := Operation.merge.inj hspec
        exact hinserted (hnothing.2 hleft)

/-- A record with a value for the column that MySQL generates is inserted by a statement of MySQL,
and one without a value there by a statement of SQLite. -/
theorem tokens_mem_sentence_iff_generated :
    let e : Entity := { name := "E", table := { name := "E" }, properties :=
      [{ name := "Id", kind := .int, primary := true, identity := true }] }
    let r (v : Value) : Request :=
      { entity := e, operation := .merge { record := ⟨[("Id", v)]⟩ } }
    (∃ st types, run { dialect := .mysql } (r (.int 1)) {} = (.ok st, types) ∧
      Token.blankless st.tokens ∈ sentence .mysql) ∧
    (∃ st types, run { dialect := .sqlite } (r .null) {} = (.ok st, types) ∧
      Token.blankless st.tokens ∈ sentence .sqlite) := by
  intro e r
  have hmysql : run { dialect := .mysql } (r (.int 1)) {} = (.ok _, _) := rfl
  have hsqlite : run { dialect := .sqlite } (r .null) {} = (.ok _, _) := rfl
  refine ⟨⟨_, _, hmysql, (tokens_mem_sentence_iff hmysql rfl).2 ?_⟩,
    ⟨_, _, hsqlite, (tokens_mem_sentence_iff hsqlite rfl).2 nofun⟩⟩
  rintro ⟨-, spec, hspec, hleft⟩
  obtain rfl := Operation.merge.inj hspec
  exact absurd (hleft _ (List.mem_singleton.2 rfl)).1 (by decide)

/-- A record that gives null to its only column, which MySQL is to generate, is built to a statement
that is none of MySQL: it asks for a row of default values. -/
theorem mysql_default_values :
    let e : Entity := { name := "E", table := { name := "E" }, properties :=
      [{ name := "Id", kind := .int, primary := true, identity := true }] }
    let r : Request := { entity := e, operation := .merge { record := ⟨[("Id", .null)]⟩ } }
    ∃ st types, run { dialect := .mysql } r {} = (.ok st, types) ∧
      st.sql = "INSERT INTO \x60E\x60 DEFAULT VALUES" ∧
      Token.blankless st.tokens ∉ sentence .mysql := by
  intro e r
  have hrun : run { dialect := .mysql } r {} = (.ok _, _) := rfl
  exact ⟨_, _, hrun, by decide, Upsert.onDuplicateKeyTokens_not_mem rfl⟩

end Builder

end FilterSql
