import FilterSql.Proofs.Outcomes
import FilterSql.Proofs.Splitting
import FilterSql.Proofs.WrittenColumns

/-!
# Merges that ask for no key columns

A repository asks for the key columns of a table only where a merge depends on them: for want of a
declared key, and either of qualifiers or of a way to match on other columns than the key. For an entity
that declares a key they would not have made a difference. A merge by given qualifiers into a table
whose key is not declared is refused, or matches on the same columns, without them as with them. But it
reports no column of the written row, and returns nothing but what the database gives.

## Main definitions

* `MergeSpec.BuiltAlike`: what building a merge comes to without and with reported key columns.

## Main results

* `Upsert.reporting_mem_tokens_iff`: a statement says that it reports a column when it reports one;
* `Planner.unasked_merge`: what the key columns that are not asked for would have changed.
-/

namespace FilterSql

/-! ### The text of a reporting statement -/

namespace Token

/-- A word of its own is among the lexemes of some tokens when it is one of them. -/
theorem word_mem_lexemes_iff {d : Dialect} {w : Keyword} {cs : List Char}
    (hword : w.lexemes = [.word cs]) (hown : ∀ w', .word cs ∈ Keyword.lexemes w' → w' = w)
    {ts : List Token} : .word cs ∈ ts.flatMap (lexemes d) ↔ .word w ∈ ts := by
  rw [List.mem_flatMap]
  constructor
  · rintro ⟨t, ht, hmem⟩
    -- names, numbers and literals are lexemes of other kinds
    cases t with
    | word w' => rwa [← hown w' hmem]
    | mark m => cases m <;> simp [lexemes] at hmem
    | qualified schema name => cases schema <;> simp [lexemes] at hmem
    | ident | integer | literal | param | raw => simp [lexemes] at hmem
  · intro hmem
    exact ⟨_, hmem, by simp [lexemes, hword]⟩

/-- Behind phrases without a word, it is in spaced phrases when it is in one of the others. -/
theorem word_mem_spaced_append {w : Keyword} {before after : List (List Token)}
    (h : ∀ p ∈ before, .word w ∉ p) :
    .word w ∈ spaced (before ++ after) ↔ ∃ p ∈ after, .word w ∈ p := by
  simp only [word_mem_spaced, List.mem_append]
  constructor
  · rintro ⟨p, hp | hp, hword⟩
    · exact absurd hword (h p hp)
    · exact ⟨p, hp, hword⟩
  · rintro ⟨p, hp, hword⟩
    exact ⟨p, .inr hp, hword⟩

end Token

namespace Upsert

variable (u : Upsert) {d : Dialect} {hint : Option String}

/-- The word that a dialect reports a column with. -/
def reporting : UpsertStyle → Keyword
  | .merge => .output
  | _ => .returning

/-- A `MERGE` says that it reports a column when it reports one. -/
theorem output_mem_mergeTokens_iff :
    .word .output ∈ u.mergeTokens d hint ↔ u.result.isSome = true := by
  have hvalues := word_not_mem_valuesPhrases u.inserted (w := .output) (by simp)
    (show ∀ v ∈ u.inserted.map (aliased sourceAlias), .word .output ∉ v by simp [aliased])
  have htable := word_not_mem_phrases (w := .output) u.table d hint
  have hsource := u.word_not_mem_source (w := .output) (by simp)
  have hmatching := u.word_not_mem_matching (w := .output) (by simp)
  unfold mergeTokens
  extract_lets update output
  have hupdate : ∀ p ∈ update, .word .output ∉ p := by
    simp only [update]
    split <;> simp [assignments, assignment, aliased]
  have houtput : (∃ p ∈ output, .word .output ∈ p) ↔ u.result.isSome = true := by
    simp only [output]
    cases u.result <;> simp
  rw [← houtput, List.mem_append, Token.word_mem_spaced_append]
  · simp
  · -- the words up to the reported column are others
    simp only [List.forall_mem_append]
    exact ⟨⟨⟨⟨by simp, htable⟩, by simp [hsource, hmatching]⟩, hvalues⟩, hupdate⟩

/-- An `INSERT … ON CONFLICT …` says that it reports a column when it reports one. -/
theorem returning_mem_onConflictTokens_iff (h : d.hasReturning = true) :
    .word .returning ∈ u.onConflictTokens d hint ↔ u.result.isSome = true := by
  unfold onConflictTokens
  extract_lets conflict returning
  have hconflict : ∀ p ∈ conflict, .word .returning ∉ p := by
    simp only [conflict]
    split
    · simp
    · split <;> simp [assignments, assignment, word_not_mem_nameList]
  have hreturning : (∃ p ∈ returning, .word .returning ∈ p) ↔ u.result.isSome = true := by
    simp only [returning, h]
    cases u.result <;> simp
  rw [← hreturning]
  refine Token.word_mem_spaced_append ?_
  simp only [List.forall_mem_append]
  exact ⟨⟨word_not_mem_leadingHint d hint, u.word_not_mem_insertPhrases (by simp)⟩, hconflict⟩

/-- The word that reports a column is a lexeme that no other word stands for. -/
theorem lexemes_reporting (style : UpsertStyle) :
    (reporting style).lexemes = [.word (reporting style).text.toList] ∧
      ∀ w, .word (reporting style).text.toList ∈ Keyword.lexemes w → w = reporting style := by
  refine ⟨by cases style <;> decide, fun w => ?_⟩
  cases style <;> cases w <;> decide

/-- Outside of MySQL, an upsert says that it reports a column when it reports one. -/
theorem reporting_mem_tokens_iff (hd : d ≠ .mysql) :
    .word (reporting d.upsertStyle) ∈ u.tokens d hint ↔ u.result.isSome = true := by
  cases d with
  | sqlite | postgres => exact u.returning_mem_onConflictTokens_iff rfl
  | tsql => exact u.output_mem_mergeTokens_iff
  | mysql => exact absurd rfl hd

/-- Outside of MySQL, upserts of one text report columns both or neither. -/
theorem isSome_result_of_renderAll_eq {u u' : Upsert} (hd : d ≠ .mysql)
    (h : Token.renderAll d (u.tokens d none) = Token.renderAll d (u'.tokens d none)) :
    u.result.isSome = u'.result.isSome := by
  have hsplit := Token.split_renderAll (d := d) (u.tidy_tokens d)
  rw [h, Token.split_renderAll (u'.tidy_tokens d)] at hsplit
  obtain ⟨hword, hown⟩ := lexemes_reporting d.upsertStyle
  rw [Bool.eq_iff_iff, ← u.reporting_mem_tokens_iff hd, ← u'.reporting_mem_tokens_iff hd,
    ← Token.word_mem_lexemes_iff hword hown, ← Token.word_mem_lexemes_iff hword hown,
    Option.some.inj hsplit]

end Upsert

/-! ### What key columns are good for -/

namespace Entity

variable {e : Entity}

/-- The key columns of an entity that declares a key are the declared ones. -/
theorem keyColumns_of_declared (h : e.keys ≠ []) (reported : List String) :
    e.keyColumns reported = e.keyColumns [] := by
  simp [keyColumns, h]

/-- So is the column that identifies a row. -/
theorem resultColumn?_of_declared (h : e.keys ≠ []) (reported : List String) :
    e.resultColumn? reported = e.resultColumn? [] := by
  obtain ⟨key, keys, hkeys⟩ := List.exists_cons_of_ne_nil h
  simp [resultColumn?, hkeys]

/-- Without a declared key there is no identity. -/
theorem identityColumn?_of_undeclared (h : e.keys = []) : e.identityColumn? = none := by
  have hidentity : e.identity? = none :=
    List.find?_eq_none.2 fun p hp => by simp [(undeclared_of_keys_eq_nil h p hp).2]
  rw [identityColumn?, hidentity, Option.map_none]

/-- Without a declared key, the first reported key column identifies a row. -/
theorem resultColumn?_of_undeclared (h : e.keys = []) (reported : List String) :
    e.resultColumn? reported = reported.head? := by
  simp [resultColumn?, identityColumn?_of_undeclared h, h]

end Entity

namespace MergeKeys

variable {keys : MergeKeys} {style : UpsertStyle} {members : List Member}

/-- Every member is written into a new row when there is no identity, and none holds null for the
column that identifies the row. -/
theorem insertable_eq_self (hidentity : keys.identity = none)
    (h : ∀ m ∈ members, m.value.isNull = true → keys.result ≠ some m.column.name) :
    keys.insertable style members = members := by
  refine List.filter_eq_self.2 fun m hm => ?_
  cases hnull : m.value.isNull with
  | false => simp [isGenerated, hidentity, hnull]
  | true => simp [isGenerated, hidentity, h m hm hnull]

/-- Then the column that is reported makes no difference to what is written. -/
theorem plan_with_result (table : TableName) (hidentity : keys.identity = none)
    (hresult : keys.result = none) {result : Option String}
    (h : ∀ m ∈ members, m.value.isNull = true → result ≠ some m.column.name) :
    MergeKeys.plan { keys with result } style table members =
      ({ (keys.plan style table members).1 with result }, (keys.plan style table members).2) := by
  have hnew : insertable { keys with result } style members = members :=
    insertable_eq_self hidentity h
  have hold : keys.insertable style members = members :=
    insertable_eq_self hidentity fun _ _ _ => by simp [hresult]
  unfold plan
  rw [hnew, hold]
  split <;> rfl

end MergeKeys

/-! ### Without and with reported key columns -/

namespace MergeSpec

variable {record : Record} {qualifiers : List Field} {reported : List String} {d : Dialect} {s : Scope}

/-- Under a declared key, a merge is planned alike without and with reported key columns. -/
theorem plan_of_declared (h : s.entity.keys ≠ []) (reported : List String) :
    plan { record, qualifiers } d s = plan { record, qualifiers, keyColumns := reported } d s := by
  simp only [plan, resolveKeys, qualifierColumns, checkKey, Entity.keyColumns_of_declared h reported,
    Entity.resultColumn?_of_declared h reported]
  rfl

/-- Under a declared key, the columns of a merge are resolved alike without and with reported key
columns. -/
theorem resolveKeys_of_declared (h : s.entity.keys ≠ []) (reported : List String) :
    resolveKeys { record, qualifiers } s =
      resolveKeys { record, qualifiers, keyColumns := reported } s := by
  simp only [resolveKeys, qualifierColumns, Entity.keyColumns_of_declared h reported,
    Entity.resultColumn?_of_declared h reported]
  rfl

/-- Given qualifiers are not found for the same reasons whatever key columns are reported. -/
theorem Unmatched.congr {spec spec' : MergeSpec} {e : QueryError} (h : spec.Unmatched s e)
    (hrecord : spec.record = spec'.record) (hqualifiers : spec.qualifiers = spec'.qualifiers)
    (hgiven : spec.qualifiers ≠ []) : spec'.Unmatched s e := by
  cases h with
  | noQualifier ungiven | unknownKey ungiven => exact absurd ungiven hgiven
  | unknownQualifier first =>
    simp only [hqualifiers, Carries, hrecord] at first
    exact .unknownQualifier first

/-- A merge by given qualifiers is refused for the same reasons whatever key columns are reported, except
in MySQL. -/
theorem Refused.congr {spec spec' : MergeSpec} {e : QueryError} (h : spec.Refused d s e)
    (hrecord : spec.record = spec'.record) (hqualifiers : spec.qualifiers = spec'.qualifiers)
    (hgiven : spec.qualifiers ≠ []) (hd : d ≠ .mysql) : spec'.Refused d s e := by
  cases h with
  | listValue first => exact .listValue (hrecord ▸ first)
  | unmatched scalar unmatched =>
    refine .unmatched ?_ (unmatched.congr hrecord hqualifiers hgiven)
    rwa [Scalar, ← hrecord]
  | notKey _ mysql => exact absurd mysql hd

/-- What building a merge by given qualifiers comes to without and with reported key columns, where the
entity declares no key: it is refused alike, or there are two statements that match on the same columns.
The second one reports the first key column, if there is one, and leaves it out of a new row if the
record holds null for it. This is the only difference. -/
inductive BuiltAlike (spec : MergeSpec) (s : Scope) :
    Except QueryError Statement → Except QueryError Statement → Prop
  | refused {e : QueryError} : BuiltAlike spec s (.error e) (.error e)
  | built {st st' : Statement} {u u' : Upsert} (command : st.command = .upsert u)
    (command' : st'.command = .upsert u') (qualifiers : u'.qualifiers = u.qualifiers)
    (unreported : u.result = none) (reported : u'.result = spec.keyColumns.head?)
    (same : spec.keyColumns = [] → st' = st) (other : spec.keyColumns ≠ [] → st'.sql ≠ st.sql)
    (values : (∀ entry ∈ spec.record.entries, entry.2.isNull = true →
        spec.keyColumns.head? ≠ some (s.entity.columnOf s.fieldCase entry.1)) →
      u' = { u with result := spec.keyColumns.head? } ∧ st'.parameters = st.parameters) :
    BuiltAlike spec s (.ok st) (.ok st')

/-- The members of a record hold its values for the columns that their names stand for. -/
theorem exists_entry_of_mem_located {spec : MergeSpec} {types : TypeChain} {m : Member}
    (h : m ∈ spec.located s types) : ∃ entry ∈ spec.record.entries,
      m.column.name = s.entity.columnOf s.fieldCase entry.1 ∧ m.value = entry.2 := by
  obtain ⟨entry, hentry, rfl⟩ := List.mem_map.1 h
  exact ⟨entry, hentry, s.column_name _ _ _, rfl⟩

/-- Without a declared key, the columns that a merge by given qualifiers matches on and reports differ
in the reported one. -/
theorem keys_of_undeclared (hundeclared : s.entity.keys = []) (hgiven : qualifiers ≠ []) :
    keys { record, qualifiers, keyColumns := reported } s =
      { keys { record, qualifiers } s with result := reported.head? } := by
  have hmatch : matchColumns { record, qualifiers, keyColumns := reported } s =
      matchColumns { record, qualifiers } s := by
    rw [matchColumns, matchColumns, if_neg hgiven, if_neg hgiven]
  simp only [keys, hmatch, Entity.resultColumn?_of_undeclared hundeclared]

/-- Without a declared key, the two statements of a merge by given qualifiers differ in the column that
they report. -/
theorem builtAlike_of_run {b : Builder} {e : Entity} {types types₁ types₂ : TypeChain}
    {st st' : Statement} (hundeclared : e.keys = []) (hgiven : qualifiers ≠ [])
    (hd : b.dialect ≠ .mysql)
    (hrun : b.run { entity := e, operation := .merge { record, qualifiers } } types =
      (.ok st, types₁))
    (hrun' : b.run
        { entity := e, operation := .merge { record, qualifiers, keyColumns := reported } } types =
      (.ok st', types₂)) :
    BuiltAlike { record, qualifiers, keyColumns := reported } (b.scope e) (.ok st) (.ok st') := by
  obtain ⟨u, hu, hplan⟩ := Builder.run_merge hrun rfl
  obtain ⟨u', hu', hplan'⟩ := Builder.run_merge hrun' rfl
  obtain ⟨-, -, -, -, hplanned⟩ := plan_eq_ok hplan
  obtain ⟨-, -, -, -, hplanned'⟩ := plan_eq_ok hplan'
  -- both plans are made from the same keys up to the reported column
  rw [keys_of_undeclared hundeclared hgiven] at hplanned'
  change (keys { record, qualifiers } (b.scope e)).plan b.dialect.upsertStyle e.table
    (located { record, qualifiers } (b.scope e) types) = (u, st.parameters) at hplanned
  change MergeKeys.plan { keys { record, qualifiers } (b.scope e) with result := reported.head? }
    b.dialect.upsertStyle e.table (located { record, qualifiers } (b.scope e) types) =
      (u', st'.parameters) at hplanned'
  have hidentity : (keys { record, qualifiers } (b.scope e)).identity = none :=
    Entity.identityColumn?_of_undeclared hundeclared
  have hresult : (keys { record, qualifiers } (b.scope e)).result = none :=
    Entity.resultColumn?_of_undeclared hundeclared []
  have hunreported : u.result = none := by
    rw [← congrArg (·.1.result) hplanned, MergeKeys.result_plan, hresult]
  have hreported : u'.result = reported.head? := by
    rw [← congrArg (·.1.result) hplanned', MergeKeys.result_plan]
  have hhint : st.hint = none := Builder.hint_eq_none hrun rfl
  have hhint' : st'.hint = none := Builder.hint_eq_none hrun' rfl
  have hdialect : st.dialect = b.dialect := (Builder.run_eq_ok hrun).1
  have hdialect' : st'.dialect = b.dialect := (Builder.run_eq_ok hrun').1
  refine .built hu hu' ?_ hunreported hreported ?_ ?_ ?_
  · rw [← congrArg (·.1.qualifiers) hplanned, ← congrArg (·.1.qualifiers) hplanned',
      MergeKeys.qualifiers_plan, MergeKeys.qualifiers_plan]
  · rintro rfl
    rw [hrun] at hrun'
    exact (Except.ok.inj (Prod.mk.inj hrun').1).symm
  · -- statements of one text would both report a column, or neither
    intro hsome hsql
    rw [Statement.sql, Statement.sql, Statement.tokens, Statement.tokens, hu, hu', hhint, hhint',
      hdialect, hdialect'] at hsql
    have hboth := Upsert.isSome_result_of_renderAll_eq hd hsql
    rw [hunreported, hreported] at hboth
    simp [hsome] at hboth
  · intro hnull
    have hmembers : ∀ m ∈ located { record, qualifiers } (b.scope e) types,
        m.value.isNull = true → reported.head? ≠ some m.column.name := by
      intro m hm hvalue
      obtain ⟨entry, hentry, hcolumn, hentryValue⟩ := exists_entry_of_mem_located hm
      rw [hentryValue] at hvalue
      rw [hcolumn]
      exact hnull entry hentry hvalue
    rw [MergeKeys.plan_with_result e.table hidentity hresult hmembers, hplanned] at hplanned'
    obtain ⟨rfl, hparameters⟩ := Prod.mk.inj hplanned'
    exact ⟨rfl, hparameters.symm⟩

/-- Without a declared key, the statements of a merge by given qualifiers are built alike without and
with reported key columns, except in MySQL. -/
theorem builtAlike_run {b : Builder} {e : Entity} {types : TypeChain} (hundeclared : e.keys = [])
    (hgiven : qualifiers ≠ []) (hd : b.dialect ≠ .mysql) :
    BuiltAlike { record, qualifiers, keyColumns := reported } (b.scope e)
      (b.run { entity := e, operation := .merge { record, qualifiers } } types).1
      (b.run { entity := e, operation := .merge { record, qualifiers, keyColumns := reported } }
        types).1 := by
  let spec (keyColumns : List String) : MergeSpec := { record, qualifiers, keyColumns }
  -- a reason to refuse one of them is a reason to refuse the other
  have herror (keyColumns keyColumns' : List String) {error : QueryError}
      (h : (b.run { entity := e, operation := .merge (spec keyColumns) } types).1 = .error error) :
      (b.run { entity := e, operation := .merge (spec keyColumns') } types).1 = .error error := by
    have hrefused : (spec keyColumns).Refused b.dialect (b.scope e) error :=
      (Builder.run_merge_eq_error_iff rfl).1 h
    have hrefused' : (spec keyColumns').Refused b.dialect (b.scope e) error :=
      hrefused.congr rfl rfl hgiven hd
    exact (Builder.run_merge_eq_error_iff rfl).2 hrefused'
  cases hst : (b.run { entity := e, operation := .merge (spec []) } types).1 with
  | error error =>
    rw [herror [] reported hst]
    exact .refused
  | ok st =>
    cases hst' : (b.run { entity := e, operation := .merge (spec reported) } types).1 with
    | error error =>
      rw [herror reported [] hst'] at hst
      cases hst
    | ok st' =>
      exact builtAlike_of_run hundeclared hgiven hd (Prod.ext hst rfl) (Prod.ext hst' rfl)

/-- Without a declared key, the columns of a merge by given qualifiers are resolved without and with
reported key columns, or for the same reason they are not. -/
theorem resolveKeys_of_undeclared (hundeclared : s.entity.keys = []) (hgiven : qualifiers ≠ [])
    (reported : List String) (types : TypeChain) :
    (∃ err, Unmatched { record, qualifiers } s err ∧
        ((resolveKeys { record, qualifiers } s).run.run types).1 = .error err ∧
        ((resolveKeys { record, qualifiers, keyColumns := reported } s).run.run types).1 =
          .error err) ∨
      (¬ ∃ err, Unmatched { record, qualifiers } s err) ∧
        ((resolveKeys { record, qualifiers } s).run.run types).1 =
          .ok (keys { record, qualifiers } s) ∧
        ((resolveKeys { record, qualifiers, keyColumns := reported } s).run.run types).1 =
          .ok (keys { record, qualifiers, keyColumns := reported } s) := by
  cases hkeys : ((resolveKeys { record, qualifiers } s).run.run types).1 with
  | error err =>
    have hunmatched : Unmatched { record, qualifiers } s err := resolveKeys_eq_error_iff.1 hkeys
    exact .inl ⟨err, hunmatched, rfl,
      resolveKeys_eq_error_iff.2 (hunmatched.congr rfl rfl hgiven)⟩
  | ok keys =>
    obtain ⟨hkeyed, hcarried, rfl⟩ := resolveKeys_eq_ok_iff.1 hkeys
    have hmatch : matchColumns { record, qualifiers, keyColumns := reported } s =
        matchColumns { record, qualifiers } s :=
      congrArg (·.qualifiers) (keys_of_undeclared hundeclared hgiven)
    refine .inr ⟨?_, rfl, resolveKeys_eq_ok_iff.2 ⟨?_, ?_, rfl⟩⟩
    · rintro ⟨err, hunmatched⟩
      exact nomatch hkeys.symm.trans (resolveKeys_eq_error_iff.2 hunmatched)
    · rwa [hmatch]
    · rw [hmatch]
      exact hcarried

end MergeSpec

namespace Planner

variable {σ : Type} {p : Planner} {e : Entity} {record : Record} {qualifiers : List Field}
  {reported : List String}

/-- Only the qualifiers and the dialect can make a merge do without the key columns of a table whose key
is not declared. -/
theorem given_of_needsKeyColumns_eq_false (h : p.needsKeyColumns e qualifiers = false)
    (hundeclared : e.keys = []) : qualifiers ≠ [] ∧ p.builder.dialect ≠ .mysql := by
  simp only [needsKeyColumns, hundeclared, List.isEmpty_nil, Bool.true_and, Bool.or_eq_false_iff,
    List.isEmpty_eq_false_iff, decide_eq_false_iff_not] at h
  refine ⟨h.1, fun hd => h.2 ?_⟩
  rw [hd]
  rfl

/-- Under a declared key, a merge is built and its result is taken alike without and with reported key
columns. -/
theorem merge_of_declared (hdeclared : e.keys ≠ []) (reported : List String) :
    p.merge (σ := σ) e { record, qualifiers } =
        p.merge e { record, qualifiers, keyColumns := reported } ∧
      ∀ rows, p.mergeResult (σ := σ) e { record, qualifiers } rows =
        p.mergeResult e { record, qualifiers, keyColumns := reported } rows := by
  constructor
  · simp only [merge, build, Builder.build]
    rw [MergeSpec.plan_of_declared (s := p.builder.scope e) hdeclared reported]
  · intro rows
    simp only [mergeResult]
    rw [MergeSpec.resolveKeys_of_declared (s := p.builder.scope e) hdeclared reported]
    rfl

/-- Without a declared key, the result of a merge by given qualifiers is taken alike without and with
reported key columns unless they decide on what the record holds. -/
theorem mergeResult_eq_iff_of_undeclared (hundeclared : e.keys = []) (hgiven : qualifiers ≠ [])
    (rows : List Record) (s : Session σ) :
    ((p.mergeResult e { record, qualifiers, keyColumns := reported } rows).run.run s).1 =
        ((p.mergeResult e { record, qualifiers } rows).run.run s).1 ↔
      (∃ v, Returns rows v) ∨
        (∃ err, MergeSpec.Unmatched { record, qualifiers } (p.builder.scope e) err) ∨
        p.Supplies e record reported.head? .null := by
  let spec (keyColumns : List String) : MergeSpec := { record, qualifiers, keyColumns }
  rw [mergeResult_fst, mergeResult_fst]
  cases hreturned : (rows.head?.bind Record.first?).filter fun v => !v.isNull with
  | some v => exact iff_of_true rfl (.inl ⟨v, returns_iff.2 hreturned⟩)
  | none =>
    have hunreturned : ¬ ∃ v, Returns rows v := by
      rintro ⟨v, hreturns⟩
      rw [returns_iff.1 hreturns] at hreturned
      cases hreturned
    dsimp only
    rcases MergeSpec.resolveKeys_of_undeclared (s := p.builder.scope e) hundeclared hgiven reported
      s.caches.types with ⟨err, hunmatched, hold, hnew⟩ | ⟨hmatched, hold, hnew⟩
    · rw [hold, hnew]
      exact iff_of_true rfl (.inr (.inl ⟨err, hunmatched⟩))
    · rw [hold, hnew, or_iff_right hunreturned, or_iff_right hmatched]
      change Except.ok (p.supplied e { record, qualifiers, keyColumns := reported }
          (e.resultColumn? reported)) =
        Except.ok (p.supplied e { record, qualifiers } (e.resultColumn? [])) ↔ _
      rw [Entity.resultColumn?_of_undeclared hundeclared,
        Entity.resultColumn?_of_undeclared hundeclared, Except.ok.injEq]
      -- without reported columns there is no column to ask the record for, and null is returned
      have hsupplied := supplies_supplied p e { record, qualifiers, keyColumns := reported }
        reported.head?
      constructor
      · intro hnull
        rwa [hnull] at hsupplied
      · intro hsupplies
        have hnull : Value.null = p.supplied e { record, qualifiers, keyColumns := reported }
            reported.head? := hsupplies.eq_supplied
        exact hnull.symm

/-- The key columns that a merge does not ask for would not have made a difference where the entity
declares a key. Where it declares none, building a merge by given qualifiers would have come to the same
up to the column that is reported, and exactly the same only without any key columns. The result would
have been another one only if the database returns nothing and the record holds a value for the first
key column. -/
theorem unasked_merge (p : Planner) (record : Record) (reported : List String)
    (h : p.needsKeyColumns e qualifiers = false) :
    let spec (keyColumns : List String) : MergeSpec := { record, qualifiers, keyColumns }
    (e.keys ≠ [] → p.merge (σ := σ) e (spec []) = p.merge e (spec reported) ∧
      ∀ rows, p.mergeResult (σ := σ) e (spec []) rows = p.mergeResult e (spec reported) rows) ∧
    (e.keys = [] → ∀ s : Session σ,
      (spec reported).BuiltAlike (p.builder.scope e) ((p.merge e (spec [])).run.run s).1
        ((p.merge e (spec reported)).run.run s).1 ∧
      ∀ rows, ((p.mergeResult e (spec reported) rows).run.run s).1 =
          ((p.mergeResult e (spec []) rows).run.run s).1 ↔
        (∃ v, Returns rows v) ∨ (∃ err, (spec []).Unmatched (p.builder.scope e) err) ∨
          p.Supplies e record reported.head? .null) := by
  intro spec
  refine ⟨fun hdeclared => merge_of_declared hdeclared reported, fun hundeclared s => ?_⟩
  obtain ⟨hgiven, hd⟩ := given_of_needsKeyColumns_eq_false h hundeclared
  refine ⟨?_, mergeResult_eq_iff_of_undeclared hundeclared hgiven (s := s)⟩
  rw [merge, merge, run_build, run_build]
  exact MergeSpec.builtAlike_run hundeclared hgiven hd

/-- The key of a table known by name is of no use to a merge of a record that does not hold it. -/
theorem unasked_merge_keyless :
    let p : Planner := { builder := { dialect := .postgres } }
    let e := Entity.ofTable { name := "item" }
    let spec (keyColumns : List String) : MergeSpec :=
      { record := ⟨[("Name", .text "x")]⟩, qualifiers := [{ name := "Name" }], keyColumns }
    let s : Session Unit := { backend := (), caches := {} }
    p.needsKeyColumns e [{ name := "Name" }] = false ∧
      (spec ["Id"]).BuiltAlike (p.builder.scope e) ((p.merge e (spec [])).run.run s).1
        ((p.merge e (spec ["Id"])).run.run s).1 ∧
      ((p.mergeResult e (spec ["Id"]) []).run.run s).1 =
        ((p.mergeResult e (spec []) []).run.run s).1 := by
  intro p e spec s
  have hunneeded : p.needsKeyColumns e [{ name := "Name" }] = false := rfl
  obtain ⟨hbuilt, hresult⟩ :=
    (unasked_merge p ⟨[("Name", .text "x")]⟩ ["Id"] hunneeded).2 rfl s
  have hmissing : p.Supplies e ⟨[("Name", .text "x")]⟩ (some "Id") .null := by
    refine .missing fun name hname => ?_
    obtain rfl := List.mem_singleton.1 hname
    decide
  exact ⟨hunneeded, hbuilt, (hresult []).2 (.inr (.inr hmissing))⟩

/-- The key of a table known by name, which is not asked for, changes what a merge of a record that holds
it reports and returns. -/
theorem unasked_merge_differs :
    let p : Planner := { builder := { dialect := .sqlite } }
    let e := Entity.ofTable { name := "item" }
    let spec (keyColumns : List String) : MergeSpec :=
      { record := ⟨[("Id", .int 7), ("Name", .text "x")]⟩, qualifiers := [{ name := "Name" }]
        keyColumns }
    let s : Session Unit := { backend := (), caches := {} }
    p.needsKeyColumns e [{ name := "Name" }] = false ∧
      (∃ st st', ((p.merge e (spec [])).run.run s).1 = .ok st ∧
        ((p.merge e (spec ["Id"])).run.run s).1 = .ok st' ∧
        st.sql = "INSERT INTO \"item\" (\"Id\", \"Name\") VALUES (@p0, @p1)" ++
          " ON CONFLICT (\"Name\") DO UPDATE SET \"Id\" = excluded.\"Id\"" ∧
        st'.sql = "INSERT INTO \"item\" (\"Id\", \"Name\") VALUES (@p0, @p1)" ++
          " ON CONFLICT (\"Name\") DO UPDATE SET \"Id\" = excluded.\"Id\" RETURNING \"Id\"") ∧
      ((p.mergeResult e (spec []) []).run.run s).1 = .ok .null ∧
      ((p.mergeResult e (spec ["Id"]) []).run.run s).1 = .ok (.int 7) := by
  intro p e spec s
  have hst : ((p.merge e (spec [])).run.run s).1 = .ok _ := rfl
  have hst' : ((p.merge e (spec ["Id"])).run.run s).1 = .ok _ := rfl
  exact ⟨rfl, ⟨_, _, hst, hst', by decide, by decide⟩, rfl, rfl⟩

end Planner

end FilterSql
