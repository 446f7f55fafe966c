import FilterSql.Proofs.Clauses
import FilterSql.Proofs.Upserting

/-!
# What is written settles what is done

A database runs an upsert by its parts: the table, the columns of a new row, those that rows are matched
on, those that are assigned, and the one that is reported. All of them are read back from the tokens of
an `INSERT … ON CONFLICT …`, as far as they matter. So two merges that are built to the same tokens do
the same to every database.

## Main results

* `Upsert.parts_eq_of_tokens_eq`: upserts of the same tokens have the same parts;
* `Store.check_upsert_of_tokens_eq`: they are the same to a database;
* `Builder.run_eq_of_tokens_eq`: so are built merges of the same tokens and parameters.
-/

namespace FilterSql

/-- Where existing rows are written on a conflict, upserts of the same tokens have the same parts.
Without a value for a new row there is no conflict. -/
theorem Upsert.parts_eq_of_tokens_eq {u u' : Upsert} {d : Dialect} {hint hint' : Option String}
    (hstyle : d.upsertStyle = .onConflict) (hreturns : d.hasReturning = true)
    (h : u.tokens d hint = u'.tokens d hint') :
    u.table = u'.table ∧ u.inserted = u'.inserted ∧ u.result = u'.result ∧
      (u.inserted ≠ [] → u.qualifiers = u'.qualifiers ∧ u.updated = u'.updated) := by
  have htokens (u : Upsert) (hint : Option String) : u.tokens d hint = u.onConflictTokens d hint := by
    rw [tokens, hstyle]
  have hinserted : u.inserted = u'.inserted := by
    rw [← u.insertList_tokens d hint, h, u'.insertList_tokens]
  rw [htokens, htokens] at h
  -- what is read from one side of the equation is read from the other
  have htable := congrArg Token.written? h
  have hresult := congrArg Token.returned? h
  rw [written?_onConflictTokens, written?_onConflictTokens] at htable
  rw [returned?_onConflictTokens, returned?_onConflictTokens, if_pos hreturns, if_pos hreturns]
    at hresult
  refine ⟨Option.some.inj htable, hinserted, hresult, fun hne => ⟨?_, ?_⟩⟩
  -- an `INSERT` of default values has no conflict, and says nothing about an existing row
  · have hconflict := congrArg Token.conflictList h
    rwa [u.conflictList_onConflictTokens d hint hne,
      u'.conflictList_onConflictTokens d hint' (hinserted ▸ hne)] at hconflict
  · have hplace {v : Upsert} (hv : v.inserted ≠ []) :
        d.upsertStyle = .merge ∨ (v.inserted = [] → v.updated = []) :=
      .inr fun hnil => absurd hnil hv
    have htargets := congrArg Token.targets h
    rw [← htokens, ← htokens, u.targets_tokens d hint (hplace hne),
      u'.targets_tokens d hint' (hplace (hinserted ▸ hne))] at htargets
    simpa [hstyle] using htargets

/-- Outside of a `MERGE` the upsert of a merge binds values for the columns of a new row. -/
theorem Builder.exists_upsert_bound {b : Builder} {r : Request} {spec : MergeSpec}
    {types types' : TypeChain} {st : Statement} (hstyle : b.dialect.upsertStyle ≠ .merge)
    (hop : r.operation = .merge spec) (h : b.run r types = (.ok st, types')) :
    ∃ u, st.command = .upsert u ∧ u.bound = u.inserted := by
  obtain ⟨u, hcommand, hplan⟩ := run_merge h hop
  obtain ⟨-, -, -, -, hplan⟩ := MergeSpec.plan_eq_ok hplan
  obtain rfl := congrArg Prod.fst hplan
  refine ⟨_, hcommand, ?_⟩
  rw [MergeKeys.plan, if_neg hstyle]

namespace Store

variable {d : Dialect} {u u' : Upsert}

/-- Without a value for a new row there is no conflict. -/
theorem checkUpsert_of_inserted_eq_nil (h : u.inserted = []) (t : TableSchema) :
    checkUpsert t u = .ok none := by
  rw [checkUpsert, h]
  rfl

/-- Then only the table, the bound columns and the reported one matter. -/
theorem check_upsert_of_inserted_eq_nil (h : u.inserted = []) (db : Database) :
    check db d (.upsert u) = check db d (.upsert { u with qualifiers := [], updated := [] }) := by
  let v : Upsert := { u with qualifiers := [], updated := [] }
  have hreads : understands d (.upsert u) = understands d (.upsert v) := rfl
  unfold check
  rw [hreads]
  cases understands d (.upsert v) with
  | false => rfl
  | true =>
    show (target db u.table >>= fun t => checkUpsert t.schema u >>= _) =
      (target db u.table >>= fun t => checkUpsert t.schema v >>= _)
    simp only [checkUpsert_of_inserted_eq_nil h, checkUpsert_of_inserted_eq_nil (u := v) h]
    rfl

/-- Upserts of the same tokens are the same to a database, provided that the columns of a new row are
those whose values are bound. -/
theorem check_upsert_of_tokens_eq {hint hint' : Option String} (hstyle : d.upsertStyle = .onConflict)
    (hreturns : d.hasReturning = true) (hbound : u.bound = u.inserted)
    (hbound' : u'.bound = u'.inserted) (h : u.tokens d hint = u'.tokens d hint') (db : Database) :
    check db d (.upsert u) = check db d (.upsert u') := by
  obtain ⟨htable, hinserted, hresult, hrest⟩ := Upsert.parts_eq_of_tokens_eq hstyle hreturns h
  rw [hinserted, ← hbound'] at hbound
  by_cases hnil : u.inserted = []
  · -- the parts that were not read back do not matter
    rw [check_upsert_of_inserted_eq_nil hnil, htable, hbound, hinserted, hresult,
      ← check_upsert_of_inserted_eq_nil (u := u') (hinserted ▸ hnil)]
  · -- all parts are the same
    obtain ⟨hqualifiers, hupdated⟩ := hrest hnil
    have hsame : u = u' := by
      cases u
      cases u'
      simp_all
    rw [hsame]

end Store

/-- Merges for SQLite that are built to the same tokens and parameters do the same to every database. -/
theorem Builder.run_eq_of_tokens_eq {b b' : Builder} {r r' : Request} {spec spec' : MergeSpec}
    {types types' after after' : TypeChain} {st st' : Statement} (hd : b.dialect = .sqlite)
    (hd' : b'.dialect = .sqlite) (hop : r.operation = .merge spec) (hop' : r'.operation = .merge spec')
    (h : b.run r types = (.ok st, after)) (h' : b'.run r' types' = (.ok st', after'))
    (htokens : st.tokens = st'.tokens) (hparameters : st.parameters = st'.parameters)
    (db : Database) : Store.run db st = Store.run db st' := by
  have hdialect : st.dialect = .sqlite := (run_eq_ok h).1.trans hd
  have hdialect' : st'.dialect = .sqlite := (run_eq_ok h').1.trans hd'
  have hhint : st.hint = none := hint_run_merge h hop (by rw [hd]; rfl)
  have hhint' : st'.hint = none := hint_run_merge h' hop' (by rw [hd']; rfl)
  -- the commands are the same to the database
  have hcheck : Store.check db .sqlite st.command = Store.check db .sqlite st'.command := by
    obtain ⟨u, hcommand, hbound⟩ := exists_upsert_bound (by rw [hd]; decide) hop h
    obtain ⟨u', hcommand', hbound'⟩ := exists_upsert_bound (by rw [hd']; decide) hop' h'
    rw [Statement.tokens, Statement.tokens, hcommand, hcommand', hdialect, hdialect'] at htokens
    rw [hcommand, hcommand']
    exact Store.check_upsert_of_tokens_eq (d := .sqlite) rfl rfl hbound hbound' htokens db
  -- and so are their placeholders and parameters
  have hplaceholders : st.placeholders .whole = st'.placeholders .whole := by
    show st.tokens.filterMap _ = st'.tokens.filterMap _
    rw [htokens, hdialect, hdialect']
  have hcells (placeholders : List String) : st.cells placeholders = st'.cells placeholders := by
    rw [Statement.cells, Statement.cells, hparameters, hdialect, hdialect']
  have hprepare : Store.prepare db st = Store.prepare db st' := by
    rw [Store.prepare_of_whole (Statement.extent?_of_hint_eq_none hhint),
      Store.prepare_of_whole (Statement.extent?_of_hint_eq_none hhint'), hplaceholders, hdialect,
      hdialect', hcheck]
  unfold Store.run Store.runBy
  simp only [hprepare, hcells]

end FilterSql
