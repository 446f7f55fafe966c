import FilterSql.Proofs.Actions
import FilterSql.Proofs.Remerging
import FilterSql.Store.Connection

/-!
# Merging twice

A merge into a table of SQLite that succeeded succeeds again, leaves every table as it is, and returns
the same value: that of the row that the record was merged into. This needs a value in each column
that rows are matched on as the table stores it, which a float that is not a number does not have. It
also needs that the merge does not write null over a key that the database generates, which it does
where this key is not the result column of the entity. And where the merge has nothing to write to an
existing row, the database reports no row, so the second time the record is all that there is to
return.

## Main definitions

* `Planner.returned`: what a merge returns;
* `BlockingRepository.mergeKeys`, `BlockingRepository.mergeMembers`: what a merge is planned from.

## Main results

* `BlockingRepository.merge_eq_ok`, `BlockingRepository.exists_run_merge`: when a merge by declared
  keys succeeds, and what it does;
* `BlockingRepository.merge_again`: a merge that succeeded is run again.
-/

namespace FilterSql

namespace Planner

variable {σ : Type} (p : Planner) (e : Entity) (spec : MergeSpec)

/-- What a merge returns: the value that the database has reported, unless there is none or it is
null, and what the record holds for the result column else. -/
def returned (reported : Option Value) : Value :=
  (reported.filter fun v => !v.isNull).getD (p.supplied e spec (e.resultColumn? spec.keyColumns))

variable {p e spec} {s s' : Session σ}

/-- A statement is built from the answers kept, and reaches one stage. -/
theorem build_eq_ok_iff {request : Request} {st : Statement} :
    (p.build request).run.run s = (.ok st, s') ↔
      ∃ types, p.builder.run request s.caches.types = (.ok st, types) ∧
        s' = { s with caches := { s.caches with types }, stages := s.stages ++ [.building] } := by
  unfold build
  rw [Action.run_bind_ok (Action.run_advance s .building), Action.run_resolve]
  constructor
  · intro h
    obtain ⟨hst, rfl⟩ := Prod.mk.inj h
    exact ⟨_, Prod.ext hst rfl, rfl⟩
  · rintro ⟨types, hrun, rfl⟩
    unfold Builder.run at hrun
    rw [hrun]

/-- A merge whose columns can be resolved returns a value and leaves the database alone. -/
theorem mergeResult_returned
    (hkeys : ((spec.resolveKeys (p.builder.scope e)).run.run s.caches.types).1 =
      .ok (spec.keys (p.builder.scope e))) (rows : List Record) :
    ∃ s', (p.mergeResult e spec rows).run.run s =
        (.ok (p.returned e spec (rows.head?.bind Record.first?)), s') ∧
      s'.backend = s.backend ∧ s.caches.types.Agree s'.caches.types := by
  unfold mergeResult returned
  cases (rows.head?.bind Record.first?).filter fun v => !v.isNull with
  | some v => exact ⟨s, rfl, rfl, .rfl⟩
  | none =>
    dsimp only
    rw [Action.run_bind_ok ((Action.run_resolve s _).trans (by rw [hkeys]))]
    exact ⟨_, rfl, rfl, (spec.invisible_resolveKeys _).agree _⟩

end Planner

namespace BlockingRepository

variable {σ τ : Type} {r : BlockingRepository σ τ} {e : Entity} {record : Record}
  {qualifiers : List Field} {tx : Option τ} {s s' : Session σ} {v : Value}

/-- A statement that is run reaches two stages. -/
theorem execute_eq_ok_iff {st : Statement} {rows : List Record} :
    (r.execute st tx).run.run s = (.ok rows, s') ↔
      ∃ backend, (r.backend.fetch st tx).run s.backend = (.ok rows, backend) ∧
        s' = { s with backend, stages := s.stages ++ [.executing, .mapping] } := by
  unfold execute
  rw [Action.run_bind_ok (Action.run_advance s .executing)]
  have hask := Action.run_ask { s with stages := s.stages ++ [.executing] } (r.backend.fetch st tx)
  rcases hfetch : (r.backend.fetch st tx).run s.backend with ⟨reply, backend⟩
  rw [hfetch] at hask
  cases reply with
  | error fault =>
    rw [Action.run_bind_error hask]
    exact ⟨fun h => (nomatch h), fun ⟨_, h, _⟩ => (nomatch h)⟩
  | ok rows' =>
    rw [Action.run_bind_ok hask, Action.run_bind_ok (Action.run_advance _ .mapping),
      Action.run_pure]
    constructor
    · intro h
      obtain ⟨hrows, rfl⟩ := Prod.mk.inj h
      obtain rfl := Except.ok.inj hrows
      exact ⟨backend, rfl, by simp⟩
    · rintro ⟨_, h, rfl⟩
      obtain ⟨hrows, rfl⟩ := Prod.mk.inj h
      obtain rfl := Except.ok.inj hrows
      simp

/-- A merge by declared keys builds its statement, runs it, and reads the value to return. -/
theorem merge_eq_ok_iff (hkeys : e.keys ≠ []) :
    (r.merge e record qualifiers tx).run.run s = (.ok v, s') ↔
      ∃ st s₁ rows s₂,
        (r.planner.build { entity := e, operation := .merge { record, qualifiers } }).run.run s =
          (.ok st, s₁) ∧
        (r.execute st tx).run.run s₁ = (.ok rows, s₂) ∧
        (r.planner.mergeResult e { record, qualifiers } rows).run.run s₂ = (.ok v, s') := by
  have hneeds : r.planner.needsKeyColumns e qualifiers = false := by
    simp [Planner.needsKeyColumns, hkeys]
  unfold merge
  rw [hneeds, if_neg Bool.false_ne_true, Action.run_bind_ok (Action.run_pure s [])]
  simp only [Action.run_bind_eq_ok_iff, Planner.merge]
  constructor
  · rintro ⟨st, s₁, hbuild, rows, s₂, hrest⟩
    exact ⟨st, s₁, rows, s₂, hbuild, hrest⟩
  · rintro ⟨st, s₁, rows, s₂, hbuild, hrest⟩
    exact ⟨st, s₁, hbuild, rows, s₂, hrest⟩

/-- A merge by declared keys whose statement is built and run succeeds. It changes the database as
the statement does, and keeps the answers of the chain. -/
theorem exists_run_merge (hkeys : e.keys ≠ []) {st : Statement} {types : TypeChain}
    {rows : List Record} {backend : σ}
    (hbuild : r.planner.builder.run { entity := e, operation := .merge { record, qualifiers } }
      s.caches.types = (.ok st, types))
    (hfetch : (r.backend.fetch st tx).run s.backend = (.ok rows, backend)) :
    ∃ s', (r.merge e record qualifiers tx).run.run s =
        (.ok (r.planner.returned e { record, qualifiers } (rows.head?.bind Record.first?)), s') ∧
      s'.backend = backend ∧ s.caches.types.Agree s'.caches.types := by
  obtain ⟨u, -, hplan⟩ := Builder.run_merge hbuild rfl
  have hagree : s.caches.types.Agree types := Builder.agree_run hbuild
  have hbuilt := Planner.build_eq_ok_iff.2 ⟨types, hbuild, rfl⟩
  have hexecuted := (execute_eq_ok_iff (r := r) (s := { s with
    caches := { s.caches with types }, stages := s.stages ++ [.building] })).2
      ⟨backend, hfetch, rfl⟩
  obtain ⟨s', hresult, hbackend, hagree'⟩ := Planner.mergeResult_returned (p := r.planner)
    (e := e) (s := { backend, caches := { s.caches with types },
                     stages := s.stages ++ [.building] ++ [.executing, .mapping] })
    (MergeSpec.resolveKeys_fst hplan _) rows
  exact ⟨s', (merge_eq_ok_iff hkeys).2 ⟨st, _, rows, _, hbuilt, hexecuted, hresult⟩, hbackend,
    hagree.trans hagree'⟩

/-- A merge by declared keys that succeeded has built its statement and run it. -/
theorem merge_eq_ok (hkeys : e.keys ≠ [])
    (h : (r.merge e record qualifiers tx).run.run s = (.ok v, s')) :
    ∃ st types rows,
      r.planner.builder.run { entity := e, operation := .merge { record, qualifiers } }
        s.caches.types = (.ok st, types) ∧
      (r.backend.fetch st tx).run s.backend = (.ok rows, s'.backend) ∧
      v = r.planner.returned e { record, qualifiers } (rows.head?.bind Record.first?) ∧
      s.caches.types.Agree s'.caches.types := by
  obtain ⟨st, s₁, rows, s₂, hbuilt, hexecuted, -⟩ := (merge_eq_ok_iff hkeys).1 h
  obtain ⟨types, hbuild, rfl⟩ := Planner.build_eq_ok_iff.1 hbuilt
  obtain ⟨backend, hfetch, rfl⟩ := execute_eq_ok_iff.1 hexecuted
  obtain ⟨s₃, hrun, rfl, hagree⟩ := exists_run_merge hkeys hbuild hfetch
  obtain ⟨hv, rfl⟩ := Prod.mk.inj (h.symm.trans hrun)
  exact ⟨st, types, rows, hbuild, hfetch, Except.ok.inj hv, hagree⟩

end BlockingRepository

namespace Store.Server

/-- A connection that was replaced is the new one. -/
theorem connection_setConnection (s : Server) (name : String) (c : Connection) :
    (s.setConnection name c).connection name = c := by
  simp [connection, setConnection, Assoc.get?_insert]

/-- Replacing a connection again changes nothing. -/
theorem setConnection_setConnection (s : Server) (name : String) (c : Connection) :
    (s.setConnection name c).setConnection name c = s.setConnection name c := by
  simp only [setConnection, Assoc.insert_insert]

/-- A statement that is given no transaction of another connection is run on its own connection. -/
theorem run_fetch {name : String} {st : Statement} {tx : Option Transaction} {s : Server}
    {db : Database} {rows : List Record} (howner : ¬ tx.any fun t => t.owner ≠ name)
    (h : run (s.connection name).current st = .ok (db, rows)) :
    (fetch name st tx).run s =
      (.ok rows, s.setConnection name { s.connection name with current := db }) := by
  change fetch name st tx s = _
  change runBy prepare _ st = _ at h
  unfold fetch fetchBy
  rw [if_neg howner]
  simp only [h]

/-- A statement that ran was given no transaction of another connection. -/
theorem fetch_eq_ok {name : String} {st : Statement} {tx : Option Transaction} {s s' : Server}
    {rows : List Record} (h : (fetch name st tx).run s = (.ok rows, s')) :
    (¬ tx.any fun t => t.owner ≠ name) ∧
      ∃ db, run (s.connection name).current st = .ok (db, rows) ∧
        s' = s.setConnection name { s.connection name with current := db } := by
  change fetch name st tx s = _ at h
  unfold fetch fetchBy at h
  split_ifs at h with hforeign
  · cases h
  · refine ⟨hforeign, ?_⟩
    dsimp only at h
    split at h
    · next db rows' hrun =>
      obtain ⟨hrows, rfl⟩ := Prod.mk.inj h
      obtain rfl := Except.ok.inj hrows
      exact ⟨db, hrun, rfl⟩
    · cases h

end Store.Server

namespace BlockingRepository

open Store

/-- The columns that a merge matches on and reports, for declared keys. -/
def mergeKeys {σ τ : Type} (r : BlockingRepository σ τ) (e : Entity) (record : Record)
    (qualifiers : List Field) : MergeKeys :=
  ({ record, qualifiers } : MergeSpec).keys (r.planner.builder.scope e)

/-- The members of a merged record with the columns that they have under a chain. -/
def mergeMembers {σ τ : Type} (r : BlockingRepository σ τ) (e : Entity) (record : Record)
    (qualifiers : List Field) (types : TypeChain) : List Member :=
  ({ record, qualifiers } : MergeSpec).located (r.planner.builder.scope e) types

/-- A merge into a well-formed table of SQLite that succeeded is run again. The entity declares a key,
the record has a value for each column that rows are matched on, and writes no null over a generated
key. Then the merge succeeds again and leaves all tables of all connections as they are. If some
member is written over existing rows, both merges return the value that identifies the row that the
record was merged into. If none is, the second one returns what the record holds for the result
column, and so does the first one unless it has inserted the row. -/
theorem merge_again {name : String} {r : BlockingRepository Server Transaction} {e : Entity}
    {record : Record} {qualifiers : List Field} {tx : Option Transaction} {s s₁ : Session Server}
    {v : Value} {t : Table} {keys : MergeKeys} {members : List Member}
    (hbackend : r.backend = Server.backend name) (hdeclared : e.keys ≠ [])
    (hkeys : r.mergeKeys e record qualifiers = keys)
    (hmembers : r.mergeMembers e record qualifiers s.caches.types = members)
    (ht : (s.backend.connection name).current.table? e.table.schema e.table.name = some t)
    (hwf : t.WellFormed) (hrepeats : t.Repeats keys members)
    (hfirst : (r.merge e record qualifiers tx).perform s = (.ok v, s₁)) :
    ∃ t' w v₂ s₂,
      (s₁.backend.connection name).current.table? e.table.schema e.table.name = some t' ∧
      t.IsWritten keys members t' w ∧
      (r.merge e record qualifiers tx).perform s₁ = (.ok v₂, s₂) ∧ s₂.backend = s₁.backend ∧
      if ∃ m ∈ members, keys.Overwrites m then
        v = r.planner.returned e { record, qualifiers } (t.resultValue? keys w) ∧ v₂ = v
      else
        (v = r.planner.returned e { record, qualifiers } (t.resultValue? keys w) ∨ v = v₂) ∧
          v₂ = r.planner.supplied e { record, qualifiers } keys.result := by
  obtain ⟨backend, options⟩ := r
  obtain rfl : backend = Server.backend name := hbackend
  obtain ⟨s', hmerged, rfl⟩ := Action.perform_eq_ok_iff.1 hfirst
  obtain ⟨st, types, rows, hbuild, hfetch, rfl, hagree⟩ := merge_eq_ok hdeclared hmerged
  -- the first statement ran and left a row for the record
  obtain ⟨howner, db, hrun, hserver⟩ := Server.fetch_eq_ok hfetch
  obtain ⟨t', w, rows', ht', hwritten, hrun', hreported⟩ :=
    Builder.run_again rfl rfl hbuild hkeys hmembers ht hwf hrepeats hrun
  have hconnection : (s'.backend.connection name).current = db := by
    rw [hserver, Server.connection_setConnection]
  -- the same statement is built again, and runs on the tables that it left
  obtain ⟨types', hbuild'⟩ := Builder.run_of_agree rfl hagree hbuild
  rw [← hconnection] at hrun'
  have hfetch' := Server.run_fetch howner hrun'
  have hsame : s'.backend.setConnection name { s'.backend.connection name with
      current := (s'.backend.connection name).current } = s'.backend := by
    rw [hserver, Server.connection_setConnection, Server.setConnection_setConnection]
  rw [hsame] at hfetch'
  obtain ⟨s'', hmerged', hserver', -⟩ := exists_run_merge
    (r := { backend := Server.backend name, options }) (s := { s' with stages := [.requested] })
    hdeclared hbuild' hfetch'
  refine ⟨t', w, _, _, by rwa [hconnection], hwritten,
    Action.perform_eq_ok_iff.2 ⟨s'', hmerged', rfl⟩, hserver', ?_⟩
  subst hkeys
  split_ifs at hreported ⊢ with hover
  · obtain ⟨hrows, rfl⟩ := hreported
    rw [hrows]
    exact ⟨rfl, rfl⟩
  · obtain ⟨hrows, rfl⟩ := hreported
    refine ⟨hrows.imp (fun hreport => by rw [hreport]) fun hnone => by rw [hnone], rfl⟩

/-- Merging an account by its unique address a second time returns its key again. -/
theorem merge_again_account :
    let r : BlockingRepository Server Transaction := { backend := Server.backend "a" }
    let e : Entity :=
      { name := "Account", table := { name := "account" }
        properties := [{ name := "Id", kind := .int, primary := true, identity := true },
          { name := "Email", kind := .text }, { name := "Name", kind := .text }] }
    let t : Table :=
      { schema := { name := "account", columns := ["Id", "Email", "Name"], auto := some "Id"
                    unique := ["Email"] }
        rows := [[.integer 1, .text "a", .text "A"], [.integer 2, .text "b", .text "B"]] }
    let record : Record := ⟨[("Id", .null), ("Email", .text "b"), ("Name", .text "N")]⟩
    let qualifiers : List Field := [{ name := "Email" }]
    let s : Session Server :=
      { backend := { connections := [("a", { current := [t] })] }, caches := {} }
    e.keys ≠ [] ∧ t.WellFormed ∧
      t.Repeats (r.mergeKeys e record qualifiers) (r.mergeMembers e record qualifiers {}) ∧
      ∃ s₁ s₂, (r.merge e record qualifiers none).perform s = (.ok (.int 2), s₁) ∧
        (r.merge e record qualifiers none).perform s₁ = (.ok (.int 2), s₂) ∧
        s₂.backend = s₁.backend := by
  intro r e t record qualifiers s
  let keys : MergeKeys :=
    { qualifiers := ["Email"], result := some "Id", identity := some "Id" }
  let members : List Member :=
    [{ column := ⟨"Id", none⟩, value := .null }, { column := ⟨"Email", none⟩, value := .text "b" },
      { column := ⟨"Name", none⟩, value := .text "N" }]
  have hkeys : r.mergeKeys e record qualifiers = keys := by rfl
  have hmembers : r.mergeMembers e record qualifiers {} = members := by rfl
  have hbackend : r.backend = Server.backend "a" := rfl
  have ht : (s.backend.connection "a").current.table? e.table.schema e.table.name = some t := by
    change Database.table? [t] none "account" = some t
    simp [Database.table?, sameName, t]
  have hdeclared : e.keys ≠ [] := by simp [Entity.keys, e]
  have hauto : t.schema.autoPosition? = some 0 := by decide
  have hsets : t.schema.uniqueSets = [[0], [1]] := by decide
  have hwf : t.WellFormed :=
    { columns := by decide
      sets := by decide
      width := by decide
      auto := by simp [hauto, t, Row.at]
      unique := by
        rw [hsets]
        decide }
  have hrepeats : t.Repeats keys members :=
    { matched := by
        intro q hq
        obtain rfl := List.mem_singleton.1 hq
        have hcell : ∀ m ∈ members, t.schema.position? m.column.name = some 1 → m.cell ≠ .null := by
          decide
        refine ⟨1, by decide, ⟨{ column := ⟨"Email", none⟩, value := .text "b" }, ?_⟩, ?_⟩
        · exact ⟨by simp [members], by decide, by decide⟩
        · rintro m ⟨hm, -, hposition⟩
          exact hcell m hm hposition
      key := by
        have hkept : ∀ m ∈ members, t.schema.position? m.column.name = some 0 →
            ¬ keys.Overwrites m := by
          decide
        rintro i m hi ⟨hm, hover, hposition⟩
        rw [hauto, Option.some.injEq] at hi
        exact absurd hover (hkept m hm (hi ▸ hposition))
      room := fun _ _ _ => by simp [t] }
  obtain ⟨s₁, hfirst⟩ :
      ∃ s₁, (r.merge e record qualifiers none).perform s = (.ok (.int 2), s₁) := by
    simp only [r, e, t, record, qualifiers, s]
    exact ⟨_, rfl⟩
  obtain ⟨_, _, v₂, s₂, -, -, hsecond, hunchanged, hvalue⟩ :=
    merge_again hbackend hdeclared hkeys hmembers ht hwf hrepeats hfirst
  rw [if_pos (by decide)] at hvalue
  obtain ⟨-, rfl⟩ := hvalue
  refine ⟨hdeclared, hwf, ?_, s₁, s₂, hfirst, hsecond, hunchanged⟩
  rw [hkeys, hmembers]
  exact hrepeats

/-- Without its conditions this fails. With nothing to write to the row that it finds, the second merge
returns null instead of the row's key. A null that is written over a key that the entity does not
declare gives the row another key each time. And a float that is not a number is stored as null, so
that no row is found for it. -/
theorem merge_again_fails :
    let r : BlockingRepository Server Transaction := { backend := Server.backend "a" }
    let start (columns unique : List String) : Session Server :=
      { backend :=
          { connections := [("a", { current :=
              [{ schema := { name := "t", columns, unique, auto := some "Id" } }] })] }
        caches := {} }
    let rows (s : Session Server) : List (List Row) :=
      (s.backend.connection "a").current.map (·.rows)
    let email : Property := { name := "Email", kind := .text }
    let merges (e : Entity) (record : List (String × Value)) (qualifier : String)
        (s : Session Server) : Except QueryError Value × Session Server :=
      (r.merge e ⟨record⟩ [{ name := qualifier }] none).perform s
    let account : Entity :=
      { name := "E", table := { name := "t" }
        properties := [{ name := "Id", kind := .int, primary := true, identity := true }, email] }
    let undeclared : Entity :=
      { name := "E", table := { name := "t" }, properties := [{ email with primary := true }] }
    let score : Entity :=
      { name := "E", table := { name := "t" }
        properties := [{ name := "Score", kind := .float, primary := true }] }
    (let first := merges account [("Email", .text "x")] "Email" (start ["Id", "Email"] ["Email"])
      let second := merges account [("Email", .text "x")] "Email" first.2
      first.1 = .ok (.int 1) ∧ second.1 = .ok .null) ∧
    (let record := [("Email", .text "x"), ("Id", .null), ("Name", .text "n")]
      let first := merges undeclared record "Email" (start ["Id", "Email", "Name"] ["Email"])
      let second := merges undeclared record "Email" first.2
      first.1 = .ok (.text "x") ∧ rows first.2 = [[[.integer 1, .text "x", .text "n"]]] ∧
        rows second.2 = [[[.integer 2, .text "x", .text "n"]]]) ∧
    (let record := [("Score", .float Decimal.nan)]
      let first := merges score record "Score" (start ["Id", "Score"] ["Score"])
      let second := merges score record "Score" first.2
      first.1 = .ok (.float Decimal.nan) ∧ rows first.2 = [[[.integer 1, .null]]] ∧
        rows second.2 = [[[.integer 1, .null], [.integer 2, .null]]]) := by
  exact ⟨⟨rfl, rfl⟩, ⟨rfl, rfl, rfl⟩, rfl, rfl, rfl⟩

end BlockingRepository

end FilterSql
