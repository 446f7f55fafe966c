import FilterSql.Proofs.First
import FilterSql.Proofs.Requests

/-!
# What a merge is planned to

A merge that is planned at all is planned from two things: its members with the columns that they
have at the start, and the columns that it matches on and reports. Everything else follows from
these, whatever the type chain has been asked in between. The names of a merge are looked up one after
another, up to the first one that is refused.

## Main definitions

* `MergeSpec.located`: the members of a merged record with their columns;
* `MergeSpec.Carries`: some member is written to a column;
* `MergeSpec.keys`: the columns that a merge matches on and reports.

## Main results

* `MergeSpec.resolveKeys_eq_ok_iff`: when the columns of a merge are resolved, and to what;
* `MergeSpec.plan_eq_ok`: what a merge is planned to;
* `Builder.run_merge`: the statement that a merge is built to.
-/

namespace FilterSql

namespace MergeSpec

variable (spec : MergeSpec) (s : Scope)

/-- The members of the record with the columns that they have under a chain. -/
def located (types : TypeChain) : List Member :=
  spec.record.entries.map fun entry =>
    { column := ((s.column entry.1 entry.2.kind).run types).1, value := entry.2 }

/-- The columns that a merge matches on: those of the given qualifiers, else the key columns. -/
def matchColumns : List String :=
  if spec.qualifiers = [] then s.entity.keyColumns spec.keyColumns
  else spec.qualifiers.map fun f => s.entity.columnOf s.fieldCase f.name

/-- Some member of the record is written to a column. -/
def Carries (column : String) : Prop :=
  ∃ name ∈ spec.record.names, s.entity.columnOf s.fieldCase name = column

/-- The columns that a merge matches on and reports. -/
def keys : MergeKeys :=
  { qualifiers := spec.matchColumns s
    result := s.entity.resultColumn? spec.keyColumns
    identity := s.entity.identityColumn? }

/-- The members are written to the columns that their names stand for. -/
theorem map_column_located (types : TypeChain) :
    (spec.located s types).map (·.column.name) =
      spec.record.names.map (s.entity.columnOf s.fieldCase) := by
  simp [located, Record.names, Function.comp_def]

/-- Chains that give the same answers locate the members alike. -/
theorem located_congr {types types' : TypeChain} (h : types.Agree types') :
    spec.located s types = spec.located s types' := by
  simp only [located, (s.invisible_column _ _).result h]

/-- The members are located by the answers of the chain alone. -/
theorem invisible_members : Invisible (spec.members s) :=
  .mapM (fun _ => (s.invisible_column _ _).bind fun _ => .pure _) _

/-- The members get the columns that they have at the start. -/
theorem members_fst (types : TypeChain) :
    ((spec.members s).run types).1 = spec.located s types :=
  Invisible.mapM_fst (fun _ => (s.invisible_column _ _).bind fun _ => .pure _) types _

/-- Without a list among the members, none of them is one. -/
theorem isList_eq_false_of_listMember? {spec : MergeSpec} (h : spec.listMember? = none) :
    ∀ entry ∈ spec.record.entries, entry.2.isList = false := by
  simpa [listMember?] using h

/-! ### Columns to match on -/

/-- A written column is searched for by the answers of the chain alone. -/
theorem invisible_isWritten (column : String) : Invisible (spec.isWritten s column) :=
  .anyM (fun _ => (s.invisible_column _ _).bind fun _ => .pure _) _

/-- The search finds a column when some member is written to it. -/
theorem isWritten_fst (column : String) (types : TypeChain) :
    ((spec.isWritten s column).run types).1 = true ↔ spec.Carries s column := by
  have hany := Invisible.anyM_fst (p := fun name => return (← s.column name none).name = column)
    (fun _ => (s.invisible_column _ _).bind fun _ => .pure _) types spec.record.names
  rw [isWritten, hany, List.any_eq_true, Carries]
  refine exists_congr fun name => and_congr_right fun _ => ?_
  rw [← s.column_name name none types]
  exact decide_eq_true_iff

/-- A column is asked for by the answers of the chain alone. -/
theorem invisible_require (name column : String) : Invisible (spec.require s name column).run := by
  refine Building.invisible_bind (Building.invisible_lift (spec.invisible_isWritten s column))
    fun written => ?_
  cases written with
  | true => exact Building.invisible_pure column
  | false => exact .pure (Except.error (QueryError.unknownQualifier name))

/-- A column is found when some member is written to it, and else refused by its name. -/
theorem require_fst (name column : String) (types : TypeChain) [Decidable (spec.Carries s column)] :
    ((spec.require s name column).run.run types).1 =
      if spec.Carries s column then .ok column else .error (.unknownQualifier name) := by
  simp only [← spec.isWritten_fst s column types]
  unfold require
  rw [Building.run_bind_lift]
  cases ((spec.isWritten s column).run types).1 <;> rfl

/-- A given qualifier is resolved by the answers of the chain alone. -/
theorem invisible_qualifier (f : Field) : Invisible (spec.qualifier s f).run :=
  Building.invisible_bind (Building.invisible_lift (s.invisible_column _ _)) fun column =>
    spec.invisible_require s f.name column.name

/-- A given qualifier stands for the column of its name, which is asked for. -/
theorem qualifier_fst (f : Field) (types : TypeChain) :
    ((spec.qualifier s f).run.run types).1 =
      ((spec.require s f.name (s.entity.columnOf s.fieldCase f.name)).run.run types).1 := by
  have hagree := (s.invisible_column f.name f.kind).agree types
  unfold qualifier
  rw [Building.run_bind_lift, Scope.fieldColumn, s.column_name]
  exact ((spec.invisible_require s f.name _).result hagree).symm

variable {spec s}

/-- The columns of several names are resolved when some member is written to each of them. -/
theorem columns_eq_ok_iff {α : Type} {f : α → Building String} {name column : α → String}
    {types : TypeChain} (hf : ∀ x, Invisible (f x).run)
    (hrun : ∀ x, ((f x).run.run types).1 =
      ((spec.require s (name x) (column x)).run.run types).1) {xs : List α} {columns : List String} :
    ((xs.mapM f).run.run types).1 = .ok columns ↔
      (∀ x ∈ xs, spec.Carries s (column x)) ∧ columns = xs.map column := by
  classical
  have hone (x : α) (c : String) : ((f x).run.run types).1 = .ok c ↔
      spec.Carries s (column x) ∧ column x = c := by
    rw [hrun, require_fst]
    split <;> simp [*]
  rw [Building.fst_mapM hf, mapM_eq_ok_iff]
  simp only [hone]
  rw [List.forall₂_and_left, ← List.forall₂_map_left_iff, List.forall₂_eq_eq_eq, eq_comm]

/-- The columns of several names are refused for the first one that no member is written to. -/
theorem columns_eq_error_iff {α : Type} {f : α → Building String} {name column : α → String}
    {types : TypeChain} (hf : ∀ x, Invisible (f x).run)
    (hrun : ∀ x, ((f x).run.run types).1 =
      ((spec.require s (name x) (column x)).run.run types).1) {xs : List α} {e : QueryError} :
    ((xs.mapM f).run.run types).1 = .error e ↔
      ∃ x, FirstWith (fun x => ¬ spec.Carries s (column x)) xs x ∧
        e = .unknownQualifier (name x) := by
  classical
  have hone (x : α) (err : QueryError) : ((f x).run.run types).1 = .error err ↔
      ¬ spec.Carries s (column x) ∧ err = .unknownQualifier (name x) := by
    rw [hrun, require_fst]
    split <;> simp [*, eq_comm]
  rw [Building.fst_mapM hf, mapM_eq_error_iff]
  simp only [hone, exists_and_left, exists_eq, and_true]
  exact exists_congr fun x => and_congr_right fun h => and_iff_right h.1

variable (spec s)

/-- The columns to match on are resolved by the answers of the chain alone. -/
theorem invisible_qualifierColumns : Invisible (spec.qualifierColumns s).run := by
  unfold qualifierColumns
  split
  · split
    · exact .pure (Except.error (QueryError.noQualifierAvailable _))
    · exact Building.invisible_mapM (fun k => spec.invisible_require s k k) _
  · exact Building.invisible_mapM (spec.invisible_qualifier s) _

/-- The columns that a merge matches on and reports are resolved by the answers of the chain alone. -/
theorem invisible_resolveKeys : Invisible (spec.resolveKeys s).run :=
  Building.invisible_bind (spec.invisible_qualifierColumns s) fun _ => Building.invisible_pure _

variable {spec s}

/-- Rows are matched on the columns of the given qualifiers, else on the key columns. There is at
least one, and every one of them is written by some member. -/
theorem qualifierColumns_eq_ok_iff {types : TypeChain} {columns : List String} :
    ((spec.qualifierColumns s).run.run types).1 = .ok columns ↔
      spec.matchColumns s ≠ [] ∧ (∀ column ∈ spec.matchColumns s, spec.Carries s column) ∧
        columns = spec.matchColumns s := by
  unfold qualifierColumns matchColumns
  cases spec.qualifiers with
  | nil =>
    rw [if_pos rfl]
    cases s.entity.keyColumns spec.keyColumns with
    | nil => exact ⟨fun h => (nomatch h), fun h => absurd rfl h.1⟩
    | cons k ks =>
      refine (columns_eq_ok_iff (fun k => spec.invisible_require s k k) fun _ => rfl).trans ?_
      rw [and_iff_right (List.cons_ne_nil k ks)]
      simp
  | cons f fs =>
    rw [if_neg (List.cons_ne_nil f fs)]
    refine (columns_eq_ok_iff (spec.invisible_qualifier s) (spec.qualifier_fst s · types)).trans ?_
    simp

/-- The columns of a merge are resolved when there is a column to match on, and some member is written
to each of these. -/
theorem resolveKeys_eq_ok_iff {types : TypeChain} {keys : MergeKeys} :
    ((spec.resolveKeys s).run.run types).1 = .ok keys ↔
      spec.matchColumns s ≠ [] ∧ (∀ column ∈ spec.matchColumns s, spec.Carries s column) ∧
        keys = spec.keys s := by
  unfold resolveKeys
  rw [Building.fst_bind (spec.invisible_qualifierColumns s) fun _ => Building.invisible_pure _,
    bind_eq_ok_iff]
  simp only [qualifierColumns_eq_ok_iff]
  constructor
  · rintro ⟨_, ⟨hkeyed, hcarried, rfl⟩, hkeys⟩
    exact ⟨hkeyed, hcarried, (Except.ok.inj hkeys).symm⟩
  · rintro ⟨hkeyed, hcarried, rfl⟩
    exact ⟨_, ⟨hkeyed, hcarried, rfl⟩, rfl⟩

/-! ### Planning -/

variable (spec s) (d : Dialect)

/-- A merge is planned by the answers of the chain alone. -/
theorem invisible_plan : Invisible (spec.plan d s).run := by
  unfold plan
  cases spec.listMember? with
  | some name => exact .pure (Except.error (QueryError.mergeListValue name))
  | none =>
    exact Building.invisible_bind (spec.invisible_resolveKeys s) fun _ =>
      Building.invisible_bind (Building.invisible_mk _) fun _ =>
        Building.invisible_bind (Building.invisible_lift (spec.invisible_members s)) fun _ =>
          Building.invisible_pure _

/-- A merge without lists is planned in three steps: its columns are resolved, they are compared with
the key where this matters, and the clauses are put together. -/
theorem plan_fst (types : TypeChain) :
    ((spec.plan d s).run.run types).1 =
      match spec.listMember? with
      | some name => .error (.mergeListValue name)
      | none => do
        let keys ← ((spec.resolveKeys s).run.run types).1
        spec.checkKey d s.entity keys.qualifiers
        return keys.plan d.upsertStyle s.entity.table (spec.located s types) := by
  unfold plan
  cases spec.listMember? with
  | some name => rfl
  | none =>
    refine (Building.fst_bind (spec.invisible_resolveKeys s) fun _ =>
      Building.invisible_bind (Building.invisible_mk _) fun _ =>
        Building.invisible_bind (Building.invisible_lift (spec.invisible_members s)) fun _ =>
          Building.invisible_pure _).trans ?_
    congr 1
    funext keys
    rw [Building.run_bind_mk, ← members_fst]
    cases spec.checkKey d s.entity keys.qualifiers <;> rfl

variable {spec s d}

/-- A merge is planned when no member holds a list, there is a column to match on, and every such
column is written by some member. -/
theorem plan_eq_ok {types types' : TypeChain} {u : Upsert} {ps : List Parameter}
    (h : (spec.plan d s).run.run types = (.ok (u, ps), types')) :
    (∀ entry ∈ spec.record.entries, entry.2.isList = false) ∧ spec.matchColumns s ≠ [] ∧
      (∀ q ∈ spec.matchColumns s, q ∈ spec.record.names.map (s.entity.columnOf s.fieldCase)) ∧
      types.Agree types' ∧
      (spec.keys s).plan d.upsertStyle s.entity.table (spec.located s types) = (u, ps) := by
  have hagree := (spec.invisible_plan s d).agree types
  have hplanned := spec.plan_fst s d types
  rw [h] at hagree hplanned
  cases hlist : spec.listMember? with
  | some name =>
    rw [hlist] at hplanned
    cases hplanned
  | none =>
    rw [hlist] at hplanned
    obtain ⟨keys, hkeys, hnext⟩ := bind_eq_ok_iff.1 hplanned.symm
    obtain ⟨_, -, hpure⟩ := bind_eq_ok_iff.1 hnext
    obtain ⟨hkeyed, hcarried, rfl⟩ := resolveKeys_eq_ok_iff.1 hkeys
    exact ⟨isList_eq_false_of_listMember? hlist, hkeyed,
      fun q hq => List.mem_map.2 (hcarried q hq), hagree, Except.ok.inj hpure⟩

/-- The columns of a merge that is planned are resolved at any time to those that it is planned with. -/
theorem resolveKeys_fst {types types' : TypeChain} {u : Upsert} {ps : List Parameter}
    (h : (spec.plan d s).run.run types = (.ok (u, ps), types')) (types₁ : TypeChain) :
    ((spec.resolveKeys s).run.run types₁).1 = .ok (spec.keys s) := by
  obtain ⟨-, hkeyed, hcarried, -⟩ := plan_eq_ok h
  exact resolveKeys_eq_ok_iff.2 ⟨hkeyed, fun q hq => List.mem_map.1 (hcarried q hq), rfl⟩

end MergeSpec

/-- A merge is built to its statement by the answers of the chain alone. -/
theorem Builder.invisible_build_merge (b : Builder) {r : Request} {spec : MergeSpec}
    (hop : r.operation = .merge spec) : Invisible (b.build r).run := by
  unfold build
  rw [hop]
  exact Building.invisible_bind (spec.invisible_plan _ _) fun _ => Building.invisible_pure _

/-- A merge is built to the same statement under chains that give the same answers. -/
theorem Builder.run_of_agree {b : Builder} {r : Request} {spec : MergeSpec}
    {types types' types₁ : TypeChain} {st : Statement} (hop : r.operation = .merge spec)
    (hagree : types.Agree types₁) (h : b.run r types = (.ok st, types')) :
    ∃ types₁', b.run r types₁ = (.ok st, types₁') := by
  have hresult := (b.invisible_build_merge hop).result hagree
  change (b.run r types).1 = (b.run r types₁).1 at hresult
  rw [h] at hresult
  exact ⟨(b.run r types₁).2, Prod.ext hresult.symm rfl⟩

/-- The statement that a merge is built to: its parts and parameters are those of the plan. -/
theorem Builder.run_merge {b : Builder} {r : Request} {spec : MergeSpec} {types types' : TypeChain}
    {st : Statement} (h : b.run r types = (.ok st, types')) (hop : r.operation = .merge spec) :
    ∃ u, st.command = .upsert u ∧
      (spec.plan b.dialect (b.scope r.entity)).run.run types = (.ok (u, st.parameters), types') := by
  obtain ⟨-, hcommand⟩ := run_eq_ok h
  rw [hop] at hcommand
  exact hcommand.2

/-- Where upserts take no hints, the statement of a merge has none. -/
theorem Builder.hint_run_merge {b : Builder} {r : Request} {spec : MergeSpec}
    {types types' : TypeChain} {st : Statement} (h : b.run r types = (.ok st, types'))
    (hop : r.operation = .merge spec) (hhints : b.dialect.upsertTakesHints = false) :
    st.hint = none := by
  obtain ⟨-, hresult⟩ := run_eq_ok h
  rw [hop] at hresult
  exact hresult.1.trans (if_neg (by simp [hhints]))

end FilterSql
