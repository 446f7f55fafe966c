import FilterSql.Proofs.First
import FilterSql.Proofs.Merging

/-!
# When a merge is accepted

A merge is refused for one of four reasons, which are looked for in this order: a member of the record
holds a list, there is no column to match on, no member is written to one of these columns, or the
dialect matches on the key of the table and other columns are given. The first reason that applies is
the one that is reported, and where there is a choice it names the first member, qualifier or key
column that it applies to.

## Main definitions

* `MergeSpec.Refused`: why a merge is refused;
* `MergeSpec.Accepted`: what is asked of a merge.

## Main results

* `MergeSpec.plan_eq_error_iff`, `MergeSpec.exists_plan_eq_ok_iff`: when planning a merge is refused,
  and when it is not;
* `Builder.refuses_merge_iff`: the same for building its statement, with the qualifiers in any order.
-/

namespace FilterSql

/-! ### The checks of a merge -/

/-- There is no key column when the entity declares no key and none is reported. -/
theorem Entity.keyColumns_eq_nil_iff {e : Entity} {reported : List String} :
    e.keyColumns reported = [] ↔ e.keys = [] ∧ reported = [] := by
  unfold keyColumns
  cases e.keys <;> simp

namespace MergeSpec

variable (spec : MergeSpec) (d : Dialect) (s : Scope)

/-- Only where an upsert matches on the key of the table, and other columns are given, are the columns
refused as not being the key. -/
theorem checkKey_eq_error_iff {spec : MergeSpec} {d : Dialect} {e : Entity} {columns : List String}
    {err : QueryError} :
    spec.checkKey d e columns = .error err ↔
      d = .mysql ∧ spec.qualifiers ≠ [] ∧ ¬ columns.Perm (e.keyColumns spec.keyColumns) ∧
        err = .qualifierNotKey d columns := by
  -- of the dialects, only MySQL has upserts that match on the key
  have hstyle : d.upsertStyle = .onDuplicateKey ↔ d = .mysql := by cases d <;> decide
  have hperm : (!columns.isPerm (e.keyColumns spec.keyColumns)) = true ↔
      ¬ columns.Perm (e.keyColumns spec.keyColumns) := by
    rw [Bool.not_eq_true', ← Bool.not_eq_true, List.isPerm_iff]
  unfold checkKey
  split
  · next hother =>
    obtain ⟨hd, hgiven, hkey⟩ := hother
    rw [Except.error.injEq, eq_comm]
    exact ⟨fun herr => ⟨hstyle.1 hd, hgiven, hperm.1 hkey, herr⟩, fun h => h.2.2.2⟩
  · next hother =>
    refine ⟨fun h => (nomatch h), fun ⟨hd, hgiven, hkey, _⟩ => ?_⟩
    exact absurd ⟨hstyle.2 hd, hgiven, hperm.2 hkey⟩ hother

/-- Nothing else is asked of the columns. -/
theorem checkKey_eq_ok_iff {spec : MergeSpec} {d : Dialect} {e : Entity} {columns : List String}
    {u : Unit} :
    spec.checkKey d e columns = .ok u ↔
      (d = .mysql → spec.qualifiers ≠ [] → columns.Perm (e.keyColumns spec.keyColumns)) := by
  constructor
  · intro hchecked hd hgiven
    by_contra hother
    rw [checkKey_eq_error_iff.2 ⟨hd, hgiven, hother, rfl⟩] at hchecked
    cases hchecked
  · intro hkey
    cases hcheck : spec.checkKey d e columns with
    | ok => rfl
    | error err =>
      obtain ⟨hd, hgiven, hother, -⟩ := checkKey_eq_error_iff.1 hcheck
      exact absurd (hkey hd hgiven) hother

/-! ### Why a merge is refused -/

/-- No member of the record holds a list. -/
def Scalar : Prop :=
  ∀ entry ∈ spec.record.entries, entry.2.isList = false

/-- Why there is nothing to match rows on. -/
inductive Unmatched : QueryError → Prop
  /-- Without qualifiers, the entity declares no key, and none is reported. -/
  | noQualifier (ungiven : spec.qualifiers = []) (undeclared : s.entity.keys = [])
    (unreported : spec.keyColumns = []) :
    Unmatched (.noQualifierAvailable s.entity.table.display)
  /-- No member is written to the column of a given qualifier. -/
  | unknownQualifier {f : Field}
    (first : FirstWith (fun f => ¬ spec.Carries s (s.entity.columnOf s.fieldCase f.name))
      spec.qualifiers f) : Unmatched (.unknownQualifier f.name)
  /-- Without qualifiers, no member is written to a key column. -/
  | unknownKey {column : String} (ungiven : spec.qualifiers = [])
    (first : FirstWith (fun column => ¬ spec.Carries s column)
      (s.entity.keyColumns spec.keyColumns) column) : Unmatched (.unknownQualifier column)

/-- Why a merge is refused. -/
inductive Refused : QueryError → Prop
  /-- A member of the record holds a list. -/
  | listValue {name : String} {v : Value}
    (first : FirstWith (fun entry => entry.2.isList = true) spec.record.entries (name, v)) :
    Refused (.mergeListValue name)
  /-- There is nothing to match rows on. -/
  | unmatched {e : QueryError} (scalar : spec.Scalar) (unmatched : spec.Unmatched s e) : Refused e
  /-- MySQL matches on the key of the table, and the given qualifiers are not its columns. -/
  | notKey (scalar : spec.Scalar) (mysql : d = .mysql) (given : spec.qualifiers ≠ [])
    (carried : ∀ column ∈ spec.matchColumns s, spec.Carries s column)
    (other : ¬ (spec.matchColumns s).Perm (s.entity.keyColumns spec.keyColumns)) :
    Refused (.qualifierNotKey .mysql (spec.matchColumns s))

/-- What is asked of a merge. -/
structure Accepted : Prop where
  /-- No member of the record holds a list. -/
  scalar : spec.Scalar
  /-- There is a column to match on. -/
  keyed : spec.matchColumns s ≠ []
  /-- Some member is written to each of these columns. -/
  carried : ∀ column ∈ spec.matchColumns s, spec.Carries s column
  /-- In MySQL the given qualifiers are the columns of the key, in any order. -/
  key : d = .mysql → spec.qualifiers ≠ [] →
    (spec.matchColumns s).Perm (s.entity.keyColumns spec.keyColumns)

variable {spec d s}

/-- A member is written to a column when the column is one of those of the record. -/
theorem carries_iff (types : TypeChain) {column : String} :
    spec.Carries s column ↔ column ∈ (spec.located s types).map (·.column.name) := by
  rw [map_column_located, List.mem_map]
  rfl

/-- Without a list among its members, a record holds scalars only. -/
theorem listMember?_eq_none_iff : spec.listMember? = none ↔ spec.Scalar := by
  simp [listMember?, Scalar]

/-- The list that is reported is the first one among the members. -/
theorem listMember?_eq_some_iff {name : String} :
    spec.listMember? = some name ↔
      ∃ v, FirstWith (fun entry => entry.2.isList = true) spec.record.entries (name, v) := by
  rw [listMember?, Option.map_eq_some_iff]
  simp only [find?_eq_some_iff_firstWith fun _ => Iff.rfl, Prod.exists]
  constructor
  · rintro ⟨_, v, hfirst, rfl⟩
    exact ⟨v, hfirst⟩
  · rintro ⟨v, hfirst⟩
    exact ⟨name, v, hfirst, rfl⟩

/-- Resolving the columns of a merge fails when there is nothing to match rows on. -/
theorem resolveKeys_eq_error_iff {types : TypeChain} {e : QueryError} :
    ((spec.resolveKeys s).run.run types).1 = .error e ↔ spec.Unmatched s e := by
  -- once there are columns to match on, nothing is left to fail
  have hcolumns : ((spec.resolveKeys s).run.run types).1 = .error e ↔
      ((spec.qualifierColumns s).run.run types).1 = .error e := by
    unfold resolveKeys
    rw [Building.fst_bind (spec.invisible_qualifierColumns s) fun _ => Building.invisible_pure _,
      bind_eq_error_iff]
    exact or_iff_left fun ⟨_, _, h⟩ => (nomatch h)
  rw [hcolumns]
  unfold qualifierColumns
  cases hgiven : spec.qualifiers with
  | nil =>
    cases hkeys : s.entity.keyColumns spec.keyColumns with
    | nil =>
      obtain ⟨hundeclared, hunreported⟩ := Entity.keyColumns_eq_nil_iff.1 hkeys
      constructor
      · intro h
        obtain rfl := Except.error.inj h
        exact .noQualifier hgiven hundeclared hunreported
      · intro h
        cases h with
        | noQualifier => rfl
        | unknownQualifier first => exact absurd (hgiven ▸ first) not_firstWith_nil
        | unknownKey _ first => exact absurd (hkeys ▸ first) not_firstWith_nil
    | cons k ks =>
      refine (columns_eq_error_iff (fun k => spec.invisible_require s k k) fun _ => rfl).trans ?_
      rw [← hkeys]
      constructor
      · rintro ⟨column, hfirst, rfl⟩
        exact .unknownKey hgiven hfirst
      · intro h
        cases h with
        | noQualifier _ undeclared unreported =>
          rw [Entity.keyColumns_eq_nil_iff.2 ⟨undeclared, unreported⟩] at hkeys
          cases hkeys
        | unknownQualifier first => exact absurd (hgiven ▸ first) not_firstWith_nil
        | unknownKey _ first => exact ⟨_, first, rfl⟩
  | cons f fs =>
    have hungiven : spec.qualifiers ≠ [] := hgiven ▸ List.cons_ne_nil f fs
    refine (columns_eq_error_iff (spec.invisible_qualifier s) (spec.qualifier_fst s · types)).trans ?_
    rw [← hgiven]
    constructor
    · rintro ⟨f, hfirst, rfl⟩
      exact .unknownQualifier hfirst
    · intro h
      cases h with
      | unknownQualifier first => exact ⟨_, first, rfl⟩
      | noQualifier ungiven | unknownKey ungiven => exact absurd ungiven hungiven

/-- A merge is planned unless there is a reason to refuse it, and this reason is reported. -/
theorem plan_eq_error_iff (types : TypeChain) {e : QueryError} :
    ((spec.plan d s).run.run types).1 = .error e ↔ spec.Refused d s e := by
  rw [plan_fst]
  cases hlist : spec.listMember? with
  | some name =>
    -- with a list in the record, nothing else is looked at
    have hvector : ¬ spec.Scalar := by
      rw [← listMember?_eq_none_iff, hlist]
      exact Option.some_ne_none name
    constructor
    · intro h
      obtain rfl := Except.error.inj h
      obtain ⟨v, hfirst⟩ := listMember?_eq_some_iff.1 hlist
      exact .listValue hfirst
    · intro h
      cases h with
      | listValue first =>
        rw [listMember?_eq_some_iff.2 ⟨_, first⟩] at hlist
        rw [Option.some.inj hlist]
      | unmatched scalar | notKey scalar => exact absurd scalar hvector
  | none =>
    have hscalar := listMember?_eq_none_iff.1 hlist
    dsimp only
    rw [bind_eq_error_iff, resolveKeys_eq_error_iff]
    simp only [resolveKeys_eq_ok_iff, bind_eq_error_iff, checkKey_eq_error_iff]
    constructor
    · rintro (hunmatched | ⟨_, ⟨-, hcarried, rfl⟩, ⟨hd, hgiven, hother, rfl⟩ | ⟨_, -, h⟩⟩)
      · exact .unmatched hscalar hunmatched
      · subst hd
        exact .notKey hscalar rfl hgiven hcarried hother
      · cases h
    · intro h
      cases h with
      | listValue first =>
        rw [listMember?_eq_some_iff.2 ⟨_, first⟩] at hlist
        cases hlist
      | unmatched _ unmatched => exact .inl unmatched
      | notKey _ mysql given carried other =>
        refine .inr ⟨_, ⟨?_, carried, rfl⟩, .inl ⟨mysql, given, other, by rw [mysql]; rfl⟩⟩
        rw [matchColumns, if_neg given]
        simpa using given

/-- A merge is planned when it is as it should be. -/
theorem exists_plan_eq_ok_iff (types : TypeChain) :
    (∃ plan, ((spec.plan d s).run.run types).1 = .ok plan) ↔ spec.Accepted d s := by
  rw [plan_fst]
  cases hlist : spec.listMember? with
  | some name =>
    refine ⟨fun ⟨_, h⟩ => (nomatch h), fun haccepted => ?_⟩
    rw [listMember?_eq_none_iff.2 haccepted.scalar] at hlist
    cases hlist
  | none =>
    have hscalar := listMember?_eq_none_iff.1 hlist
    simp only [bind_eq_ok_iff, resolveKeys_eq_ok_iff, checkKey_eq_ok_iff]
    constructor
    · rintro ⟨_, _, ⟨hkeyed, hcarried, rfl⟩, _, hkey, -⟩
      exact ⟨hscalar, hkeyed, hcarried, hkey⟩
    · rintro ⟨-, hkeyed, hcarried, hkey⟩
      exact ⟨_, _, ⟨hkeyed, hcarried, rfl⟩, (), hkey, rfl⟩

/-- The columns of a merge that is as it should be can be resolved at any time. -/
theorem Accepted.resolveKeys_fst (h : spec.Accepted d s) (types : TypeChain) :
    ((spec.resolveKeys s).run.run types).1 = .ok (spec.keys s) :=
  resolveKeys_eq_ok_iff.2 ⟨h.keyed, h.carried, rfl⟩

/-- With the qualifiers in another order, a merge matches on the same columns. -/
theorem matchColumns_perm {qualifiers : List Field} (h : qualifiers.Perm spec.qualifiers) :
    (matchColumns { spec with qualifiers } s).Perm (spec.matchColumns s) := by
  unfold matchColumns
  by_cases hungiven : spec.qualifiers = []
  · rw [hungiven] at h ⊢
    rw [h.eq_nil]
  · have hgiven : qualifiers ≠ [] := fun hnil => hungiven (hnil ▸ h).symm.eq_nil
    rw [if_neg hungiven, if_neg hgiven]
    exact h.map _

/-- A merge is as it should be whatever the order of its qualifiers. -/
theorem Accepted.perm (haccepted : spec.Accepted d s) {qualifiers : List Field}
    (h : qualifiers.Perm spec.qualifiers) : Accepted { spec with qualifiers } d s := by
  have hmatch := matchColumns_perm (s := s) h
  refine ⟨haccepted.scalar, ?_, ?_, ?_⟩
  · intro hnil
    rw [hnil] at hmatch
    exact haccepted.keyed hmatch.symm.eq_nil
  · intro column hcolumn
    exact haccepted.carried column (hmatch.mem_iff.1 hcolumn)
  · intro hd hgiven
    exact hmatch.trans (haccepted.key hd fun hungiven => hgiven (hungiven ▸ h).eq_nil)

end MergeSpec

namespace Builder

variable {b : Builder} {r : Request} {spec : MergeSpec} {types : TypeChain}

/-- The statement of a merge is made of what it is planned to. -/
theorem run_merge_eq_map (hop : r.operation = .merge spec) :
    (b.run r types).1 =
      ((spec.plan b.dialect (b.scope r.entity)).run.run types).1.map fun plan =>
        { dialect := b.dialect, hint := if b.dialect.upsertTakesHints then r.hint else none
          command := .upsert plan.1, parameters := plan.2 } := by
  unfold run build
  rw [hop]
  dsimp only
  rw [ExceptT.run_bind, StateT.run_bind]
  change (fun out : Except QueryError (Upsert × List Parameter) × TypeChain => _)
    ((spec.plan b.dialect (b.scope r.entity)).run.run types) = _
  rcases (spec.plan b.dialect (b.scope r.entity)).run.run types with ⟨_ | _, _⟩ <;> rfl

/-- Building a merge is refused when there is a reason to refuse it. -/
theorem run_merge_eq_error_iff (hop : r.operation = .merge spec) {e : QueryError} :
    (b.run r types).1 = .error e ↔ spec.Refused b.dialect (b.scope r.entity) e := by
  rw [← MergeSpec.plan_eq_error_iff types, run_merge_eq_map hop]
  cases ((spec.plan b.dialect (b.scope r.entity)).run.run types).1 <;> simp [Except.map]

/-- The statement of a merge is built when the merge is as it should be. -/
theorem exists_run_merge_iff (hop : r.operation = .merge spec) :
    (∃ st, (b.run r types).1 = .ok st) ↔ spec.Accepted b.dialect (b.scope r.entity) := by
  rw [← MergeSpec.exists_plan_eq_ok_iff types, run_merge_eq_map hop]
  cases ((spec.plan b.dialect (b.scope r.entity)).run.run types).1 <;> simp [Except.map]

/-- The statement of a merge is built unless the merge is refused for one of the four reasons, and then
the first one that applies is reported. The qualifiers may be given in any order. -/
theorem refuses_merge_iff (b : Builder) {r : Request} {spec : MergeSpec}
    (hop : r.operation = .merge spec) (types : TypeChain) :
    (∀ e, (b.run r types).1 = .error e ↔ spec.Refused b.dialect (b.scope r.entity) e) ∧
      ((∃ st, (b.run r types).1 = .ok st) ↔ spec.Accepted b.dialect (b.scope r.entity)) ∧
      ∀ qualifiers, qualifiers.Perm spec.qualifiers →
        ((∃ st, (b.run { r with operation := .merge { spec with qualifiers } } types).1 = .ok st) ↔
          ∃ st, (b.run r types).1 = .ok st) := by
  refine ⟨fun e => run_merge_eq_error_iff hop, exists_run_merge_iff hop, fun qualifiers h => ?_⟩
  rw [exists_run_merge_iff hop, exists_run_merge_iff rfl]
  exact ⟨fun haccepted => haccepted.perm h.symm, fun haccepted => haccepted.perm h⟩

/-- MySQL takes the columns of a composite key in any order, but not a part of them. -/
theorem refuses_merge_composite_key :
    let b : Builder := { dialect := .mysql }
    let e : Entity :=
      { name := "Line", table := { name := "line" }
        properties := [{ name := "Order", kind := .int, primary := true },
          { name := "No", kind := .int, primary := true }] }
    let request (qualifiers : List Field) : Request :=
      { entity := e
        operation := .merge { record := ⟨[("Order", .int 1), ("No", .int 2)]⟩, qualifiers } }
    (∃ st, (b.run (request [{ name := "No" }, { name := "Order" }]) {}).1 = .ok st) ∧
      (b.run (request [{ name := "No" }]) {}).1 = .error (.qualifierNotKey .mysql ["No"]) := by
  intro b e request
  let spec (qualifiers : List Field) : MergeSpec :=
    { record := ⟨[("Order", .int 1), ("No", .int 2)]⟩, qualifiers }
  have hop (qualifiers : List Field) :
      (request qualifiers).operation = .merge (spec qualifiers) := rfl
  have hscalar (qualifiers : List Field) : (spec qualifiers).Scalar := by
    simp [MergeSpec.Scalar, spec, Value.isList]
  have hcarried {qualifiers : List Field} {columns : List String}
      (hsubset : ∀ column ∈ columns, column ∈ ["Order", "No"]) :
      ∀ column ∈ columns, (spec qualifiers).Carries (b.scope e) column := by
    intro column hcolumn
    exact (MergeSpec.carries_iff {}).2 (hsubset column hcolumn)
  refine ⟨(refuses_merge_iff b (hop _) {}).2.1.2 ⟨hscalar _, by decide, hcarried (by decide), ?_⟩,
    ((refuses_merge_iff b (hop _) {}).1 _).2
      (.notKey (hscalar _) rfl (List.cons_ne_nil _ _) (hcarried (by decide)) ?_)⟩
  · intro _ _
    exact List.isPerm_iff.1 (by decide)
  · intro hperm
    exact absurd (List.isPerm_iff.2 hperm) (by decide)

end Builder

end FilterSql
