import FilterSql.Proofs.Parameters

/-!
# Other values for a statement

A statement may be kept and run again with other values. That is only right if building a request
with the other values would give the same text, with parameters of the same names and types. Of the
values a request is made of, the text shows no more than whether a comparison is one with null, how
long a list is, and whether the identity and the result column of a merge are left to the database.

## Main definitions

* `Node.Alike`: two trees of one shape with related leaves;
* `Condition.SameForm`, `MergeSpec.SameForm`, `Request.SameForm`: two requests differ in their
  values alone, and these in nothing that the text shows;
* `Request.kinds`: the kinds of the values of a request.

## Main results

* `Statement.withValues_eq_ok_iff`: when a statement takes other values, and what it is then;
* `Node.Alike.bindFrom_eq`: trees of the same form are bound to the same tests;
* `MergeSpec.SameForm.plan_eq`: merges of the same form are planned to the same upsert;
* `Builder.run_sameForm`: requests of the same form are built to the same text, and if their values
  have the same kinds, to statements that differ in their values alone.
-/

namespace FilterSql

/-- Parameters with other values are those with the same names and types that have the values. -/
theorem Parameter.zipWith_value_eq_iff {ps ps' : List Parameter} {values : List Value}
    (hlength : values.length = ps.length) :
    List.zipWith (fun (p : Parameter) v => { p with value := v }) ps values = ps' ↔
      ps'.map (fun p => (p.name, p.dbType)) = ps.map (fun p => (p.name, p.dbType)) ∧
        ps'.map (·.value) = values := by
  induction ps generalizing ps' values with
  | nil =>
    obtain rfl := List.length_eq_zero_iff.1 hlength
    cases ps' <;> simp
  | cons p ps ih =>
    obtain ⟨v, values, rfl⟩ := List.exists_cons_of_length_eq_add_one hlength
    cases ps' with
    | nil => simp
    | cons p' ps' =>
      obtain ⟨name, value, dbType⟩ := p
      obtain ⟨name', value', dbType'⟩ := p'
      simp only [List.zipWith_cons_cons, List.cons.injEq, Parameter.mk.injEq, List.map_cons,
        Prod.mk.injEq, ih (by simpa using hlength)]
      tauto

/-- Names and types of numbered parameters are the positions' names and the given types. -/
theorem Parameter.map_name_dbType_numbered (start : Nat) (bound : List (Value × Option DbType)) :
    (numbered start bound).map (fun p => (p.name, p.dbType)) =
      ((bound.map (·.2)).zipIdx start).map fun (t, i) => (parameterName i, t) := by
  simp [numbered, List.zipIdx_map, Function.comp_def]

/-- A statement takes other values when there is one for each parameter. Dialect, command, names and
types stay, and the parameters have the values in order. -/
theorem Statement.withValues_eq_ok_iff {s s' : Statement} {values : List Value} :
    s.withValues values = .ok s' ↔
      values.length = s.parameters.length ∧ s'.dialect = s.dialect ∧ s'.hint = s.hint ∧
        s'.command = s.command ∧
        s'.parameters.map (fun p => (p.name, p.dbType)) =
          s.parameters.map (fun p => (p.name, p.dbType)) ∧
        s'.parameters.map (·.value) = values := by
  unfold withValues
  obtain ⟨d, hint, command, ps⟩ := s
  obtain ⟨d', hint', command', ps'⟩ := s'
  split
  · next hlength =>
    simp only [Except.ok.injEq, Statement.mk.injEq, hlength, true_and]
    rw [and_congr eq_comm (and_congr eq_comm (and_congr eq_comm Iff.rfl)),
      Parameter.zipWith_value_eq_iff hlength]
  · next hlength => exact ⟨fun h => (nomatch h), fun h => absurd h.1 hlength⟩

/-- Lists whose elements are related one by one are mapped to the same list when related elements
are. -/
theorem map_eq_map_of_forall₂ {α β γ : Type} {R : α → β → Prop} {f : α → γ} {g : β → γ}
    {xs : List α} {ys : List β} (h : List.Forall₂ R xs ys) (hfg : ∀ x y, R x y → f x = g y) :
    xs.map f = ys.map g := by
  rw [← List.forall₂_eq_eq_eq, List.forall₂_map_left_iff, List.forall₂_map_right_iff]
  exact h.imp hfg

/-- Lists that are mapped to the same list are related one by one. -/
theorem forall₂_of_map_eq_map {α β γ : Type} {f : α → γ} {g : β → γ} {xs : List α} {ys : List β}
    (h : xs.map f = ys.map g) : List.Forall₂ (fun x y => f x = g y) xs ys := by
  rwa [← List.forall₂_eq_eq_eq, List.forall₂_map_left_iff, List.forall₂_map_right_iff] at h

namespace Node

variable {α β γ δ : Type}

mutual

/-- Two trees have the same shape, and corresponding leaves are related. -/
inductive Alike (R : α → β → Prop) : Node α → Node β → Prop
  | leaf {a : α} {b : β} (h : R a b) : Alike R (.leaf a) (.leaf b)
  | group {conjunction : Conjunction} {negated : Bool} {children : List (Node α)}
      {children' : List (Node β)} (h : AlikeAll R children children') :
      Alike R (.group conjunction negated children) (.group conjunction negated children')

/-- Several trees have the same shapes in order, and corresponding leaves are related. -/
inductive AlikeAll (R : α → β → Prop) : List (Node α) → List (Node β) → Prop
  | nil : AlikeAll R [] []
  | cons {child : Node α} {child' : Node β} {rest : List (Node α)} {rest' : List (Node β)}
      (head : Alike R child child') (tail : AlikeAll R rest rest') :
      AlikeAll R (child :: rest) (child' :: rest')

end

variable {R : α → β → Prop} {S : γ → δ → Prop} {f : α → γ} {g : β → δ}

mutual

/-- Trees stay alike when their leaves are replaced by related ones. -/
theorem Alike.map (hf : ∀ a b, R a b → S (f a) (g b)) :
    ∀ {n : Node α} {n' : Node β}, Alike R n n' → Alike S (n.map f) (n'.map g)
  | _, _, .leaf h => by
    simp only [Node.map]
    exact .leaf (hf _ _ h)
  | _, _, .group h => by
    simp only [Node.map]
    exact .group (AlikeAll.map hf h)

/-- Several trees stay alike when their leaves are replaced by related ones. -/
theorem AlikeAll.map (hf : ∀ a b, R a b → S (f a) (g b)) :
    ∀ {ns : List (Node α)} {ns' : List (Node β)}, AlikeAll R ns ns' →
      AlikeAll S (mapAll f ns) (mapAll g ns')
  | _, _, .nil => by
    simp only [mapAll]
    exact .nil
  | _, _, .cons head tail => by
    simp only [mapAll]
    exact .cons (Alike.map hf head) (AlikeAll.map hf tail)

end

mutual

/-- The leaves of alike trees are related one by one. -/
theorem Alike.leaves : ∀ {n : Node α} {n' : Node β}, Alike R n n' →
    List.Forall₂ R n.leaves n'.leaves
  | _, _, .leaf h => by
    simp only [Node.leaves]
    exact .cons h .nil
  | _, _, .group h => by
    simp only [Node.leaves]
    exact AlikeAll.leavesOf h

/-- The leaves of several alike trees are related one by one. -/
theorem AlikeAll.leavesOf : ∀ {ns : List (Node α)} {ns' : List (Node β)}, AlikeAll R ns ns' →
    List.Forall₂ R (leavesOf ns) (leavesOf ns')
  | _, _, .nil => by
    simp only [Node.leavesOf]
    exact .nil
  | _, _, .cons head tail => by
    simp only [Node.leavesOf]
    exact List.rel_append (Alike.leaves head) (AlikeAll.leavesOf tail)

end

end Node

/-- Two conditions differ in their values alone, and these agree in what a statement shows of them:
whether an equality is one with null, and how long a list is. -/
structure Condition.SameForm (c c' : Condition) : Prop where
  /-- Both are about the same field. -/
  field : c.field = c'.field
  /-- Both compare in the same way. -/
  operator : c.operator = c'.operator
  /-- Both patterns have the same escape character. -/
  escape : c.escape = c'.escape
  /-- Both equalities are with null, or none of them is. -/
  isNull : c.operator = .equal ∨ c.operator = .notEqual → c.value.isNull = c'.value.isNull
  /-- Both lists have the same length. -/
  length : ∀ vs vs', c.value = .list vs → c'.value = .list vs' → vs.length = vs'.length

/-- An equality binds its value unless that is null. -/
theorem Condition.operands_equality {c : Condition}
    (h : c.operator = .equal ∨ c.operator = .notEqual) :
    c.operands = if c.value.isNull then [] else [c.value] := by
  rcases h with h | h <;> cases hv : c.value <;> simp [operands, h, hv, Value.isNull]

namespace Condition.SameForm

variable {c c' : Condition}

/-- Valid conditions of the same form bind as many values. -/
theorem length_operands (h : c.SameForm c') (hvalid : c.fault? = none)
    (hvalid' : c'.fault? = none) : c.operands.length = c'.operands.length := by
  have hop' := h.operator.symm
  cases hop : c.operator with
  | between | notBetween =>
    rw [hop] at hop'
    obtain ⟨low, high, hv⟩ := exists_bounds hvalid (by simp [hop])
    obtain ⟨low', high', hv'⟩ := exists_bounds hvalid' (by simp [hop'])
    simp [operands, hop, hop', hv, hv']
  | isIn | notIn =>
    rw [hop] at hop'
    obtain ⟨vs, hv⟩ := exists_items hvalid (by simp [hop])
    obtain ⟨vs', hv'⟩ := exists_items hvalid' (by simp [hop'])
    simpa [operands, hop, hop', hv, hv'] using h.length vs vs' hv hv'
  | equal | notEqual =>
    rw [hop] at hop'
    rw [operands_equality (by simp [hop]), operands_equality (by simp [hop']),
      h.isNull (by simp [hop])]
    split <;> rfl
  | _ =>
    rw [hop] at hop'
    simp [operands, hop, hop']

/-- Valid conditions of the same form express the same relation. -/
theorem relation_eq (h : c.SameForm c') (hvalid : c.fault? = none) (hvalid' : c'.fault? = none)
    (start : Nat) : c.relation start = c'.relation start := by
  unfold relation
  rw [h.length_operands hvalid hvalid', ← h.operator, ← h.escape]
  cases hop : c.operator with
  | equal | notEqual => simp only [h.isNull (by simp [hop])]
  | _ => rfl

end Condition.SameForm

namespace Node

/-- Two located conditions have the same form and the same column. -/
def SameTest (c c' : Condition × Column) : Prop :=
  c.1.SameForm c'.1 ∧ c.2.name = c'.2.name

/-- Leaves of the same form are bound to the same test. -/
theorem bindFrom_leaf_eq {a a' : Condition × Column} (h : SameTest a a') {start : Nat}
    {t t' : Node Test} {ps ps' : List Parameter} (hbind : bindFrom start (leaf a) = .ok (t, ps))
    (hbind' : bindFrom start (leaf a') = .ok (t', ps')) : t = t' ∧ ps.length = ps'.length := by
  obtain ⟨hform, hcolumn⟩ := h
  obtain ⟨test, htest, rfl⟩ := bindFrom_leaf_eq_ok_iff.1 hbind
  obtain ⟨test', htest', rfl⟩ := bindFrom_leaf_eq_ok_iff.1 hbind'
  obtain ⟨hvalid, -, rfl, rfl⟩ := (Condition.bindTo_eq_ok_iff ..).1 htest
  obtain ⟨hvalid', -, rfl, rfl⟩ := (Condition.bindTo_eq_ok_iff ..).1 htest'
  rw [hcolumn, hform.relation_eq hvalid hvalid', Parameter.length_number, Parameter.length_number]
  exact ⟨rfl, hform.length_operands hvalid hvalid'⟩

mutual

/-- Trees of the same form are bound to the same tests. -/
theorem Alike.bindFrom_eq : ∀ {n n' : Node (Condition × Column)}, Alike SameTest n n' →
    ∀ {start : Nat} {t t' : Node Test} {ps ps' : List Parameter},
      bindFrom start n = .ok (t, ps) → bindFrom start n' = .ok (t', ps') →
        t = t' ∧ ps.length = ps'.length
  | _, _, .leaf h => bindFrom_leaf_eq h
  | _, _, .group halike => by
    intro h h'
    obtain ⟨tests, hbind, rfl⟩ := bindFrom_group_eq_ok_iff.1 h
    obtain ⟨tests', hbind', rfl⟩ := bindFrom_group_eq_ok_iff.1 h'
    obtain ⟨rfl, hlength⟩ := AlikeAll.bindAllFrom_eq halike hbind hbind'
    exact ⟨rfl, hlength⟩

/-- Several trees of the same form are bound to the same tests. -/
theorem AlikeAll.bindAllFrom_eq : ∀ {ns ns' : List (Node (Condition × Column))},
    AlikeAll SameTest ns ns' →
    ∀ {start : Nat} {ts ts' : List (Node Test)} {ps ps' : List Parameter},
      bindAllFrom start ns = .ok (ts, ps) → bindAllFrom start ns' = .ok (ts', ps') →
        ts = ts' ∧ ps.length = ps'.length
  | _, _, .nil => by
    intro h h'
    obtain ⟨rfl, rfl⟩ := bindAllFrom_nil_eq_ok_iff.1 h
    obtain ⟨rfl, rfl⟩ := bindAllFrom_nil_eq_ok_iff.1 h'
    exact ⟨rfl, rfl⟩
  | _, _, .cons head tail => by
    intro h h'
    obtain ⟨n, qs, ns, rs, hchild, hrest, rfl, rfl⟩ := bindAllFrom_cons_eq_ok_iff.1 h
    obtain ⟨n', qs', ns', rs', hchild', hrest', rfl, rfl⟩ := bindAllFrom_cons_eq_ok_iff.1 h'
    obtain ⟨rfl, hlength⟩ := Alike.bindFrom_eq head hchild hchild'
    -- the first trees take as many positions, so the other ones start at the same position
    rw [← hlength] at hrest'
    obtain ⟨rfl, hlengths⟩ := AlikeAll.bindAllFrom_eq tail hrest hrest'
    exact ⟨rfl, by simp [hlength, hlengths]⟩

end

end Node

/-- Two members of merged records have the same name, and one is a null that is left to the database
when the other is: in the identity or the result column both are null, or none of them is. -/
def MergeSpec.SameMember (spec : MergeSpec) (s : Scope) (entry entry' : String × Value) : Prop :=
  entry.1 = entry'.1 ∧
    ((spec.keys s).identity = some (s.entity.columnOf s.fieldCase entry.1) ∨
      (spec.keys s).result = some (s.entity.columnOf s.fieldCase entry.1) →
      entry.2.isNull = entry'.2.isNull)

/-- Two merges differ in the values of their records alone, and these agree on whether the identity
and the result column are left to the database. -/
structure MergeSpec.SameForm (s : Scope) (spec spec' : MergeSpec) : Prop where
  /-- Both match on the same given qualifiers. -/
  qualifiers : spec.qualifiers = spec'.qualifiers
  /-- The same key columns are reported for both. -/
  keyColumns : spec.keyColumns = spec'.keyColumns
  /-- The members have the same names, and nulls in the same places as far as they count. -/
  members : List.Forall₂ (spec.SameMember s) spec.record.entries spec'.record.entries

/-- What a merge is planned to depends on the columns of its members and on which of them are left to
the database. -/
theorem MergeKeys.plan_fst_congr {keys : MergeKeys} {style : UpsertStyle} {table : TableName}
    {members members' : List Member}
    (h : members.map (fun m => (m.column.name, keys.isGenerated style m)) =
      members'.map fun m => (m.column.name, keys.isGenerated style m)) :
    (keys.plan style table members).1 = (keys.plan style table members').1 := by
  have hnames : members.map (·.column.name) = members'.map (·.column.name) := by
    simpa [Function.comp_def] using congrArg (List.map Prod.fst) h
  have hinserted : (keys.insertable style members).map (·.column.name) =
      (keys.insertable style members').map (·.column.name) := by
    simpa [insertable, List.filter_map, Function.comp_def] using
      congrArg (fun l => (l.filter fun c => !c.2).map Prod.fst) h
  have hupdatable : keys.updatable members = keys.updatable members' := by
    rw [updatable, updatable, hnames]
  unfold plan
  split <;> simp [hnames, hinserted, hupdatable]

namespace MergeSpec.SameForm

variable {s : Scope} {spec spec' : MergeSpec}

/-- Merges of the same form match on and report the same columns. -/
theorem keys_eq (h : spec.SameForm s spec') : spec.keys s = spec'.keys s := by
  simp [keys, matchColumns, h.qualifiers, h.keyColumns]

/-- Members of the same form are left to the database alike, under any chains. -/
theorem isGenerated_eq (h : spec.SameForm s spec') {entry entry' : String × Value}
    (hentry : spec.SameMember s entry entry') (style : UpsertStyle) (types types' : TypeChain) :
    (spec.keys s).isGenerated style
        { column := ((s.column entry.1 entry.2.kind).run types).1, value := entry.2 } =
      (spec'.keys s).isGenerated style
        { column := ((s.column entry'.1 entry'.2.kind).run types').1, value := entry'.2 } := by
  obtain ⟨hname, hnull⟩ := hentry
  simp only [MergeKeys.isGenerated, Scope.column_name, ← h.keys_eq, ← hname]
  -- a null counts in the identity and the result column alone
  by_cases hcounts : (spec.keys s).identity = some (s.entity.columnOf s.fieldCase entry.1) ∨
      (spec.keys s).result = some (s.entity.columnOf s.fieldCase entry.1)
  · rw [hnull hcounts]
  · obtain ⟨hidentity, hresult⟩ := not_or.1 hcounts
    simp [hidentity, hresult]

/-- Merges of the same form are planned to the same upsert, under any chains. -/
theorem plan_eq (h : spec.SameForm s spec') (style : UpsertStyle) (table : TableName)
    (types types' : TypeChain) :
    ((spec.keys s).plan style table (spec.located s types)).1 =
      ((spec'.keys s).plan style table (spec'.located s types')).1 := by
  rw [← h.keys_eq]
  refine MergeKeys.plan_fst_congr ?_
  rw [located, located, List.map_map, List.map_map]
  refine map_eq_map_of_forall₂ h.members fun entry entry' hentry => Prod.ext ?_ ?_
  · simp [hentry.1]
  · exact (h.isGenerated_eq hentry style types types').trans (by rw [h.keys_eq]; rfl)

/-- Members of the same form are bound alike. -/
theorem binds_eq (h : spec.SameForm s spec') {entry entry' : String × Value}
    (hentry : spec.SameMember s entry entry') (d : Dialect) :
    spec.binds d s entry = spec'.binds d s entry' := by
  rw [spec.binds_eq d s {}, spec'.binds_eq d s {}, h.isGenerated_eq hentry d.upsertStyle {} {}]

end MergeSpec.SameForm

/-- Two operations are the same, or two merges of the same form. -/
inductive Operation.SameForm (s : Scope) : Operation → Operation → Prop
  | reading {operation : Operation} (h : ∀ spec, operation ≠ .merge spec) :
      SameForm s operation operation
  | merge {spec spec' : MergeSpec} (h : spec.SameForm s spec') : SameForm s (.merge spec) (.merge spec')

/-- Two operations of the same form are the same operation that reads rows, or two merges. -/
theorem Operation.SameForm.cases {s : Scope} {operation operation' : Operation}
    (h : SameForm s operation operation') :
    (∀ spec, operation ≠ .merge spec) ∧ operation = operation' ∨
      ∃ spec spec', operation = .merge spec ∧ operation' = .merge spec' ∧ spec.SameForm s spec' := by
  cases h with
  | reading h => exact .inl ⟨h, rfl⟩
  | merge h => exact .inr ⟨_, _, rfl, rfl, h⟩

/-- Two requests differ in their values alone, and these in nothing that a statement shows. -/
structure Request.SameForm (b : Builder) (r r' : Request) : Prop where
  /-- Both are about the same entity. -/
  entity : r.entity = r'.entity
  /-- Both do the same. -/
  operation : Operation.SameForm (b.scope r.entity) r.operation r'.operation
  /-- Both have the same result columns. -/
  columns : r.columns = r'.columns
  /-- Both filters are joined in the same way. -/
  conjunction : r.filter.conjunction = r'.filter.conjunction
  /-- Both filters are negated, or none of them is. -/
  negated : r.filter.negated = r'.filter.negated
  /-- Both filters are trees of conditions of the same form. -/
  filter : Node.AlikeAll Condition.SameForm r.filter.children r'.filter.children
  /-- Both have the same ordering. -/
  order : r.order = r'.order
  /-- Both have the same row limit. -/
  top : r.top = r'.top
  /-- Both have the same hint. -/
  hint : r.hint = r'.hint

/-- The kinds of the values of a request, in order: of the members of a merged record, or of the
values of the filter's conditions. -/
def Request.kinds (r : Request) : List (Option ValueKind) :=
  match r.operation with
  | .merge spec => spec.record.values.map Value.kind
  | _ => r.filter.leaves.map fun c => c.value.operandKind

/-- The values of a request that reads rows are those of its conditions. -/
theorem Request.kinds_reading {r : Request} (hreads : ∀ spec, r.operation ≠ .merge spec) :
    r.kinds = r.filter.leaves.map fun c => c.value.operandKind := by
  unfold kinds
  split
  · next spec hop => exact absurd hop (hreads spec)
  · rfl

/-- Settled conditions suit their operators. -/
theorem Settled.valid {start : Nat} {cs : List (Condition × Column)} {ts : List Test}
    {ps : List Parameter} (h : Settled start cs ts ps) : ∀ c ∈ cs, c.1.fault? = none := by
  induction h with
  | nil => simp
  | cons valid nonempty tail ih => exact List.forall_mem_cons.2 ⟨valid, ih⟩

namespace Builder

variable {b : Builder} {r r' : Request} {types types' types₁ types₁' : TypeChain}
  {st st' : Statement}

/-- The conditions of requests of the same form are bound to the same tests. -/
theorem filter_eq (hform : Request.SameForm b r r') {children children' : List (Node Test)}
    {ps ps' : List Parameter}
    (h : Node.bindAllFrom 0
      (Node.mapAll (Node.located (b.scope r.entity) types) r.filter.children) = .ok (children, ps))
    (h' : Node.bindAllFrom 0
      (Node.mapAll (Node.located (b.scope r'.entity) types') r'.filter.children) =
        .ok (children', ps')) :
    children = children' ∧ ps.length = ps'.length := by
  refine Node.AlikeAll.bindAllFrom_eq (Node.AlikeAll.map (fun c c' hc => ⟨hc, ?_⟩) hform.filter)
    h h'
  simp [Node.located, Condition.column, scope, hform.entity, hc.field]

/-- Requests of the same form for rows are built to the same `SELECT`. -/
theorem select_eq (hform : Request.SameForm b r r') (hop : r.operation = r'.operation)
    {s s' : Select} {ps ps' : List Parameter}
    (h : (b.select r).run.run types = (.ok (s, ps), types₁))
    (h' : (b.select r').run.run types' = (.ok (s', ps'), types₁')) :
    s = s' ∧ ps.length = ps'.length := by
  obtain ⟨-, hwindow, htable, hcolumns, horder, -, children, hfilter, hbind⟩ := select_eq_ok h
  obtain ⟨-, hwindow', htable', hcolumns', horder', -, children', hfilter', hbind'⟩ :=
    select_eq_ok h'
  obtain ⟨hchildren, hlength⟩ := filter_eq hform hbind hbind'
  -- the window is computed from the operation and the row limit, which the requests share
  have hwindows : s.window = s'.window := by
    have hsame : window r = window r' := by simp only [window, hop, hform.top]
    exact Except.ok.inj (hwindow.symm.trans (hsame.trans hwindow'))
  obtain ⟨table, columns, filter, order, w⟩ := s
  obtain ⟨table', columns', filter', order', w'⟩ := s'
  simp only [projection_fst, ordering_fst, scope] at *
  simp [htable, htable', hcolumns, hcolumns', hfilter, hfilter', horder, horder', hwindows,
    hchildren, hform.entity, hform.columns, hform.conjunction, hform.negated, hform.order, hlength]

/-- Requests of the same form for a count are built to the same `SELECT COUNT(*)`. -/
theorem count_eq (hform : Request.SameForm b r r') {c c' : Count} {ps ps' : List Parameter}
    (h : (b.count r).run.run types = (.ok (c, ps), types₁))
    (h' : (b.count r').run.run types' = (.ok (c', ps'), types₁')) :
    c = c' ∧ ps.length = ps'.length := by
  obtain ⟨htable, -, children, hfilter, hbind⟩ := count_eq_ok h
  obtain ⟨htable', -, children', hfilter', hbind'⟩ := count_eq_ok h'
  obtain ⟨hchildren, hlength⟩ := filter_eq hform hbind hbind'
  obtain ⟨table, filter⟩ := c
  obtain ⟨table', filter'⟩ := c'
  simp only at *
  simp [htable, htable', hfilter, hfilter', hchildren, hform.entity, hform.conjunction,
    hform.negated, hlength]

/-- Requests of the same form are built to the same command. -/
theorem command_eq (hform : Request.SameForm b r r')
    (h : b.run r types = (.ok st, types₁)) (h' : b.run r' types' = (.ok st', types₁')) :
    st.command = st'.command ∧ st.parameters.length = st'.parameters.length := by
  rcases hform.operation.cases with ⟨hreads, hop⟩ | ⟨spec, spec', hop, hop', hspec⟩
  · obtain ⟨-, hcommand⟩ := run_eq_ok h
    obtain ⟨-, hcommand'⟩ := run_eq_ok h'
    rw [← hop] at hcommand'
    cases hr : r.operation with
    | query | page =>
      rw [hr] at hcommand hcommand'
      obtain ⟨-, s, hs, hselect⟩ := hcommand
      obtain ⟨-, s', hs', hselect'⟩ := hcommand'
      obtain ⟨rfl, hlength⟩ := select_eq hform hop hselect hselect'
      exact ⟨hs.trans hs'.symm, hlength⟩
    | count =>
      rw [hr] at hcommand hcommand'
      obtain ⟨-, c, hc, hcount⟩ := hcommand
      obtain ⟨-, c', hc', hcount'⟩ := hcommand'
      obtain ⟨rfl, hlength⟩ := count_eq hform hcount hcount'
      exact ⟨hc.trans hc'.symm, hlength⟩
    | merge spec => exact absurd hr (hreads spec)
  · obtain ⟨u, hu, hplanned⟩ := run_merge h hop
    obtain ⟨u', hu', hplanned'⟩ := run_merge h' hop'
    obtain ⟨-, -, -, -, hplan⟩ := MergeSpec.plan_eq_ok hplanned
    obtain ⟨-, -, -, -, hplan'⟩ := MergeSpec.plan_eq_ok hplanned'
    have hsame := hspec.plan_eq b.dialect.upsertStyle r.entity.table types types'
    rw [← hform.entity] at hplan'
    obtain rfl : u = u' :=
      (congrArg Prod.fst hplan).symm.trans (hsame.trans (congrArg Prod.fst hplan'))
    refine ⟨hu.trans hu'.symm, ?_⟩
    rw [← (MergeSpec.bound_plan hplan).1, ← (MergeSpec.bound_plan hplan').1]

/-- Requests of the same form are built with the same hint. -/
theorem hint_eq (hform : Request.SameForm b r r')
    (h : b.run r types = (.ok st, types₁)) (h' : b.run r' types' = (.ok st', types₁')) :
    st.hint = st'.hint := by
  obtain ⟨-, hcommand⟩ := run_eq_ok h
  obtain ⟨-, hcommand'⟩ := run_eq_ok h'
  rcases hform.operation.cases with ⟨hreads, hop⟩ | ⟨spec, spec', hop, hop', hspec⟩
  · rw [← hop] at hcommand'
    cases hr : r.operation with
    | query | page | count =>
      rw [hr] at hcommand hcommand'
      rw [hcommand.1, hcommand'.1, hform.hint]
    | merge spec => exact absurd hr (hreads spec)
  · rw [hop] at hcommand
    rw [hop'] at hcommand'
    rw [hcommand.1, hcommand'.1, hform.hint]

/-- The conditions of a request that reads rows suit their operators when the request is built. -/
theorem valid_leaves (hreads : ∀ spec, r.operation ≠ .merge spec)
    (h : b.run r types = (.ok st, types₁)) : ∀ c ∈ r.filter.leaves, c.fault? = none := by
  obtain ⟨children, -, hbind⟩ := run_filter h hreads
  have hvalid := (Node.settled_bindAllFrom hbind).valid
  rw [Node.leavesOf_mapAll, List.forall_mem_map] at hvalid
  exact hvalid

/-- Requests of the same form whose values have the same kinds bind values of the same types. -/
theorem types_bound_eq (hform : Request.SameForm b r r') (hkinds : r.kinds = r'.kinds)
    (h : b.run r types = (.ok st, types₁)) (h' : b.run r' types' = (.ok st', types₁'))
    (declared : String → Option ValueKind → Option DbType) :
    (r.bound b.dialect (b.scope r.entity) declared).map (·.2) =
      (r'.bound b.dialect (b.scope r'.entity) declared).map (·.2) := by
  rcases hform.operation.cases with ⟨hreads, hop⟩ | ⟨spec, spec', hop, hop', hspec⟩
  · have hreads' : ∀ spec, r'.operation ≠ .merge spec := hop ▸ hreads
    rw [Request.kinds_reading hreads, Request.kinds_reading hreads'] at hkinds
    -- corresponding leaves have the same form and kind, and each of them suits its operator
    have hleaves : List.Forall₂ (fun c c' : Condition => c.SameForm c' ∧
        c.value.operandKind = c'.value.operandKind) r.filter.leaves r'.filter.leaves :=
      (Node.AlikeAll.leavesOf hform.filter).mp (fun _ _ => And.intro)
        (forall₂_of_map_eq_map hkinds)
    have hvalid := (List.forall₂_and_left _ _).2 ⟨valid_leaves hreads h, hleaves⟩
    have hboth := (List.forall₂_and_left _ _).2 ⟨valid_leaves hreads' h', hvalid.flip⟩
    rw [Request.bound_reading hreads, Request.bound_reading hreads', List.map_flatMap,
      List.map_flatMap, List.flatMap_def, List.flatMap_def]
    refine congrArg List.flatten (map_eq_map_of_forall₂ hboth.flip ?_)
    rintro c c' ⟨hvalid', hvalid, hform, hkind⟩
    simp [Function.comp_def, List.map_const', hform.field, hkind,
      hform.length_operands hvalid hvalid']
  · -- corresponding members are bound or not, and have the same name and kind
    have hkinds : spec.record.entries.map (·.2.kind) = spec'.record.entries.map (·.2.kind) := by
      simpa [Request.kinds, hop, hop', Record.values, Function.comp_def] using hkinds
    have hmembers : List.Forall₂ (fun e e' : String × Value =>
        spec.SameMember (b.scope r.entity) e e' ∧ e.2.kind = e'.2.kind)
        spec.record.entries spec'.record.entries :=
      hspec.members.mp (fun _ _ => And.intro) (forall₂_of_map_eq_map hkinds)
    have hentries : spec.record.entries.map (fun e =>
        (spec.binds b.dialect (b.scope r.entity) e, declared e.1 e.2.kind)) =
        spec'.record.entries.map fun e =>
          (spec'.binds b.dialect (b.scope r.entity) e, declared e.1 e.2.kind) := by
      refine map_eq_map_of_forall₂ hmembers ?_
      rintro e e' ⟨hentry, hkind⟩
      rw [hspec.binds_eq hentry, hentry.1, hkind]
    rw [← hform.entity]
    simpa [Request.bound, hop, hop', MergeSpec.bound, List.filter_map, Function.comp_def] using
      congrArg (fun l => (l.filter (·.1)).map (·.2)) hentries

/-- The text of a statement does not depend on its values, and giving it other values is the same as
building it with them. Requests that differ in their values alone, and these in nothing but what the
text has to show, are built to the same text with parameters of the same names, under any chains. If
the values have the same kinds, under chains that give the same answers, the one statement with the
values of the other is the other. A statement takes as many values as it has parameters, and then
nothing but its values changes. -/
theorem run_sameForm (hform : Request.SameForm b r r')
    (h : b.run r types = (.ok st, types₁)) (h' : b.run r' types' = (.ok st', types₁')) :
    st.sql = st'.sql ∧ st.parameters.map (·.name) = st'.parameters.map (·.name) ∧
      (types.Agree types' → r.kinds = r'.kinds →
        st.withValues (st'.parameters.map (·.value)) = .ok st') ∧
      ∀ (s : Statement) (values : List Value),
        ((∃ s', s.withValues values = .ok s') ↔ values.length = s.parameters.length) ∧
        ∀ s', s.withValues values = .ok s' →
          s'.dialect = s.dialect ∧ s'.sql = s.sql ∧
            s'.parameters.map (fun p => (p.name, p.dbType)) =
              s.parameters.map (fun p => (p.name, p.dbType)) ∧
            s'.parameters.map (·.value) = values := by
  have hdialect : st.dialect = st'.dialect := (run_eq_ok h).1.trans (run_eq_ok h').1.symm
  obtain ⟨hcommand, hlength⟩ := command_eq hform h h'
  have hhint := hint_eq hform h h'
  have hparameters := parameters_eq_numbered h
  have hparameters' := parameters_eq_numbered h'
  refine ⟨?_, ?_, fun hagree hkinds => ?_, fun s values => ⟨?_, fun s' hs' => ?_⟩⟩
  · rw [Statement.sql, Statement.sql, Statement.tokens, Statement.tokens, hdialect, hcommand, hhint]
  · rw [hparameters, hparameters', Parameter.map_name_numbered, Parameter.map_name_numbered,
      ← Parameter.length_numbered 0, ← Parameter.length_numbered 0, ← hparameters, ← hparameters',
      hlength]
  · refine Statement.withValues_eq_ok_iff.2 ⟨by simp [hlength], hdialect.symm, hhint.symm,
      hcommand.symm, ?_, rfl⟩
    -- the names of one entity have the same types under both chains
    have hdeclared : (fun name kind => (((b.scope r'.entity).column name kind).run types').1.dbType) =
        fun name kind => (((b.scope r.entity).column name kind).run types).1.dbType := by
      funext name kind
      rw [← hform.entity, ((b.scope r.entity).invisible_column name kind).result hagree]
    rw [hparameters, hparameters', Parameter.map_name_dbType_numbered,
      Parameter.map_name_dbType_numbered, hdeclared, types_bound_eq hform hkinds h h']
  · constructor
    · rintro ⟨s', hs'⟩
      exact (Statement.withValues_eq_ok_iff.1 hs').1
    · intro hlength
      exact ⟨_, if_pos hlength⟩
  · obtain ⟨-, hd, hh, hc, htypes, hvalues⟩ := Statement.withValues_eq_ok_iff.1 hs'
    refine ⟨hd, ?_, htypes, hvalues⟩
    rw [Statement.sql, Statement.sql, Statement.tokens, Statement.tokens, hd, hh, hc]

/-- A list and a comparison get other values of the same kinds; the second statement is built under
the chain that the first one leaves. -/
theorem run_sameForm_nested :
    let e : Entity :=
      { name := "E", table := { name := "t" }, properties := [{ name := "A", kind := .int }] }
    let types : TypeChain := { mapper := { kinds := [(.int, .int64), (.text, .string)] } }
    let r (ids : List Value) (bound : Value) : Request :=
      { entity := e, operation := .query
        filter := { children := [.leaf (.isIn { name := "A" } ids), .group .or true
          [.leaf (.eq { name := "A" } .null), .leaf (.eq { name := "X" } bound)]] } }
    ∃ st st' types₁ types₂,
      run { dialect := .postgres } (r [.int 1, .null] (.text "x")) types = (.ok st, types₁) ∧
      run { dialect := .postgres } (r [.int 2, .int 3] (.text "y")) types₁ = (.ok st', types₂) ∧
      st.sql = "SELECT \"A\" FROM \"t\" WHERE \"A\" IN ($1, $2)" ++
        " AND NOT (\"A\" IS NULL OR \"X\" = $3)" ∧
      st'.sql = st.sql ∧ st.withValues [.int 2, .int 3, .text "y"] = .ok st' := by
  intro e types r
  have hrun : run { dialect := .postgres } (r [.int 1, .null] (.text "x")) types = (.ok _, _) := rfl
  have hrun' : run { dialect := .postgres } (r [.int 2, .int 3] (.text "y"))
      (run { dialect := .postgres } (r [.int 1, .null] (.text "x")) types).2 = (.ok _, _) := rfl
  have hform : Request.SameForm { dialect := .postgres } (r [.int 1, .null] (.text "x"))
      (r [.int 2, .int 3] (.text "y")) :=
    { entity := rfl, operation := .reading (by nofun), columns := rfl, conjunction := rfl
      negated := rfl, order := rfl, top := rfl, hint := rfl
      filter := .cons (.leaf ⟨rfl, rfl, rfl, by nofun, by rintro _ _ ⟨⟩ ⟨⟩; rfl⟩)
        (.cons (.group (.cons (.leaf ⟨rfl, rfl, rfl, fun _ => rfl, by nofun⟩)
          (.cons (.leaf ⟨rfl, rfl, rfl, fun _ => rfl, by nofun⟩) .nil))) .nil) }
  obtain ⟨hsql, -, hrefreshed, -⟩ := run_sameForm hform hrun hrun'
  exact ⟨_, _, _, _, hrun, hrun', by decide, hsql.symm, hrefreshed (agree_run hrun) rfl⟩

end Builder

end FilterSql
