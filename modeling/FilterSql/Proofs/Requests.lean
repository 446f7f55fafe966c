import FilterSql.Proofs.Binding

/-!
# What a request is built to

A request that is built at all is built to one statement of the builder's dialect. Everything in the
statement is resolved by the answers that the type chain gives at the start, however many questions
have been asked in between.

## Main results

* `Builder.select_eq_ok` and `Builder.count_eq_ok`: the parts of a statement that reads rows;
* `Builder.run_eq_ok`: the statement that a request is built to;
* `Builder.run_filter`: the condition of a statement that reads rows, and its parameters.
-/

namespace FilterSql

/-- The condition that a command puts on rows. -/
def Command.filter : Command → Group Test
  | select s => s.filter
  | count c => c.filter
  | upsert _ => {}

/-- The condition of a statement is bound to the same tests under chains that give the same
answers. -/
theorem Group.bind_eq_ok_of_agree {g : Group Condition} {s : Scope}
    {types types₁ types₂ : TypeChain} (hagree : types.Agree types₁) {tests : Group Test}
    {ps : List Parameter} (h : (g.bind s).run.run types₁ = (.ok (tests, ps), types₂)) :
    types.Agree types₂ ∧
      ∃ children, tests = { conjunction := g.conjunction, negated := g.negated, children } ∧
        Node.bindAllFrom 0 (Node.mapAll (Node.located s types) g.children) =
          .ok (children, ps) := by
  obtain ⟨hagree₂, children, htests, hbind⟩ := Group.bind_eq_ok h
  rw [← Node.located_congr s hagree] at hbind
  exact ⟨hagree.trans hagree₂, children, htests, hbind⟩

namespace Builder

variable {b : Builder} {r : Request} {types types' : TypeChain}

/-- A `SELECT` is built from a window, the columns and the ordering that the chain resolves at the
start, and the bound condition. -/
theorem select_eq_ok {s : Select} {ps : List Parameter}
    (h : (b.select r).run.run types = (.ok (s, ps), types')) :
    b.checkOrder r = .ok () ∧ window r = .ok s.window ∧ s.table = r.entity.table ∧
      s.columns = ((projection r (b.scope r.entity)).run types).1 ∧
      s.order = ((ordering r (b.scope r.entity)).run types).1 ∧ types.Agree types' ∧
      ∃ children, s.filter =
          { conjunction := r.filter.conjunction, negated := r.filter.negated, children } ∧
        Node.bindAllFrom 0 (Node.mapAll (Node.located (b.scope r.entity) types) r.filter.children) =
          .ok (children, ps) := by
  unfold select at h
  obtain ⟨_, _, hchecked, hnext⟩ := Building.bind_eq_ok_iff.1 h
  obtain ⟨hcheck, rfl⟩ := Building.mk_eq_ok_iff.1 hchecked
  obtain ⟨w, _, hwindowed, hnext⟩ := Building.bind_eq_ok_iff.1 hnext
  obtain ⟨hwindow, rfl⟩ := Building.mk_eq_ok_iff.1 hwindowed
  obtain ⟨columns, _, hprojected, hnext⟩ := Building.bind_eq_ok_iff.1 hnext
  obtain ⟨rfl, rfl⟩ := Building.lift_eq_ok_iff.1 hprojected
  obtain ⟨⟨filter, ps'⟩, types₁, hfilter, hnext⟩ := Building.bind_eq_ok_iff.1 hnext
  obtain ⟨order, _, hordered, hnext⟩ := Building.bind_eq_ok_iff.1 hnext
  obtain ⟨rfl, rfl⟩ := Building.lift_eq_ok_iff.1 hordered
  obtain ⟨hresult, rfl⟩ := Building.pure_eq_ok_iff.1 hnext
  obtain ⟨rfl, rfl⟩ := Prod.mk.inj hresult
  -- each computation starts under the chain that the one before it leaves
  have hprojection := (invisible_projection r (b.scope r.entity)).agree types
  obtain ⟨hagree, hchildren⟩ := Group.bind_eq_ok_of_agree hprojection hfilter
  have hordering := invisible_ordering r (b.scope r.entity)
  exact ⟨hcheck, hwindow, rfl, rfl, (hordering.result hagree).symm,
    hagree.trans (hordering.agree types₁), hchildren⟩

/-- A `SELECT COUNT(*)` is built from the bound condition. -/
theorem count_eq_ok {c : Count} {ps : List Parameter}
    (h : (b.count r).run.run types = (.ok (c, ps), types')) :
    c.table = r.entity.table ∧ types.Agree types' ∧
      ∃ children, c.filter =
          { conjunction := r.filter.conjunction, negated := r.filter.negated, children } ∧
        Node.bindAllFrom 0 (Node.mapAll (Node.located (b.scope r.entity) types) r.filter.children) =
          .ok (children, ps) := by
  unfold count at h
  obtain ⟨⟨filter, ps'⟩, _, hfilter, hnext⟩ := Building.bind_eq_ok_iff.1 h
  obtain ⟨hresult, rfl⟩ := Building.pure_eq_ok_iff.1 hnext
  obtain ⟨rfl, rfl⟩ := Prod.mk.inj hresult
  exact ⟨rfl, Group.bind_eq_ok_of_agree .rfl hfilter⟩

/-- The statement that a request is built to: a command of the builder's dialect, with the hint of
the request where the command takes one. -/
theorem run_eq_ok {st : Statement} (h : b.run r types = (.ok st, types')) :
    st.dialect = b.dialect ∧
      match r.operation with
      | .query | .page _ => st.hint = r.hint ∧ ∃ s, st.command = .select s ∧
          (b.select r).run.run types = (.ok (s, st.parameters), types')
      | .count => st.hint = r.hint ∧ ∃ c, st.command = .count c ∧
          (b.count r).run.run types = (.ok (c, st.parameters), types')
      | .merge spec => st.hint = (if b.dialect.upsertTakesHints then r.hint else none) ∧
          ∃ u, st.command = .upsert u ∧
            (spec.plan b.dialect (b.scope r.entity)).run.run types =
              (.ok (u, st.parameters), types') := by
  unfold run build at h
  cases hop : r.operation with
  | query | page | count | merge =>
    rw [hop] at h
    obtain ⟨⟨command, ps⟩, types₁, hcommand, hnext⟩ := Building.bind_eq_ok_iff.1 h
    obtain ⟨rfl, rfl⟩ := Building.pure_eq_ok_iff.1 hnext
    exact ⟨rfl, rfl, command, rfl, hcommand⟩

/-- The condition of a statement that reads rows is the bound filter of the request. -/
theorem run_filter {st : Statement} (h : b.run r types = (.ok st, types'))
    (hreads : ∀ spec, r.operation ≠ .merge spec) :
    ∃ children, st.command.filter =
        { conjunction := r.filter.conjunction, negated := r.filter.negated, children } ∧
      Node.bindAllFrom 0 (Node.mapAll (Node.located (b.scope r.entity) types) r.filter.children) =
        .ok (children, st.parameters) := by
  obtain ⟨-, hcommand⟩ := run_eq_ok h
  cases hop : r.operation with
  | query | page =>
    rw [hop] at hcommand
    obtain ⟨-, s, hs, hselect⟩ := hcommand
    obtain ⟨-, -, -, -, -, -, hchildren⟩ := select_eq_ok hselect
    rwa [hs]
  | count =>
    rw [hop] at hcommand
    obtain ⟨-, c, hc, hcount⟩ := hcommand
    obtain ⟨-, -, hchildren⟩ := count_eq_ok hcount
    rwa [hc]
  | merge spec => exact absurd hop (hreads spec)

end Builder

end FilterSql
