import FilterSql.Proofs.Merging
import FilterSql.Proofs.Placeholders

/-!
# The parameters of a statement

Values are bound while a statement is put together. The parameters of a condition are those of its
leaves, one leaf behind the other, and a merge binds the members that it inserts. In both cases the
placeholders of the statement are those of its parameters, in order.

## Main definitions

* `Parameter.numbered`: parameters for values with their types, numbered from zero on;
* `Scope.declaredType`: the type that values of a name are declared as;
* `Request.bound`: the values that a request binds.

## Main results

* `Settled.parameters_eq`: the parameters of some leaves;
* `Builder.placeholders_run`: the placeholders of a statement are those of its parameters;
* `Builder.parameters_run`: the parameters of a statement and the order of their placeholders.
-/

namespace FilterSql

/-- Parameters for values with their types, at positions from `start` on. -/
def Parameter.numbered (start : Nat) (bound : List (Value × Option DbType)) : List Parameter :=
  (bound.zipIdx start).map fun (b, i) =>
    { name := parameterName i, value := b.1, dbType := b.2 }

namespace Parameter

/-- The parameters are named by their positions. -/
theorem map_name_numbered (start : Nat) (bound : List (Value × Option DbType)) :
    (numbered start bound).map (·.name) =
      (List.range' start bound.length).map parameterName := by
  rw [← List.zipIdx_map_snd, numbered, List.map_map, List.map_map]
  rfl

/-- There is one parameter for each value. -/
theorem length_numbered (start : Nat) (bound : List (Value × Option DbType)) :
    (numbered start bound).length = bound.length := by
  simp [numbered]

/-- Values in two parts are numbered one behind the other. -/
theorem numbered_append (start : Nat) (bound bound' : List (Value × Option DbType)) :
    numbered start (bound ++ bound') =
      numbered start bound ++ numbered (start + bound.length) bound' := by
  simp [numbered, List.zipIdx_append]

/-- Values of one type are numbered with that type. -/
theorem number_eq_numbered (dbType : Option DbType) (start : Nat) (vs : List Value) :
    number dbType start vs = numbered start (vs.map fun v => (v, dbType)) := by
  induction vs generalizing start with
  | nil => rfl
  | cons v vs ih => simp [number, numbered, ih]

/-- The parameters of some members hold their values and have the types of their columns. -/
theorem ofMembers_eq_numbered (members : List Member) :
    ofMembers members = numbered 0 (members.map fun m => (m.value, m.column.dbType)) := by
  simp [ofMembers, numbered, List.zipIdx_map, Function.comp_def]

end Parameter

namespace Settled

variable {start : Nat} {cs : List (Condition × Column)} {ts : List Test} {ps : List Parameter}

/-- The parameters of some conditions are those of each of them, one behind the other. -/
theorem parameters_eq (h : Settled start cs ts ps) :
    ps = Parameter.numbered start
      (cs.flatMap fun c => c.1.operands.map fun v => (v, c.2.dbType)) := by
  induction h with
  | nil => rfl
  | cons valid nonempty tail ih =>
    rw [List.flatMap_cons, Parameter.numbered_append, List.length_map, ← ih,
      ← Parameter.number_eq_numbered]

/-- The tests are about all positions from the start on, each one once and in order. -/
theorem slots_eq (h : Settled start cs ts ps) :
    ts.flatMap Test.slots = List.range' start ps.length := by
  induction h with
  | nil => rfl
  | cons valid nonempty tail ih =>
    rw [List.flatMap_cons, ih, Test.slots, Condition.slots_relation valid, List.length_append,
      Parameter.length_number, List.range'_append_1]

end Settled

/-- The type that values of a name are declared as under a mapper: that of the property that the
name refers to, or what the kind is mapped to if there is none. -/
def Scope.declaredType (s : Scope) (m : TypeMapper) (name : String) (kind : Option ValueKind) :
    Option DbType :=
  match s.entity.property? s.fieldCase name with
  | some p => m.resolve s.entity.name p
  | none => kind.bind m.kind?

/-- Under a chain that answers as its mapper does, a name stands for its column with the declared
type. -/
theorem Scope.column_fst (s : Scope) {m : TypeMapper} {types : TypeChain}
    (h : TypeChain.Agree { mapper := m } types) (name : String) (kind : Option ValueKind) :
    ((s.column name kind).run types).1 =
      { name := s.entity.columnOf s.fieldCase name, dbType := s.declaredType m name kind } := by
  rw [← (s.invisible_column name kind).result h]
  unfold column declaredType Entity.columnOf
  -- a chain that has not been asked yet asks its mapper
  cases s.entity.property? s.fieldCase name <;> rfl

/-- Whether a merge binds the value of a member: in a `MERGE` any value, in the other styles any but
a null in the identity or result column. -/
def MergeSpec.binds (spec : MergeSpec) (d : Dialect) (s : Scope) (entry : String × Value) : Bool :=
  let column := s.entity.columnOf s.fieldCase entry.1
  d.upsertStyle = .merge || !(entry.2.isNull &&
    ((spec.keys s).identity = some column || (spec.keys s).result = some column))

/-- The members whose values a merge binds, in order. -/
def MergeSpec.bound (spec : MergeSpec) (d : Dialect) (s : Scope) : List (String × Value) :=
  spec.record.entries.filter (spec.binds d s)

namespace MergeSpec

variable {spec : MergeSpec} {d : Dialect} {s : Scope} {types : TypeChain} {u : Upsert}
  {ps : List Parameter}

/-- A member is bound in a `MERGE`, or when it is not left to the database. -/
theorem binds_eq (spec : MergeSpec) (d : Dialect) (s : Scope) (types : TypeChain)
    (entry : String × Value) :
    spec.binds d s entry = (d.upsertStyle = .merge || !(spec.keys s).isGenerated d.upsertStyle
      { column := ((s.column entry.1 entry.2.kind).run types).1, value := entry.2 }) := by
  by_cases hstyle : d.upsertStyle = .merge <;>
    simp [binds, MergeKeys.isGenerated, hstyle, Bool.and_comm]

/-- The parameters of a planned merge are those of the members that are bound. -/
theorem parameters_plan
    (h : (spec.keys s).plan d.upsertStyle s.entity.table (spec.located s types) = (u, ps)) :
    ps = Parameter.numbered 0 ((spec.bound d s).map fun entry =>
      (entry.2, ((s.column entry.1 entry.2.kind).run types).1.dbType)) := by
  have hbinds := funext (spec.binds_eq d s types)
  unfold MergeKeys.plan at h
  -- a `MERGE` binds all members for its row source; the other styles bind what they insert
  by_cases hstyle : d.upsertStyle = .merge
  · obtain rfl : Parameter.ofMembers (spec.located s types) = ps := by
      simpa [hstyle] using congrArg Prod.snd h
    simp [Parameter.ofMembers_eq_numbered, located, bound, hbinds, hstyle, Function.comp_def]
  · obtain rfl : Parameter.ofMembers ((spec.keys s).insertable d.upsertStyle
        (spec.located s types)) = ps := by
      simpa [hstyle] using congrArg Prod.snd h
    simp [Parameter.ofMembers_eq_numbered, MergeKeys.insertable, located, bound, hbinds, hstyle,
      List.filter_map, Function.comp_def]

/-- A planned merge has a parameter for each column whose value is bound, and only a `MERGE` binds
others than it inserts. -/
theorem bound_plan {members : List Member} {keys : MergeKeys} {table : TableName}
    (h : keys.plan d.upsertStyle table members = (u, ps)) :
    u.bound.length = ps.length ∧ (d.upsertStyle = .merge ∨ u.bound = u.inserted) := by
  unfold MergeKeys.plan at h
  by_cases hstyle : d.upsertStyle = .merge
  · simp only [hstyle, if_true, Prod.mk.injEq] at h
    obtain ⟨rfl, rfl⟩ := h
    exact ⟨by simp [Parameter.ofMembers], .inl hstyle⟩
  · simp only [hstyle, if_false, Prod.mk.injEq] at h
    obtain ⟨rfl, rfl⟩ := h
    simp [Parameter.ofMembers]

end MergeSpec

/-- The values that a request binds, in order, each with the type that its name is declared as: the
bound members of a merged record, or the operands of the filter's conditions, depth first and from
left to right. -/
def Request.bound (r : Request) (d : Dialect) (s : Scope)
    (declared : String → Option ValueKind → Option DbType) : List (Value × Option DbType) :=
  match r.operation with
  | .merge spec => (spec.bound d s).map fun (name, v) => (v, declared name v.kind)
  | _ => r.filter.leaves.flatMap fun c => c.operands.map fun v =>
      (v, declared c.field.name (c.field.kind.or c.value.operandKind))

/-- A request that reads rows binds the operands of its conditions. -/
theorem Request.bound_reading {r : Request} (hreads : ∀ spec, r.operation ≠ .merge spec)
    (d : Dialect) (s : Scope) (declared : String → Option ValueKind → Option DbType) :
    r.bound d s declared = r.filter.leaves.flatMap fun c => c.operands.map fun v =>
      (v, declared c.field.name (c.field.kind.or c.value.operandKind)) := by
  unfold bound
  split
  · next spec hop => exact absurd hop (hreads spec)
  · rfl

namespace Builder

variable {b : Builder} {r : Request} {types types' : TypeChain} {st : Statement}

/-- The tokens of a statement that reads rows have the placeholders of its tests. -/
theorem placeholders_reading (h : b.run r types = (.ok st, types'))
    (hreads : ∀ spec, r.operation ≠ .merge spec) :
    Token.placeholders st.tokens =
      (st.command.filter.leaves.flatMap Test.slots).map Token.slot := by
  obtain ⟨-, hcommand⟩ := run_eq_ok h
  unfold Statement.tokens
  cases hop : r.operation with
  | query | page =>
    rw [hop] at hcommand
    obtain ⟨-, s, hs, -⟩ := hcommand
    rw [hs]
    exact s.placeholders_tokens st.dialect st.hint
  | count =>
    rw [hop] at hcommand
    obtain ⟨-, c, hc, -⟩ := hcommand
    rw [hc]
    exact c.placeholders_tokens st.dialect st.hint
  | merge spec => exact absurd hop (hreads spec)

/-- The placeholders of a statement are those of its parameters, in order. -/
theorem placeholders_run (h : b.run r types = (.ok st, types')) :
    Token.placeholders st.tokens = (List.range st.parameters.length).map Token.slot := by
  by_cases hmerge : ∃ spec, r.operation = .merge spec
  · obtain ⟨spec, hop⟩ := hmerge
    obtain ⟨u, hu, hplanned⟩ := run_merge h hop
    obtain ⟨-, -, -, -, hplan⟩ := MergeSpec.plan_eq_ok hplanned
    obtain ⟨hlength, hbound⟩ := MergeSpec.bound_plan hplan
    have hdialect : st.dialect = b.dialect := (run_eq_ok h).1
    rw [Statement.tokens, hu, ← hlength, hdialect]
    exact u.placeholders_tokens b.dialect st.hint hbound
  · have hreads : ∀ spec, r.operation ≠ .merge spec := not_exists.1 hmerge
    obtain ⟨children, hchildren, hbind⟩ := run_filter h hreads
    have hslots := (Node.settled_bindAllFrom hbind).slots_eq
    rw [placeholders_reading h hreads, hchildren, Group.leaves, hslots, List.range_eq_range']

/-- The parameters of a statement are the values that its request binds. -/
theorem parameters_eq_numbered (h : b.run r types = (.ok st, types')) :
    st.parameters = Parameter.numbered 0 (r.bound b.dialect (b.scope r.entity) fun name kind =>
      (((b.scope r.entity).column name kind).run types).1.dbType) := by
  by_cases hmerge : ∃ spec, r.operation = .merge spec
  · obtain ⟨spec, hop⟩ := hmerge
    obtain ⟨u, -, hplanned⟩ := run_merge h hop
    obtain ⟨-, -, -, -, hplan⟩ := MergeSpec.plan_eq_ok hplanned
    rw [MergeSpec.parameters_plan hplan, Request.bound, hop]
  · obtain ⟨children, -, hbind⟩ := run_filter h (not_exists.1 hmerge)
    rw [(Node.settled_bindAllFrom hbind).parameters_eq, Node.leavesOf_mapAll, List.flatMap_map,
      Request.bound_reading (not_exists.1 hmerge)]
    rfl

/-- Building keeps the answers of the chain. -/
theorem agree_run (h : b.run r types = (.ok st, types')) : types.Agree types' := by
  obtain ⟨-, hcommand⟩ := run_eq_ok h
  cases hop : r.operation with
  | query | page =>
    rw [hop] at hcommand
    obtain ⟨-, s, -, hselect⟩ := hcommand
    obtain ⟨-, -, -, -, -, hagree, -⟩ := select_eq_ok hselect
    exact hagree
  | count =>
    rw [hop] at hcommand
    obtain ⟨-, c, -, hcount⟩ := hcommand
    exact (count_eq_ok hcount).2.1
  | merge spec =>
    obtain ⟨u, -, hplanned⟩ := run_merge h hop
    obtain ⟨-, -, -, hagree, -⟩ := MergeSpec.plan_eq_ok hplanned
    exact hagree

/-- The parameters of a statement and the order of their placeholders. From left to right the
placeholders are those of the positions 0, 1, … with the names of these positions, so in every
dialect the placeholder that comes at a position denotes the parameter there; without text of the
caller the same holds of the statement's text. The parameters are the values that the request binds.
Under a chain that answers as its mapper does, which it still does afterwards, each is declared as
the type of the property that its name refers to, else as what its kind is mapped to. -/
theorem parameters_run (h : b.run r types = (.ok st, types')) :
    Token.placeholders st.tokens = (List.range st.parameters.length).map Token.slot ∧
      st.parameters.map (·.name) = (List.range st.parameters.length).map parameterName ∧
      (r.hint = none → ∃ ls, Lexeme.split b.dialect st.sql.toList = some ls ∧
        ls.filterMap Lexeme.placeholder? = (List.range st.parameters.length).map fun i =>
          (b.dialect.placeholder (parameterName i) i).toList) ∧
      ∀ m : TypeMapper, TypeChain.Agree { mapper := m } types →
        TypeChain.Agree { mapper := m } types' ∧ st.parameters = Parameter.numbered 0
          (r.bound b.dialect (b.scope r.entity) ((b.scope r.entity).declaredType m)) := by
  have hplaceholders := placeholders_run h
  have hparameters := parameters_eq_numbered h
  refine ⟨hplaceholders, ?_, fun hhint => ?_, fun m hm => ⟨hm.trans (agree_run h), ?_⟩⟩
  · rw [hparameters, Parameter.map_name_numbered, Parameter.length_numbered, List.range_eq_range']
  · -- a statement without a hint is split into the lexemes of its tokens
    have hdialect : st.dialect = b.dialect := (run_eq_ok h).1
    have hsplit := Token.split_renderAll (d := b.dialect) (st.command.tidy_tokens b.dialect)
    have htokens : st.tokens = st.command.tokens b.dialect none := by
      rw [Statement.tokens, hint_eq_none h hhint, hdialect]
    rw [Statement.sql, hdialect]
    rw [← htokens] at hsplit
    refine ⟨_, hsplit, ?_⟩
    rw [Lexeme.filterMap_placeholder?, hplaceholders, List.map_map]
    rfl
  · rw [hparameters]
    simp only [Scope.column_fst _ hm]

/-- Null tests bind nothing, and a list binds its elements; the placeholders have no names. -/
theorem parameters_run_tree :
    let e : Entity :=
      { name := "E", table := { name := "t" },
        properties := [{ name := "A", kind := .int, dbType := some .int16 },
          { name := "B", kind := .text }] }
    let m : TypeMapper :=
      { properties := [(⟨"E", "B"⟩, .ansiString)], kinds := [(.int, .int64), (.text, .string)] }
    let g : Group Condition :=
      { conjunction := .or
        children := [.leaf (.isIn { name := "A" } [.int 1, .null]),
          .group .and true [.leaf (.eq { name := "B" } .null), .leaf (.eq { name := "B" } (.int 4))],
          .leaf (.between { name := "X" } (.int 2) (.int 3)),
          .leaf (.eq { name := "Y", kind := some .text } (.int 5))] }
    let r : Request := { entity := e, operation := .count, filter := g }
    ∃ st types', run { dialect := .mysql } r { mapper := m } = (.ok st, types') ∧
      st.sql = "SELECT COUNT(*) AS \x60CountValue\x60 FROM \x60t\x60 WHERE \x60A\x60 IN (?, ?)" ++
        " OR NOT (\x60B\x60 IS NULL AND \x60B\x60 = ?) OR \x60X\x60 BETWEEN ? AND ?" ++
        " OR \x60Y\x60 = ?" ∧
      Token.placeholders st.tokens = [0, 1, 2, 3, 4, 5].map Token.slot ∧
      st.parameters = [{ name := "p0", value := .int 1, dbType := some .int16 },
        { name := "p1", value := .null, dbType := some .int16 },
        { name := "p2", value := .int 4, dbType := some .ansiString },
        { name := "p3", value := .int 2, dbType := some .int64 },
        { name := "p4", value := .int 3, dbType := some .int64 },
        { name := "p5", value := .int 5, dbType := some .string }] := by
  intro e m g r
  have hrun : run { dialect := .mysql } r { mapper := m } = (.ok _, _) := rfl
  obtain ⟨hplaceholders, -, -, hparameters⟩ := parameters_run hrun
  exact ⟨_, _, hrun, by decide, hplaceholders, (hparameters m .rfl).2.trans rfl⟩

end Builder

end FilterSql
