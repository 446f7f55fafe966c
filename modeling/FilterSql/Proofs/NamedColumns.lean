import FilterSql.Proofs.PredicateTruth
import FilterSql.Proofs.Requests
import Mathlib.Data.List.Nodup

/-!
# Columns of named properties

A predicate or key filter turns the properties that it names into their columns, and building the
statement looks these columns up as names once more, where the name of a property comes before the
name of a column. A condition is about the property that the filter names exactly when the second
look-up leads back to it; a property whose column has the name of another property is lost.

## Main definitions

* `Predicate.names`: the names that a predicate mentions, from left to right;
* `Filter.named`: the properties that a predicate or key filter is about, one for each condition.

## Main results

* `Filter.fields_normalize`: the conditions of a predicate or key filter are about the columns of
  the properties that it names, in order;
* `Builder.isAbout_named_iff`: when a test of the statement is about the property that the filter
  names.
-/

namespace FilterSql

namespace Predicate

/-- The name of an operand, if it is a property. -/
def operandNames : Predicate → List String
  | property name => [name]
  | _ => []

/-- The names that a predicate mentions, from left to right. -/
def names : Predicate → List String
  | property name => [name]
  | constant _ => []
  | compare left _ right => left.operandNames ++ right.operandNames
  | and left right | or left right => left.names ++ right.names
  | not inner => inner.names
  | call _ target arguments => target.operandNames ++ arguments.flatMap operandNames

variable {e : Entity} {fieldCase : FieldCase}

/-- Negating a tree keeps the fields of its conditions. -/
theorem fields_negateNode (n : Node Condition) :
    (negateNode n).leaves.map (·.field) = n.leaves.map (·.field) := by
  cases n <;> rfl

/-- A compiled comparison is about the column of the property. -/
theorem column_of_comparison {name : String} {op : Comparison} {v : Value} {c : Condition}
    (h : comparison e fieldCase name op v = .ok c) : column e fieldCase name = .ok c.field := by
  unfold comparison at h
  obtain ⟨field, hfield, hc⟩ := bind_eq_ok_iff.1 h
  split at hc
  case h_3 | h_4 => cases hc
  all_goals
    obtain rfl := Except.ok.inj hc
    exact hfield

/-- A compiled method call is about the column of the only property that the call mentions. -/
theorem column_of_callCondition {method : String} {target : Predicate} {arguments : List Predicate}
    {c : Condition} (h : callCondition e fieldCase method target arguments = .ok c) :
    ∃ name, (call method target arguments).names = [name] ∧
      column e fieldCase name = .ok c.field := by
  unfold callCondition at h
  split at h
  case h_6 => split at h <;> cases h
  all_goals
    obtain ⟨field, hfield, hc⟩ := bind_eq_ok_iff.1 h
    obtain rfl := Except.ok.inj hc
    exact ⟨_, rfl, hfield⟩

/-- A compiled condition is about the property that its only name refers to. -/
theorem fields_leaf {c : Condition} {name : String} (h : column e fieldCase name = .ok c.field) :
    (Node.leaf c).leaves.map (·.field) =
      ([name].filterMap (e.property? fieldCase)).map (·.field) := by
  obtain ⟨p, hp, hfield⟩ := column_eq_ok_iff.1 h
  simp [Node.leaves, hp, hfield]

/-- The conditions of a compiled predicate are about the properties that it mentions, in order. -/
theorem fields_compileNode {p : Predicate} {n : Node Condition}
    (h : p.compileNode e fieldCase = .ok n) :
    n.leaves.map (·.field) = (p.names.filterMap (e.property? fieldCase)).map (·.field) := by
  rw [compileNode_eq_ok_iff] at h
  induction h with
  | and _ _ ihleft ihright | or _ _ ihleft ihright =>
    rw [Node.leaves, Node.leavesOf_append, leavesOf_spliced, leavesOf_spliced, names,
      List.map_append, List.filterMap_append, List.map_append, ihleft, ihright]
  | not _ ih =>
    -- a negation is pushed into the conditions, but keeps their fields
    rw [fields_negateNode, ih, names]
  | compare hc | flipped hc => exact fields_leaf (column_of_comparison hc)
  | flag hp _ => exact fields_leaf (column_eq_ok_iff.2 ⟨_, hp, rfl⟩)
  | call hc =>
    obtain ⟨name, hnames, hcolumn⟩ := column_of_callCondition hc
    rw [hnames]
    exact fields_leaf hcolumn

end Predicate

namespace Filter

/-- The properties that a predicate or key filter is about, one for each condition. Filters of other
shapes give their columns by name alone. -/
def named (e : Entity) (fieldCase : FieldCase) : Filter → List Property
  | predicate p => p.names.filterMap (e.property? fieldCase)
  | key _ => e.keys
  | _ => []

/-- The filter is a predicate or a key. -/
def NamesProperties : Filter → Prop
  | predicate _ | key _ => True
  | _ => False

variable {e : Entity} {fieldCase : FieldCase} {f : Filter} {g : Group Condition}

/-- The conditions of a predicate or key filter are about the columns of the properties that it
names, in order. -/
theorem fields_normalize (hf : f.NamesProperties) (h : f.normalize e fieldCase = .ok g) :
    g.leaves.map (·.field) = (f.named e fieldCase).map (·.field) := by
  obtain ⟨g', hgroup, h⟩ := bind_eq_ok_iff.1 h
  obtain ⟨_, -, h⟩ := bind_eq_ok_iff.1 h
  obtain rfl := Except.ok.inj h
  cases f with
  | predicate p =>
    obtain ⟨n, hn, rfl⟩ := map_eq_ok_iff.1 hgroup
    -- the root is the compiled group or a group of the compiled condition alone
    have hfields := Predicate.fields_compileNode hn
    cases n <;> simpa [Group.all, Group.leaves, Node.leaves, Node.leavesOf, named] using hfields
  | key v =>
    simp only [toGroup] at hgroup
    split at hgroup
    · next p hkeys =>
      obtain rfl := Except.ok.inj hgroup
      simp [Group.all, Group.leaves, Node.leavesOf, Node.leaves, named, hkeys, Condition.eq]
    · cases hgroup
    · cases hgroup
  | _ => exact hf.elim

/-- The properties that a filter names are the entity's. -/
theorem mem_of_mem_named {p : Property} (h : p ∈ f.named e fieldCase) : p ∈ e.properties := by
  cases f with
  | predicate q =>
    obtain ⟨name, -, hname⟩ := List.mem_filterMap.1 h
    exact Entity.property?_mem hname
  | key v =>
    simp only [named, Entity.keys] at h
    split at h
    · exact List.mem_of_find?_eq_some (Option.mem_toList.1 h)
    · exact List.mem_of_mem_filter h
  | _ => simp [named] at h

end Filter

namespace Entity

variable {e : Entity} {fieldCase : FieldCase} {p : Property}

/-- The name of a property's column refers to some property. -/
theorem exists_property?_columnName (fieldCase : FieldCase) (h : p ∈ e.properties) :
    ∃ q, e.property? fieldCase p.columnName = some q := by
  unfold property?
  -- when the name of the column is no property's name, the property itself has such a column
  cases hname : e.properties.find? fun q => fieldCase.agree q.name p.columnName with
  | some q => exact ⟨q, by simp⟩
  | none =>
    simp only [Option.none_or, ← Option.isSome_iff_exists, List.find?_isSome]
    exact ⟨p, h, fieldCase.agree_self _⟩

/-- Properties with distinct columns are told apart by their columns. -/
theorem eq_of_columnName_eq (hcolumns : (e.properties.map (·.columnName)).Nodup) {q : Property}
    (hp : p ∈ e.properties) (hq : q ∈ e.properties) (h : p.columnName = q.columnName) : p = q :=
  List.inj_on_of_nodup_map hcolumns hp hq h

end Entity

/-- The test is about the property: it names its column, and its parameters are declared as the
property's type. -/
def Test.IsAbout (t : Test) (parameters : List Parameter) (types : TypeChain) (e : Entity)
    (p : Property) : Prop :=
  t.column = p.columnName ∧
    ∀ i ∈ t.slots, (parameters[i]?).map (·.dbType) = some (types.typeOf e.name p)

/-- The test of a condition on a property's column is about the property exactly when the name of
the column leads back to it. -/
theorem Test.isAbout_iff {s : Scope} {types : TypeChain} {c : Condition} {p : Property} {t : Test}
    {parameters : List Parameter}
    (hcolumns : (s.entity.properties.map (·.columnName)).Nodup) (hp : p ∈ s.entity.properties)
    (hfield : c.field = p.field) (hcolumn : t.column = (Node.located s types c).2.name)
    (hslots : ∀ i ∈ t.slots,
      (parameters[i]?).map (·.dbType) = some (Node.located s types c).2.dbType) :
    t.IsAbout parameters types s.entity p ↔
      s.entity.property? s.fieldCase p.columnName = some p := by
  obtain ⟨q, hq⟩ := Entity.exists_property?_columnName s.fieldCase hp
  have hname : c.field.name = p.columnName := by rw [hfield]; rfl
  have hlocated : (Node.located s types c).2.name = q.columnName := by
    simp [Node.located, Condition.column, hname, Entity.columnOf, hq]
  have htype : (Node.located s types c).2.dbType = types.typeOf s.entity.name q :=
    s.column_dbType (by rw [hname, hq]) _ _
  rw [hlocated] at hcolumn
  rw [htype] at hslots
  rw [hq, Option.some.injEq]
  constructor
  · rintro ⟨hsame, -⟩
    exact Entity.eq_of_columnName_eq hcolumns (Entity.property?_mem hq) hp
      (hcolumn.symm.trans hsame)
  · rintro rfl
    exact ⟨hcolumn, hslots⟩

/-- When the tests of a statement are about the properties that its predicate or key filter names.
The entity has distinct columns; each test is about its property, column and types, exactly when the
name of the property's column leads back to the property. -/
theorem Builder.isAbout_named_iff {b : Builder} {r : Request} {f : Filter}
    {types types' : TypeChain} {st : Statement}
    (hcolumns : (r.entity.properties.map (·.columnName)).Nodup)
    (hf : f.NamesProperties) (hfilter : f.normalize r.entity b.fieldCase = .ok r.filter)
    (hreads : ∀ spec, r.operation ≠ .merge spec) (hrun : b.run r types = (.ok st, types')) :
    List.Forall₂ (fun t p => t.IsAbout st.parameters types r.entity p ↔
        r.entity.property? b.fieldCase p.columnName = some p)
      st.command.filter.leaves (f.named r.entity b.fieldCase) := by
  obtain ⟨children, hchildren, hbind⟩ := run_filter hrun hreads
  have htests := (Node.settled_bindAllFrom hbind).forall₂
  rw [Node.leavesOf_mapAll, List.forall₂_map_right_iff] at htests
  -- what a test is about depends on the field of its condition alone
  have hfields : List.Forall₂ (fun t field => ∀ p ∈ r.entity.properties, field = p.field →
      (t.IsAbout st.parameters types r.entity p ↔
        r.entity.property? b.fieldCase p.columnName = some p))
      (Node.leavesOf children) (r.filter.leaves.map (·.field)) := by
    rw [List.forall₂_map_right_iff]
    refine htests.imp fun t c ⟨hcolumn, hslots⟩ p hp hfield => ?_
    exact Test.isAbout_iff (s := b.scope r.entity) hcolumns hp hfield hcolumn
      fun i hi => (hslots i hi).2
  rw [Filter.fields_normalize hf hfilter, List.forall₂_map_right_iff] at hfields
  have hmem := (List.forall₂_and_left _ _).2
    ⟨fun p hp => Filter.mem_of_mem_named hp, hfields.flip⟩
  rw [hchildren]
  exact hmem.flip.imp fun t p ⟨hp, h⟩ => h p hp rfl

/-- The column of `A` has the name of `B`, so the test that is meant for `A` is about `B`
instead. -/
theorem Builder.isAbout_named_shadowed :
    let A : Property := { name := "A", column := some "B", kind := .int }
    let B : Property := { name := "B", column := some "C", kind := .int }
    let e : Entity := { name := "E", table := { name := "E" }, properties := [A, B] }
    let f : Filter := .predicate (.and (.compare (.property "A") .eq (.constant (.int 1)))
      (.compare (.property "B") .eq (.constant (.int 2))))
    let r : Request := { entity := e, operation := .query,
                         filter := .all [.eq A.field (.int 1), .eq B.field (.int 2)] }
    ∃ t t' st types', f.normalize e .exact = .ok r.filter ∧
      Builder.run { dialect := .sqlite } r {} = (.ok st, types') ∧
      st.command.filter.leaves = [t, t'] ∧
      ¬ t.IsAbout st.parameters {} e A ∧ t'.IsAbout st.parameters {} e B := by
  intro A B e f r
  have hnormalize : f.normalize e .exact = .ok r.filter := rfl
  have hrun : Builder.run { dialect := .sqlite } r {} = (.ok _, _) := rfl
  have hiff := Builder.isAbout_named_iff (f := f) (by decide) trivial hnormalize (by nofun) hrun
  obtain ⟨hA, hiff⟩ := List.forall₂_cons.1 hiff
  obtain ⟨hB, -⟩ := List.forall₂_cons.1 hiff
  refine ⟨_, _, _, _, hnormalize, hrun, rfl, fun h => ?_, hB.2 rfl⟩
  have hname : e.property? .exact A.columnName = some A := hA.1 h
  exact absurd (congrArg (Option.map (·.name)) hname) (by decide)

/-- A key filter reaches the column of another property when the key's column has its name. -/
theorem Builder.key_filter_shadowed :
    let A : Property := { name := "A", column := some "B", kind := .int, primary := true }
    let B : Property := { name := "B", column := some "C", kind := .int }
    let e : Entity := { name := "E", table := { name := "E" }, properties := [A, B] }
    ∃ g st types', (Filter.key (.int 1)).normalize e .exact = .ok g ∧
      Builder.run { dialect := .sqlite } { entity := e, operation := .query, filter := g } {} =
        (.ok st, types') ∧
      A.columnName = "B" ∧ st.sql = "SELECT \"B\", \"C\" FROM \"E\" WHERE \"C\" = @p0" := by
  exact ⟨.all [.eq { name := "B", kind := some .int } (.int 1)], _, _, rfl, rfl, rfl, by decide⟩

end FilterSql
