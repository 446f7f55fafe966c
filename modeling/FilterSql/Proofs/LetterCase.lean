import FilterSql.Proofs.NamedColumns
import Mathlib

/-!
# Letter case of names

Where names are matched without regard to letter case, a name and its lower case form refer to the
same property. A predicate is compiled to the same tree in every spelling, since each of its names is
replaced by a column. The other filters hand their names on, and the trees that they stand for differ
in the spelling of names alone. An error quotes the name as it is given, and is otherwise the same.

## Main definitions

* `FieldCase.fold`: the lower case form of a name;
* `Entity.Knows`: a name is that of some property or column, whatever its letter case;
* `Filter.caseless`, `QueryError.caseless`: the lower case forms of filters and errors;
* `UpToCase`: two outcomes differ at most in the letter case of the names that an error quotes;
* `Filter.unresolved`: the names that a filter hands on without looking them up.

## Main results

* `Entity.property?_fold`, `Scope.column_fold`: the look-ups do not see the letter case;
* `Predicate.upToCase_compileNode`: predicates are compiled alike;
* `Filter.upToCase_normalize`: filters are normalized alike, up to the spelling of names;
* `Filter.knows_of_normalize`: the names of a normalized filter are known.
-/

namespace FilterSql

/-! ### Names -/

namespace FieldCase

/-- The name with its ASCII letters in lower case. -/
def fold (name : String) : String :=
  String.ofList (folded name)

/-- A name and its lower case form have the same folded characters. -/
@[simp]
theorem folded_fold (name : String) : folded (fold name) = folded name := by
  rw [fold, folded, folded, String.toList_ofList, List.map_map]
  exact List.map_congr_left fun c _ => c.toLower_toLower_eq_toLower

/-- A name in lower case stays as it is. -/
@[simp]
theorem fold_fold (name : String) : fold (fold name) = fold name := by
  rw [fold, folded_fold, fold]

/-- A name agrees with what its lower case form agrees with. -/
@[simp]
theorem agree_fold (a name : String) :
    insensitive.agree a (fold name) = insensitive.agree a name := by
  rw [agree, agree, folded_fold]

end FieldCase

open FieldCase (fold)

namespace Entity

variable {e : Entity} {name : String}

/-- A name and its lower case form refer to the same property. -/
@[simp]
theorem property?_fold (e : Entity) (name : String) :
    e.property? .insensitive (fold name) = e.property? .insensitive name := by
  simp only [property?, FieldCase.agree_fold]

/-- The name is that of some property or of its column, whatever the letter case. -/
def Knows (e : Entity) (name : String) : Prop :=
  ∃ p ∈ e.properties, FieldCase.folded p.name = FieldCase.folded name ∨
    FieldCase.folded p.columnName = FieldCase.folded name

instance (e : Entity) (name : String) : Decidable (e.Knows name) :=
  inferInstanceAs (Decidable (∃ p ∈ e.properties, _))

/-- A known name refers to a property. -/
theorem Knows.exists_property? (h : e.Knows name) :
    ∃ p, e.property? .insensitive name = some p := by
  obtain ⟨p, hp, hname⟩ := h
  rw [← Option.isSome_iff_exists]
  simp only [property?, Option.isSome_or, Bool.or_eq_true, List.find?_isSome,
    FieldCase.agree_insensitive]
  exact hname.imp (fun h => ⟨p, hp, h⟩) fun h => ⟨p, hp, h⟩

/-- A name is known when its lower case form is. -/
@[simp]
theorem knows_fold : e.Knows (fold name) ↔ e.Knows name := by
  simp [Knows]

/-- The name of a property's column is known. -/
theorem knows_columnName {p : Property} (h : p ∈ e.properties) : e.Knows p.columnName :=
  ⟨p, h, .inr rfl⟩

end Entity

/-- A known name and its lower case form are resolved in the same way, whatever the chain. -/
theorem Scope.column_fold {s : Scope} {name : String} (hcase : s.fieldCase = .insensitive)
    (h : s.entity.Knows name) (kind : Option ValueKind) :
    s.column (fold name) kind = s.column name kind := by
  obtain ⟨p, hp⟩ := h.exists_property?
  unfold column
  simp only [hcase, Entity.property?_fold, hp]

/-! ### Lower case forms -/

/-- The field with its name in lower case. -/
def Field.caseless (f : Field) : Field :=
  { f with name := fold f.name }

/-- The condition with the name of its field in lower case. -/
def Condition.caseless (c : Condition) : Condition :=
  { c with field := c.field.caseless }

/-- The tree with the names of all fields in lower case. -/
def Group.caseless (g : Group Condition) : Group Condition :=
  { g with children := Node.mapAll Condition.caseless g.children }

/-- The record with the names of its members in lower case. -/
def Record.caseless (r : Record) : Record :=
  ⟨r.entries.map fun (name, v) => (fold name, v)⟩

/-- The ordering term with the name of its field in lower case. -/
def OrderTerm.caseless (term : OrderTerm) : OrderTerm :=
  { term with field := term.field.caseless }

namespace Predicate

mutual

/-- The predicate with the names of all properties in lower case. -/
def caseless : Predicate → Predicate
  | property name => property (fold name)
  | constant v => constant v
  | compare left op right => compare left.caseless op right.caseless
  | and left right => and left.caseless right.caseless
  | or left right => or left.caseless right.caseless
  | not inner => not inner.caseless
  | call method target arguments => call method target.caseless (caselessAll arguments)

/-- Several predicates with the names of all properties in lower case. -/
def caselessAll : List Predicate → List Predicate
  | [] => []
  | p :: ps => p.caseless :: caselessAll ps

end

end Predicate

/-- The filter with all names in lower case. -/
def Filter.caseless : Filter → Filter
  | dynamic record => dynamic record.caseless
  | condition c => condition c.caseless
  | conditions cs => conditions (cs.map Condition.caseless)
  | group g => group g.caseless
  | predicate p => predicate p.caseless
  | key v => key v

/-- The request with the names of its fields in lower case. -/
def Request.caseless (r : Request) : Request :=
  { r with
    columns := r.columns.map Field.caseless
    filter := r.filter.caseless
    order := r.order.map OrderTerm.caseless }

/-- The fault with the names of properties in lower case. -/
def ExpressionFault.caseless : ExpressionFault → ExpressionFault
  | unknownProperty name entity => unknownProperty (fold name) entity
  | comparedProperties left right => comparedProperties (fold left) (fold right)
  | notBoolean name => notBoolean (fold name)
  | orderedAgainstNull name => orderedAgainstNull (fold name)
  | comparedWithCollection name => comparedWithCollection (fold name)
  | fault => fault

/-- The error with the names of fields and properties in lower case. -/
def QueryError.caseless : QueryError → QueryError
  | unsupportedExpression fault => unsupportedExpression fault.caseless
  | invalidOperatorArgument field operator fault =>
    invalidOperatorArgument (fold field) operator fault
  | emptyInClause field => emptyInClause (fold field)
  | err => err

/-! ### Outcomes up to letter case -/

/-- Both outcomes are related results, or both are errors that differ at most in the letter case of
the names that they quote. -/
inductive UpToCase {α β : Type} (R : α → β → Prop) :
    Except QueryError α → Except QueryError β → Prop
  | ok {a : α} {b : β} (h : R a b) : UpToCase R (.ok a) (.ok b)
  | error {err err' : QueryError} (h : err.caseless = err'.caseless) :
      UpToCase R (.error err) (.error err')

namespace UpToCase

variable {α β γ δ : Type} {R : α → β → Prop} {S : γ → δ → Prop}

/-- An outcome is the same as itself. -/
theorem refl (x : Except QueryError α) : UpToCase Eq x x := by
  cases x with
  | ok a => exact .ok rfl
  | error err => exact .error rfl

/-- Sameness of outcomes goes both ways. -/
theorem symm {x y : Except QueryError α} (h : UpToCase Eq x y) : UpToCase Eq y x := by
  cases h with
  | ok h => exact .ok h.symm
  | error h => exact .error h.symm

/-- Outcomes that are the same as a third one are the same. -/
theorem trans {x y z : Except QueryError α} (h : UpToCase Eq x y) (h' : UpToCase Eq y z) :
    UpToCase Eq x z := by
  cases h with
  | ok h =>
    obtain rfl := h
    exact h'
  | error h =>
    cases h' with
    | error h' => exact .error (h.trans h')

/-- Results that are related in one way may be related in another. -/
theorem imp {R' : α → β → Prop} {x : Except QueryError α} {y : Except QueryError β}
    (h : UpToCase R x y) (hR : ∀ a b, R a b → R' a b) : UpToCase R' x y := by
  cases h with
  | ok h => exact .ok (hR _ _ h)
  | error h => exact .error h

/-- Related outcomes of two steps in a row come from related outcomes of each. -/
theorem bind {x : Except QueryError α} {y : Except QueryError β} {f : α → Except QueryError γ}
    {g : β → Except QueryError δ} (h : UpToCase R x y)
    (hnext : ∀ a b, R a b → UpToCase S (f a) (g b)) : UpToCase S (x >>= f) (y >>= g) := by
  cases h with
  | ok h => exact hnext _ _ h
  | error h => exact .error h

/-- After outcomes that are the same, it is enough to go on with one result. -/
theorem bind_same {x y : Except QueryError α} {f : α → Except QueryError γ}
    {g : α → Except QueryError δ} (h : UpToCase Eq x y) (hnext : ∀ a, UpToCase S (f a) (g a)) :
    UpToCase S (x >>= f) (y >>= g) := by
  apply h.bind
  rintro a _ rfl
  exact hnext a

/-- Outcomes stay related when related things are made of their results. -/
theorem map {x : Except QueryError α} {y : Except QueryError β} {f : α → γ} {g : β → δ}
    (h : UpToCase R x y) (hnext : ∀ a b, R a b → S (f a) (g b)) :
    UpToCase S (f <$> x) (g <$> y) := by
  cases h with
  | ok h => exact .ok (hnext _ _ h)
  | error h => exact .error h

/-- Outcomes stay the same when the same is made of their results. -/
theorem map_same {x y : Except QueryError α} (h : UpToCase Eq x y) (f : α → γ) :
    UpToCase Eq (f <$> x) (f <$> y) :=
  h.map fun _ _ h => congrArg f h

/-- Checks of the elements of two lists have the same outcome when those of related elements do. -/
theorem forM {f : α → Except QueryError Unit} {g : β → Except QueryError Unit}
    (hfg : ∀ a b, R a b → UpToCase Eq (f a) (g b)) {xs : List α} {ys : List β}
    (h : List.Forall₂ R xs ys) : UpToCase Eq (xs.forM f) (ys.forM g) := by
  induction h with
  | nil => exact .refl _
  | cons hhead _ ih => exact (hfg _ _ hhead).bind_same fun _ => ih

end UpToCase

/-! ### Predicates -/

namespace Predicate

variable {e : Entity}

/-- A property is found for a name and for its lower case form, or for neither. -/
theorem upToCase_requireProperty (name : String) :
    UpToCase Eq (requireProperty e .insensitive (fold name))
      (requireProperty e .insensitive name) := by
  unfold requireProperty
  rw [Entity.property?_fold]
  split
  · exact .ok rfl
  · exact .error (by simp [QueryError.caseless, ExpressionFault.caseless])

/-- A name and its lower case form have the same column. -/
theorem upToCase_column (name : String) :
    UpToCase Eq (column e .insensitive (fold name)) (column e .insensitive name) :=
  (upToCase_requireProperty name).map_same Property.field

/-- Faults that differ in letter case alone lead to the same refusal. -/
theorem upToCase_reject {α : Type} {fault fault' : ExpressionFault}
    (h : fault.caseless = fault'.caseless) :
    UpToCase Eq (reject fault : Except QueryError α) (reject fault') :=
  .error (congrArg QueryError.unsupportedExpression h)

/-- A comparison is compiled for a name as it is for the lower case form. -/
theorem upToCase_comparison (name : String) (op : Comparison) (v : Value) :
    UpToCase Eq (comparison e .insensitive (fold name) op v)
      (comparison e .insensitive name op v) := by
  refine (upToCase_column name).bind_same fun field => ?_
  split
  case h_3 | h_4 => exact upToCase_reject (by simp [ExpressionFault.caseless])
  all_goals exact .refl _

/-- A predicate whose lower case form is a name is a name itself. -/
theorem of_caseless_eq_property {p : Predicate} {name : String} (h : p.caseless = .property name) :
    ∃ given, p = .property given ∧ fold given = name := by
  cases p <;> simp_all [caseless]

/-- A predicate whose lower case form is a constant is that constant. -/
theorem of_caseless_eq_constant {p : Predicate} {v : Value} (h : p.caseless = .constant v) :
    p = .constant v := by
  cases p <;> simp_all [caseless]

/-- The lower case forms of several predicates are taken one by one. -/
theorem caselessAll_eq_map (ps : List Predicate) : caselessAll ps = ps.map caseless := by
  induction ps with
  | nil => rw [caselessAll, List.map_nil]
  | cons p ps ih => rw [caselessAll, List.map_cons, ih]

/-- A pattern test is compiled for a name as it is for the lower case form. -/
theorem upToCase_patternTest (name pattern : String) :
    UpToCase Eq (patternTest e .insensitive (fold name) pattern)
      (patternTest e .insensitive name pattern) :=
  (upToCase_column name).bind_same fun _ => .refl _

/-- A method call is compiled as its lower case form is. -/
theorem upToCase_callCondition (method : String) (target : Predicate) (arguments : List Predicate) :
    UpToCase Eq (callCondition e .insensitive method target.caseless (caselessAll arguments))
      (callCondition e .insensitive method target arguments) := by
  rw [caselessAll_eq_map]
  unfold callCondition
  split
  case h_1 htarget harguments =>
    obtain rfl := of_caseless_eq_constant htarget
    obtain ⟨p, rfl, hp⟩ := List.map_eq_singleton_iff.1 harguments
    obtain ⟨name, rfl, rfl⟩ := of_caseless_eq_property hp
    exact (upToCase_column name).bind_same fun _ => .refl _
  case h_2 htarget harguments | h_3 htarget harguments | h_4 htarget harguments =>
    obtain ⟨name, rfl, rfl⟩ := of_caseless_eq_property htarget
    obtain ⟨p, rfl, hp⟩ := List.map_eq_singleton_iff.1 harguments
    obtain rfl := of_caseless_eq_constant hp
    exact upToCase_patternTest name _
  case h_5 htarget harguments =>
    obtain ⟨name, rfl, rfl⟩ := of_caseless_eq_property htarget
    obtain ⟨p, rest, rfl, hp, hrest⟩ := List.map_eq_cons_iff.1 harguments
    obtain ⟨q, rfl, hq⟩ := List.map_eq_singleton_iff.1 hrest
    obtain rfl := of_caseless_eq_constant hp
    obtain rfl := of_caseless_eq_constant hq
    exact (upToCase_column name).bind_same fun _ => .refl _
  case h_6 method _ _ _ hmember hcontains hstarts hends hbetween =>
    -- operands whose lower case forms fit no method fit none as they are
    generalize (if methods.contains method then reject (.callOperands method)
      else reject (.unknownMethod method) : Except QueryError Condition) = refusal
    split
    · exact (hmember _ _ rfl rfl rfl).elim
    · exact (hcontains _ _ rfl rfl rfl).elim
    · exact (hstarts _ _ rfl rfl rfl).elim
    · exact (hends _ _ rfl rfl rfl).elim
    · exact (hbetween _ _ _ rfl rfl rfl).elim
    · exact .refl _

/-- A predicate is compiled as its lower case form is. -/
theorem upToCase_compileNode (p : Predicate) :
    UpToCase Eq (p.caseless.compileNode e .insensitive) (p.compileNode e .insensitive) := by
  induction p using compileNode.induct with
  | case1 left right ihleft ihright | case2 left right ihleft ihright =>
    simp only [caseless, compileNode]
    exact ihleft.bind_same fun _ => ihright.bind_same fun _ => .refl _
  | case3 inner ih =>
    simp only [caseless, compileNode]
    exact ih.bind_same fun _ => .refl _
  | case4 name op v | case5 v op name =>
    simp only [caseless, compileNode]
    exact (upToCase_comparison _ _ _).map_same Node.leaf
  | case6 left op right =>
    simp only [caseless, compileNode]
    exact upToCase_reject (by simp [ExpressionFault.caseless])
  | case7 left op right hconstant hflipped hproperties =>
    -- operands whose lower case forms can be compared can be compared as they are
    rw [caseless, compileNode, compileNode]
    · exact .refl _
    · exact hconstant
    · exact hflipped
    · exact hproperties
    · intro name v hleft hright
      obtain ⟨given, rfl, -⟩ := of_caseless_eq_property hleft
      exact hconstant given v rfl (of_caseless_eq_constant hright)
    · intro v name hleft hright
      obtain ⟨given, rfl, -⟩ := of_caseless_eq_property hright
      exact hflipped v given (of_caseless_eq_constant hleft) rfl
    · intro name name' hleft hright
      obtain ⟨given, rfl, -⟩ := of_caseless_eq_property hleft
      obtain ⟨given', rfl, -⟩ := of_caseless_eq_property hright
      exact hproperties given given' rfl rfl
  | case8 name =>
    simp only [caseless, compileNode]
    refine (upToCase_requireProperty name).bind_same fun p => ?_
    split
    · exact .refl _
    · exact upToCase_reject (by simp [ExpressionFault.caseless])
  | case9 v =>
    simp only [caseless, compileNode]
    exact .refl _
  | case10 method target arguments =>
    simp only [caseless, compileNode]
    exact (upToCase_callCondition _ _ _).map_same Node.leaf

end Predicate

/-! ### Filters -/

/-- A condition is valid when its lower case form is. -/
theorem Condition.upToCase_validate (c : Condition) :
    UpToCase Eq c.caseless.validate c.validate := by
  unfold validate
  rw [show c.caseless.fault? = c.fault? from rfl]
  split
  · exact .error (by simp [QueryError.caseless, Condition.caseless, Field.caseless])
  · exact .refl _

namespace Group

/-- The lower case form of a conjunction is that of its conditions. -/
theorem caseless_all (cs : List Condition) :
    (all cs).caseless = all (cs.map Condition.caseless) := by
  unfold all caseless
  congr 1
  induction cs with
  | nil => rw [List.map_nil, List.map_nil, List.map_nil, Node.mapAll]
  | cons c cs ih => rw [List.map_cons, List.map_cons, List.map_cons, Node.mapAll, Node.map, ih]

/-- The leaves of a conjunction are its conditions. -/
theorem leaves_all (cs : List Condition) : (all cs).leaves = cs := by
  unfold all leaves
  induction cs with
  | nil => rw [List.map_nil, Node.leavesOf]
  | cons c cs ih => rw [List.map_cons, Node.leavesOf, Node.leaves, ih, List.singleton_append]

/-- The leaves of the lower case form are the lower case forms of the leaves. -/
theorem leaves_caseless (g : Group Condition) :
    g.caseless.leaves = g.leaves.map Condition.caseless :=
  Node.leavesOf_mapAll Condition.caseless g.children

/-- A tree is valid when its lower case form is. -/
theorem upToCase_validate_caseless (g : Group Condition) :
    UpToCase Eq g.caseless.validate g.validate := by
  unfold validate
  rw [leaves_caseless]
  refine .forM (R := fun c c' => c = c'.caseless) ?_ ?_
  · rintro _ c rfl
    exact c.upToCase_validate
  · exact List.forall₂_map_left_iff.2 (List.forall₂_same.2 fun _ _ => rfl)

/-- Trees with the same lower case form are valid alike. -/
theorem upToCase_validate {g g' : Group Condition} (h : g.caseless = g'.caseless) :
    UpToCase Eq g.validate g'.validate := by
  have hg' := g'.upToCase_validate_caseless
  rw [← h] at hg'
  exact g.upToCase_validate_caseless.symm.trans hg'

end Group

namespace Filter

variable {e : Entity} {f f' : Filter}

/-- The condition on a member has the name of the member in its lower case form. -/
theorem memberCondition_fold (name : String) (v : Value) :
    memberCondition (fold name, v) = (memberCondition (name, v)).caseless := by
  cases v <;> rfl

/-- The condition on a member is about the name of the member. -/
theorem name_memberCondition (name : String) (v : Value) :
    (memberCondition (name, v)).field.name = name := by
  cases v <;> rfl

/-- The conditions of a record in lower case are those of the record, in lower case. -/
theorem map_memberCondition_caseless (record : Record) :
    record.caseless.entries.map memberCondition =
      (record.entries.map memberCondition).map Condition.caseless := by
  rw [Record.caseless, List.map_map, List.map_map]
  exact List.map_congr_left fun (name, v) _ => memberCondition_fold name v

/-- Filters that differ in letter case alone stand for trees that do. -/
theorem upToCase_toGroup (h : f.caseless = f'.caseless) :
    UpToCase (fun g g' => g.caseless = g'.caseless) (f.toGroup e .insensitive)
      (f'.toGroup e .insensitive) := by
  cases f with
  | dynamic record =>
    cases f' with
    | dynamic record' =>
      have hrecord : record.caseless = record'.caseless := Filter.dynamic.inj h
      refine .ok ?_
      rw [Group.caseless_all, Group.caseless_all, ← map_memberCondition_caseless,
        ← map_memberCondition_caseless, hrecord]
    | _ => nomatch h
  | condition c =>
    cases f' with
    | condition c' =>
      have hc : c.caseless = c'.caseless := Filter.condition.inj h
      refine .ok ?_
      rw [Group.caseless_all, Group.caseless_all, List.map_singleton, List.map_singleton, hc]
    | _ => nomatch h
  | conditions cs =>
    cases f' with
    | conditions cs' =>
      have hcs : cs.map Condition.caseless = cs'.map Condition.caseless := Filter.conditions.inj h
      refine .ok ?_
      rw [Group.caseless_all, Group.caseless_all, hcs]
    | _ => nomatch h
  | group g =>
    cases f' with
    | group g' => exact .ok (Filter.group.inj h)
    | _ => nomatch h
  | predicate p =>
    cases f' with
    | predicate p' =>
      -- both compile as their common lower case form does
      have hp : p.caseless = p'.caseless := Filter.predicate.inj h
      have hp' := p'.upToCase_compileNode (e := e)
      rw [← hp] at hp'
      exact (p.upToCase_compileNode.symm.trans hp').map fun n n' hn => by rw [hn]
    | _ => nomatch h
  | key v =>
    cases f' with
    | key v' =>
      obtain rfl : v = v' := Filter.key.inj h
      exact (UpToCase.refl _).imp fun g g' hg => congrArg Group.caseless hg
    | _ => nomatch h

/-- Filters that differ in letter case alone are normalized to trees that do, or refused for the
same reason. -/
theorem upToCase_normalize (h : f.caseless = f'.caseless) :
    UpToCase (fun g g' => g.caseless = g'.caseless) (f.normalize e .insensitive)
      (f'.normalize e .insensitive) := by
  refine (upToCase_toGroup h).bind fun g g' hg => ?_
  exact (Group.upToCase_validate hg).bind_same fun _ => .ok hg

/-- The names that a filter hands on without looking them up. -/
def unresolved : Filter → List String
  | dynamic record => record.names
  | condition c => [c.field.name]
  | conditions cs => cs.map (·.field.name)
  | group g => g.leaves.map (·.field.name)
  | predicate _ | key _ => []

/-- The lower case form of a filter hands on the lower case forms of the names. -/
theorem unresolved_caseless (f : Filter) : f.caseless.unresolved = f.unresolved.map fold := by
  cases f with
  | dynamic record => simp [caseless, unresolved, Record.caseless, Record.names]
  | condition c => simp [caseless, unresolved, Condition.caseless, Field.caseless]
  | conditions cs => simp [caseless, unresolved, Condition.caseless, Field.caseless]
  | group g =>
    simp [caseless, unresolved, Group.leaves_caseless, Condition.caseless, Field.caseless]
  | predicate | key => rfl

/-- The conditions of a normalized filter are about names that the filter hands on, or about columns
of properties. -/
theorem knows_of_normalize {fieldCase : FieldCase} {g : Group Condition}
    (h : f.normalize e fieldCase = .ok g) (hknown : ∀ name ∈ f.unresolved, e.Knows name) :
    ∀ c ∈ g.leaves, e.Knows c.field.name := by
  obtain ⟨g', hgroup, hnext⟩ := bind_eq_ok_iff.1 h
  obtain ⟨_, -, hpure⟩ := bind_eq_ok_iff.1 hnext
  obtain rfl := Except.ok.inj hpure
  intro c hc
  cases f with
  | predicate | key =>
    have hfields := fields_normalize (by trivial) h
    have hfield : c.field ∈ g'.leaves.map (·.field) := List.mem_map_of_mem hc
    rw [hfields] at hfield
    obtain ⟨p, hp, hp'⟩ := List.mem_map.1 hfield
    rw [← hp']
    exact Entity.knows_columnName (mem_of_mem_named hp)
  | dynamic record =>
    obtain rfl := Except.ok.inj hgroup
    rw [Group.leaves_all] at hc
    obtain ⟨⟨name, v⟩, hentry, rfl⟩ := List.mem_map.1 hc
    rw [name_memberCondition]
    exact hknown name (List.mem_map_of_mem hentry)
  | condition c' =>
    obtain rfl := Except.ok.inj hgroup
    rw [Group.leaves_all, List.mem_singleton] at hc
    rw [hc]
    exact hknown _ (List.mem_singleton_self _)
  | conditions cs =>
    obtain rfl := Except.ok.inj hgroup
    rw [Group.leaves_all] at hc
    exact hknown _ (List.mem_map_of_mem hc)
  | group g =>
    obtain rfl := Except.ok.inj hgroup
    exact hknown _ (List.mem_map_of_mem hc)

end Filter

end FilterSql
