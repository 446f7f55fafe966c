import FilterSql.Statement.Builder

/-!
# The answers of a type chain

A chain that has answered a question gives the same answers as before, whatever its cache held to
begin with. A computation whose result depends on these answers alone is called `Invisible`: it
neither changes them nor notices what the cache holds.

## Main definitions

* `TypeChain.Agree`: two chains give the same answers to all questions;
* `Invisible`: a computation keeps the answers and depends on nothing else.

## Main results

* `TypeChain.agree_resolve`: answering a question changes no answer;
* `Scope.invisible_column`, `Builder.invisible_projection` and `Builder.invisible_ordering`: names are
  resolved by the answers alone;
* `Invisible.mapM_fst` and `Invisible.anyM_fst`: what is computed for the elements of a list one after
  another is what is computed for each of them at the start.
-/

namespace FilterSql

namespace TypeChain

/-- The type that a chain answers for a property of the entity named `entity`. -/
def typeOf (c : TypeChain) (entity : String) (p : Property) : Option DbType :=
  (c.resolve entity p).1

/-- Two chains give the same answers, to questions about properties and about kinds. -/
structure Agree (c c' : TypeChain) : Prop where
  /-- Properties have the same types. -/
  typeOf : ∀ entity p, c.typeOf entity p = c'.typeOf entity p
  /-- Kinds are mapped to the same types. -/
  resolveKind : ∀ kind, c.resolveKind kind = c'.resolveKind kind

/-- Every chain agrees with itself. -/
theorem Agree.rfl {c : TypeChain} : c.Agree c :=
  ⟨fun _ _ => by rfl, fun _ => by rfl⟩

/-- Agreement goes both ways. -/
theorem Agree.symm {c c' : TypeChain} (h : c.Agree c') : c'.Agree c :=
  ⟨fun entity p => (h.typeOf entity p).symm, fun kind => (h.resolveKind kind).symm⟩

/-- Agreement passes along a sequence of chains. -/
theorem Agree.trans {c c' c'' : TypeChain} (h : c.Agree c') (h' : c'.Agree c'') : c.Agree c'' :=
  ⟨fun entity p => (h.typeOf entity p).trans (h'.typeOf entity p),
    fun kind => (h.resolveKind kind).trans (h'.resolveKind kind)⟩

/-- The answer for a property is the cached one, else the one of the mapper. -/
theorem typeOf_eq (c : TypeChain) (entity : String) (p : Property) :
    c.typeOf entity p = (c.cache.get? (.of entity p)).getD (c.mapper.resolve entity p) := by
  unfold typeOf resolve
  cases h : c.cache.get? (.of entity p) <;> simp [h]

/-- What a mapper says about a property depends on the property's question alone. -/
theorem mapper_resolve_congr (m : TypeMapper) {entity entity' : String} {p p' : Property}
    (h : TypeQuestion.of entity p = .of entity' p') :
    m.resolve entity p = m.resolve entity' p' := by
  simp only [TypeQuestion.of, TypeQuestion.mk.injEq] at h
  obtain ⟨hkey, hannotation, hkind⟩ := h
  simp only [TypeMapper.resolve, hkey, hannotation, hkind]

/-- Answering a question keeps the mapper. -/
@[simp]
theorem mapper_resolve (c : TypeChain) (entity : String) (p : Property) :
    (c.resolve entity p).2.mapper = c.mapper := by
  unfold resolve
  cases h : c.cache.get? (.of entity p) <;> simp [h]

/-- Answering a question changes no answer. -/
theorem agree_resolve (c : TypeChain) (entity : String) (p : Property) :
    c.Agree (c.resolve entity p).2 := by
  refine ⟨fun entity' p' => ?_, fun kind => by simp [resolveKind]⟩
  -- by `typeOf_eq` an answer depends on the cache and the mapper, and only the cache may change
  simp only [typeOf_eq, mapper_resolve]
  cases hcache : c.cache.get? (.of entity p) with
  | some answer => simp [resolve, hcache]
  | none =>
    simp only [resolve, hcache, Assoc.get?_insert]
    split
    next hsame =>
      -- the question was new, so its answer is the mapper's
      rw [hsame, hcache]
      simpa using mapper_resolve_congr c.mapper hsame
    next => rfl

end TypeChain

/-- A computation keeps the answers of the chain, and its result depends on them alone. -/
structure Invisible {α : Type} (m : StateM TypeChain α) : Prop where
  /-- The chain gives the same answers afterwards. -/
  agree : ∀ types : TypeChain, types.Agree (m.run types).2
  /-- Chains that give the same answers lead to the same result. -/
  result : ∀ {types types' : TypeChain}, types.Agree types' →
    (m.run types).1 = (m.run types').1

namespace Invisible

variable {α β : Type}

/-- A computation that asks nothing is invisible. -/
theorem pure (a : α) : Invisible (Pure.pure a : StateM TypeChain α) :=
  ⟨fun _ => TypeChain.Agree.rfl, fun _ => rfl⟩

/-- One invisible computation after another is invisible. -/
theorem bind {m : StateM TypeChain α} {f : α → StateM TypeChain β} (hm : Invisible m)
    (hf : ∀ a, Invisible (f a)) : Invisible (m >>= f) := by
  refine ⟨fun types => ?_, fun {types types'} h => ?_⟩
  · exact (hm.agree types).trans ((hf _).agree _)
  · -- the second computation starts under different chains, which still agree
    have hchains : ((m.run types).2).Agree (m.run types').2 :=
      ((hm.agree types).symm.trans h).trans (hm.agree types')
    calc ((m >>= f).run types).1
        = ((f (m.run types).1).run (m.run types).2).1 := rfl
      _ = ((f (m.run types').1).run (m.run types').2).1 := by
          rw [hm.result h, (hf _).result hchains]

/-- An invisible computation for each element of a list is invisible. -/
theorem mapM {f : α → StateM TypeChain β} (hf : ∀ a, Invisible (f a)) (xs : List α) :
    Invisible (xs.mapM f) := by
  induction xs with
  | nil => exact pure []
  | cons x xs ih =>
    rw [List.mapM_cons]
    exact (hf x).bind fun b => ih.bind fun bs => pure (b :: bs)

/-- An invisible computation for each element of a list gives what it gives for each element at the
start. -/
theorem mapM_fst {f : α → StateM TypeChain β} (hf : ∀ a, Invisible (f a)) (types : TypeChain)
    (xs : List α) : ((xs.mapM f).run types).1 = xs.map fun x => ((f x).run types).1 := by
  induction xs with
  | nil => rfl
  | cons x xs ih =>
    -- the other elements are computed under the chain that the first one leaves
    have hrest := (mapM hf xs).result ((hf x).agree types)
    rw [List.mapM_cons, List.map_cons, ← ih, hrest]
    rfl

/-- An invisible search through a list is invisible. -/
theorem anyM {p : α → StateM TypeChain Bool} (hp : ∀ a, Invisible (p a)) (xs : List α) :
    Invisible (xs.anyM p) := by
  induction xs with
  | nil => exact pure false
  | cons x xs ih =>
    rw [List.anyM_cons]
    refine (hp x).bind fun found => ?_
    cases found with
    | true => exact pure true
    | false => exact ih

/-- An invisible search through a list finds what is found at the start, although it ends with the
first hit. -/
theorem anyM_fst {p : α → StateM TypeChain Bool} (hp : ∀ a, Invisible (p a)) (types : TypeChain)
    (xs : List α) : ((xs.anyM p).run types).1 = xs.any fun x => ((p x).run types).1 := by
  induction xs with
  | nil => rfl
  | cons x xs ih =>
    -- without a hit, the search goes on under the chain that the first element leaves
    have hrest := (anyM hp xs).result ((hp x).agree types)
    rw [List.anyM_cons, List.any_cons, StateT.run_bind, ← ih, hrest]
    rcases (p x).run types with ⟨found, types₁⟩
    cases found <;> rfl

end Invisible

namespace Scope

variable (s : Scope)

/-- Names are resolved by the answers of the chain alone. -/
theorem invisible_column (name : String) (kind : Option ValueKind) :
    Invisible (s.column name kind) := by
  unfold column
  cases s.entity.property? s.fieldCase name with
  | none =>
    -- a name without a property is typed by kind, which is not cached
    refine ⟨fun _ => TypeChain.Agree.rfl, fun {types types'} h => ?_⟩
    have hkinds : types.resolveKind = types'.resolveKind := funext h.resolveKind
    simp [StateT.run, hkinds]
  | some p =>
    refine ⟨fun types => types.agree_resolve s.entity.name p, fun {types types'} h => ?_⟩
    have htype : (types.resolve s.entity.name p).1 = (types'.resolve s.entity.name p).1 :=
      h.typeOf s.entity.name p
    simp [StateT.run, htype]

/-- The column of a name, whatever its type, is the one that the entity gives. -/
@[simp]
theorem column_name (name : String) (kind : Option ValueKind) (types : TypeChain) :
    ((s.column name kind).run types).1.name = s.entity.columnOf s.fieldCase name := by
  unfold column Entity.columnOf
  cases s.entity.property? s.fieldCase name <;> simp [StateT.run]

/-- The column of a name that matches a property has the property's type. -/
theorem column_dbType {name : String} {p : Property}
    (h : s.entity.property? s.fieldCase name = some p) (kind : Option ValueKind)
    (types : TypeChain) :
    ((s.column name kind).run types).1.dbType = types.typeOf s.entity.name p := by
  simp [column, StateT.run, h, TypeChain.typeOf]

end Scope

namespace Node

variable {α β : Type}

mutual

/-- The tree with every leaf replaced. -/
def map (f : α → β) : Node α → Node β
  | leaf a => leaf (f a)
  | group conjunction negated children => group conjunction negated (mapAll f children)

/-- Several trees with every leaf replaced. -/
def mapAll (f : α → β) : List (Node α) → List (Node β)
  | [] => []
  | child :: rest => map f child :: mapAll f rest

end

mutual

/-- The leaves of a replaced tree are the replaced leaves. -/
theorem leaves_map (f : α → β) : ∀ n : Node α, (n.map f).leaves = n.leaves.map f
  | leaf a => by simp [map, leaves]
  | group _ _ children => by simpa [map, leaves] using leavesOf_mapAll f children

/-- The leaves of several replaced trees are the replaced leaves. -/
theorem leavesOf_mapAll (f : α → β) :
    ∀ ns : List (Node α), leavesOf (mapAll f ns) = (leavesOf ns).map f
  | [] => by simp [mapAll, leavesOf]
  | child :: rest => by simp [mapAll, leavesOf, leaves_map f child, leavesOf_mapAll f rest]

end

/-- A condition with the column that it has under a chain. -/
def located (s : Scope) (types : TypeChain) (c : Condition) : Condition × Column :=
  (c, ((c.column s).run types).1)

/-- Chains that give the same answers locate a condition alike. -/
theorem located_congr (s : Scope) {types types' : TypeChain} (h : types.Agree types') :
    located s types = located s types' := by
  funext c
  simp only [located, Condition.column, (s.invisible_column _ _).result h]

end Node

namespace Builder

/-- The columns of the result are resolved by the answers of the chain alone. -/
theorem invisible_projection (r : Request) (s : Scope) : Invisible (projection r s) := by
  unfold projection
  split
  · exact .pure _
  · exact .mapM (fun _ => (s.invisible_column _ _).bind fun _ => .pure _) _

/-- The columns of the ordering are resolved by the answers of the chain alone. -/
theorem invisible_ordering (r : Request) (s : Scope) : Invisible (ordering r s) := by
  unfold ordering
  exact .mapM (fun _ => (s.invisible_column _ _).bind fun _ => .pure _) _

/-- The columns of the result do not depend on the chain. -/
theorem projection_fst (r : Request) (s : Scope) (types : TypeChain) :
    ((projection r s).run types).1 =
      if r.columns.isEmpty then r.entity.properties.map (·.columnName)
      else r.columns.map fun f => s.entity.columnOf s.fieldCase f.name := by
  unfold projection
  split
  · rfl
  · refine (Invisible.mapM_fst (fun _ => (s.invisible_column _ _).bind fun _ => .pure _) types
      _).trans (List.map_congr_left fun f _ => ?_)
    exact s.column_name f.name f.kind types

/-- The columns of the ordering do not depend on the chain. -/
theorem ordering_fst (r : Request) (s : Scope) (types : TypeChain) :
    ((ordering r s).run types).1 =
      r.order.map fun term => (s.entity.columnOf s.fieldCase term.field.name, term.direction) := by
  refine (Invisible.mapM_fst (fun _ => (s.invisible_column _ _).bind fun _ => .pure _) types
    _).trans (List.map_congr_left fun term _ => ?_)
  exact congrArg (·, term.direction) (s.column_name term.field.name term.field.kind types)

end Builder

end FilterSql
