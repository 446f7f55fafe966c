import FilterSql.Proofs.First
import FilterSql.Proofs.Requests
import Mathlib.Algebra.Group.Nat.Defs

/-!
# Which condition trees are built

A condition is checked twice: when a filter is normalized, over the list of all leaves, and when the
statement is built, each leaf in its place between the parameters of its neighbours. Both checks come
down to one pass over the leaves, depth first and from left to right, and the first leaf that does not
pass is the one that is reported. Building asks one thing more than normalizing does: no membership
test may have an empty list.

## Main definitions

* `Condition.Suits`: the value of a condition is of the form that its operator takes;
* `Condition.Buildable`: a statement can hold the condition;
* `Condition.Offence`: what is reported about a condition that no statement can hold.

## Main results

* `Condition.check_eq_ok_iff` and `Condition.check_eq_error_iff`: what the check of a condition finds;
* `Node.check_bindAllFrom`: binding a tree fails as checking its leaves one after another does;
* `Filter.normalize_group_eq_error_iff`: a tree is normalized to itself, unless the value of a leaf
  does not suit its operator;
* `Builder.builds_reading_iff`: which queries and counts are built, and what is reported about the
  others.
-/

namespace FilterSql

/-! ### One condition -/

namespace Condition

/-- The value of a condition is of the form that the operator takes: a list of scalars for a membership
test, two scalars other than null for a range test, null for a null test, and else a scalar. -/
def Suits (c : Condition) : Prop :=
  match c.operator with
  | .isIn | .notIn => ∃ items, c.value = .list items ∧ ∀ v ∈ items, v.isList = false
  | .between | .notBetween =>
    ∃ low high, c.value = .list [low, high] ∧ ∀ v ∈ [low, high], v.isNull = false ∧ v.isList = false
  | .isNull | .isNotNull => c.value = .null
  | _ => c.value.isList = false

/-- A statement can hold the condition. -/
structure Buildable (c : Condition) : Prop where
  /-- The value suits the operator. -/
  suits : c.Suits
  /-- A membership test has some element. -/
  nonempty : c.operator = .isIn ∨ c.operator = .notIn → c.value ≠ .list []

/-- What is reported about a condition that no statement can hold. -/
inductive Offence (c : Condition) : QueryError → Prop
  /-- The value does not suit the operator. -/
  | unsuited {fault : ArgumentFault} (unsuited : ¬ c.Suits) (reason : c.fault? = some fault) :
    Offence c (.invalidOperatorArgument c.field.name c.operator fault)
  /-- A membership test of an empty list. -/
  | empty (membership : c.operator = .isIn ∨ c.operator = .notIn) (nothing : c.value = .list []) :
    Offence c (.emptyInClause c.field.name)

variable {c : Condition} {e : QueryError}

/-- Nothing is wrong with a value that suits the operator, and something with any other. -/
theorem fault?_eq_none_iff : c.fault? = none ↔ c.Suits := by
  obtain ⟨field, op, v, escape⟩ := c
  -- what the operator takes is looked up in the form of the value
  cases op with
  | isIn | notIn => cases v <;> simp [fault?, Suits]
  | between | notBetween =>
    cases v with
    | list items =>
      match items with
      | [low, high] => simp [fault?, Suits, and_comm, and_assoc, and_left_comm]
      | [] | [_] | _ :: _ :: _ :: _ => simp [fault?, Suits]
    | _ => simp [fault?, Suits]
  | _ => cases v <;> simp [fault?, Suits, Value.isList]

/-- The empty lists are those of membership tests. -/
theorem isEmptyMembership_iff :
    c.isEmptyMembership = true ↔
      (c.operator = .isIn ∨ c.operator = .notIn) ∧ c.value = .list [] := by
  unfold isEmptyMembership
  split
  next hop hv => simp [hop, hv]
  next hop hv => simp [hop, hv]
  next hin hnotIn =>
    simp only [Bool.false_eq_true, false_iff]
    rintro ⟨hop | hop, hv⟩
    · exact hin hop hv
    · exact hnotIn hop hv

/-- A membership test of an empty list has a value of the form that it takes. -/
theorem suits_of_empty (membership : c.operator = .isIn ∨ c.operator = .notIn)
    (nothing : c.value = .list []) : c.Suits := by
  rcases membership with hop | hop <;> simp [Suits, hop, nothing]

/-- A condition is refused when its value does not suit the operator. -/
theorem validate_eq_error_iff :
    c.validate = .error e ↔
      ∃ fault, c.fault? = some fault ∧ e = .invalidOperatorArgument c.field.name c.operator fault := by
  unfold validate
  cases c.fault? <;> simp [eq_comm]

/-- A condition passes when a statement can hold it. -/
theorem check_eq_ok_iff : c.check = .ok () ↔ c.Buildable := by
  unfold check
  rw [bind_eq_ok_iff]
  constructor
  · rintro ⟨⟨⟩, hvalid, hempty⟩
    refine ⟨fault?_eq_none_iff.1 ((validate_eq_ok_iff c).1 hvalid), fun membership nothing => ?_⟩
    rw [if_pos (isEmptyMembership_iff.2 ⟨membership, nothing⟩)] at hempty
    cases hempty
  · rintro ⟨hsuits, hnonempty⟩
    refine ⟨(), (validate_eq_ok_iff c).2 (fault?_eq_none_iff.2 hsuits), if_neg fun hempty => ?_⟩
    obtain ⟨membership, nothing⟩ := isEmptyMembership_iff.1 hempty
    exact hnonempty membership nothing

/-- A condition that does not pass is reported for what is wrong with it. -/
theorem check_eq_error_iff : c.check = .error e ↔ c.Offence e := by
  unfold check
  rw [bind_eq_error_iff, validate_eq_error_iff]
  constructor
  · rintro (⟨fault, hfault, rfl⟩ | ⟨_, -, hempty⟩)
    · refine .unsuited (fun hsuits => ?_) hfault
      rw [fault?_eq_none_iff.2 hsuits] at hfault
      cases hfault
    · split at hempty
      next h =>
        obtain ⟨membership, nothing⟩ := isEmptyMembership_iff.1 h
        obtain rfl := Except.error.inj hempty
        exact .empty membership nothing
      next => cases hempty
  · intro h
    cases h with
    | unsuited _ reason => exact .inl ⟨_, reason, rfl⟩
    | empty membership nothing =>
      have hvalid := fault?_eq_none_iff.2 (suits_of_empty membership nothing)
      refine .inr ⟨(), (validate_eq_ok_iff c).2 hvalid, ?_⟩
      exact if_pos (isEmptyMembership_iff.2 ⟨membership, nothing⟩)

/-- A condition is bound when it passes, and else refused as the check says. -/
theorem bindTo_eq (column : Column) (start : Nat) :
    c.bindTo column start = c.check.map fun _ => c.settle column start := by
  unfold bindTo
  cases c.check <;> rfl

end Condition

/-! ### A tree of conditions -/

/-- Whether a computation succeeds or how it fails does not depend on what its result is used for. -/
theorem map_eq_error_iff {ε α β : Type} {x : Except ε α} {f : α → β} {e : ε} :
    x.map f = .error e ↔ x = .error e := by
  cases x <;> simp [Except.map]

/-- A computation with a forgotten result succeeds when it has one. -/
theorem map_unit_eq_ok_iff {ε α : Type} {x : Except ε α} :
    (x.map fun _ => ()) = .ok () ↔ ∃ a, x = .ok a := by
  cases x <;> simp [Except.map]

/-- A step of building that cannot be refused does not change whether a computation is. -/
theorem Building.forget_run_bind {α β : Type} {x : Building α} {f : α → Building β}
    {types : TypeChain} (hf : ∀ a types, ∃ b, ((f a).run.run types).1 = .ok b) :
    (((x >>= f).run.run types).1.map fun _ => ()) = (x.run.run types).1.map fun _ => () := by
  rw [run_bind]
  rcases x.run.run types with ⟨e | a, types₁⟩
  · rfl
  · obtain ⟨b, hb⟩ := hf a types₁
    dsimp only
    rw [hb]
    rfl

namespace Node

mutual

/-- Binding a tree fails as checking its leaves one after another does. -/
theorem check_bindFrom : ∀ (start : Nat) (n : Node (Condition × Column)),
    ((bindFrom start n).map fun _ => ()) = n.leaves.forM fun c => c.1.check
  | start, leaf (c, column) => by
    rw [bindFrom, c.bindTo_eq, leaves]
    change _ = c.check >>= fun _ => pure ()
    cases c.check <;> rfl
  | start, group _ _ children => by
    rw [bindFrom, leaves, ← check_bindAllFrom start children]
    cases bindAllFrom start children <;> rfl

/-- Binding several trees fails as checking their leaves one after another does. -/
theorem check_bindAllFrom : ∀ (start : Nat) (ns : List (Node (Condition × Column))),
    ((bindAllFrom start ns).map fun _ => ()) = (leavesOf ns).forM fun c => c.1.check
  | _, [] => rfl
  | start, child :: rest => by
    have hchild := check_bindFrom start child
    rw [bindAllFrom, leavesOf, List.forM_eq_forM, List.forM_append, ← List.forM_eq_forM, ← hchild]
    cases bindFrom start child with
    | error e => rfl
    | ok r =>
      -- the rest is bound behind the parameters of the first tree, which its checks do not see
      obtain ⟨n, ps⟩ := r
      change _ = (leavesOf rest).forM _
      rw [← check_bindAllFrom (start + ps.length) rest]
      change ((bindAllFrom (start + ps.length) rest >>= _).map _) = _
      cases bindAllFrom (start + ps.length) rest <;> rfl

end

end Node

namespace Group

variable {g : Group Condition} {e : QueryError}

/-- A tree is valid when the values of all leaves suit their operators. -/
theorem validate_eq_ok_iff : g.validate = .ok () ↔ ∀ c ∈ g.leaves, c.Suits := by
  unfold validate
  simp only [forM_eq_ok_iff, Condition.validate_eq_ok_iff, Condition.fault?_eq_none_iff]

/-- A tree is refused for the first leaf whose value does not suit its operator. -/
theorem validate_eq_error_iff :
    g.validate = .error e ↔
      ∃ c fault, FirstWith (fun c => ¬ c.Suits) g.leaves c ∧ c.fault? = some fault ∧
        e = .invalidOperatorArgument c.field.name c.operator fault := by
  unfold validate
  simp only [forM_eq_error_iff, ne_eq, Condition.validate_eq_ok_iff, Condition.fault?_eq_none_iff,
    Condition.validate_eq_error_iff]
  exact ⟨fun ⟨c, hfirst, fault, h⟩ => ⟨c, fault, hfirst, h⟩,
    fun ⟨c, fault, hfirst, h⟩ => ⟨c, hfirst, fault, h⟩⟩

/-- The condition of a statement is refused as checking the leaves one after another says. -/
theorem check_bind (s : Scope) (types : TypeChain) :
    (((g.bind s).run.run types).1.map fun _ => ()) = g.leaves.forM Condition.check := by
  rw [g.bind_fst]
  have hcheck := Node.check_bindAllFrom 0 (Node.mapAll (Node.located s types) g.children)
  rw [Node.leavesOf_mapAll, List.forM_eq_forM, List.forM_map] at hcheck
  refine Eq.trans ?_ hcheck
  cases Node.bindAllFrom 0 (Node.mapAll (Node.located s types) g.children) <;> rfl

end Group

/-! ### Filters and statements -/

namespace Filter

variable {e : Entity} {fieldCase : FieldCase}

/-- Normalizing a tree changes nothing, and succeeds when the values of all leaves suit their
operators. -/
theorem normalize_group_eq_ok_iff {g g' : Group Condition} :
    (group g).normalize e fieldCase = .ok g' ↔ (∀ c ∈ g.leaves, c.Suits) ∧ g' = g := by
  rw [← Group.validate_eq_ok_iff]
  change (g.validate >>= fun _ => pure g) = .ok g' ↔ _
  cases g.validate <;> simp [bind, Except.bind, pure, Except.pure, eq_comm]

/-- Normalizing a tree fails for the first leaf whose value does not suit its operator. -/
theorem normalize_group_eq_error_iff {g : Group Condition} {err : QueryError} :
    (group g).normalize e fieldCase = .error err ↔
      ∃ c fault, FirstWith (fun c => ¬ c.Suits) g.leaves c ∧ c.fault? = some fault ∧
        err = .invalidOperatorArgument c.field.name c.operator fault := by
  rw [← Group.validate_eq_error_iff]
  change (g.validate >>= fun _ => pure g) = .error err ↔ _
  cases g.validate <;> simp [bind, Except.bind, pure, Except.pure]

/-- In the tree of a filter of any shape, the values of all leaves suit their operators. -/
theorem suits_of_normalize {f : Filter} {g : Group Condition}
    (h : f.normalize e fieldCase = .ok g) : ∀ c ∈ g.leaves, c.Suits := by
  obtain ⟨g', -, h⟩ := bind_eq_ok_iff.1 h
  obtain ⟨⟨⟩, hvalid, h⟩ := bind_eq_ok_iff.1 h
  obtain rfl := Except.ok.inj h
  exact Group.validate_eq_ok_iff.1 hvalid

end Filter

namespace Builder

variable {b : Builder} {r : Request}

/-- Without a page, there is no ordering to ask for. -/
theorem checkOrder_of_query (hop : r.operation = .query) : b.checkOrder r = .ok () := by
  rw [checkOrder, hop]

/-- A row limit that fits a statement is taken. -/
theorem exists_window_of_query (hop : r.operation = .query) (htop : ∀ n ∈ r.top, n ≤ 2 ^ 63 - 1) :
    ∃ w, window r = .ok w := by
  unfold window
  rw [hop]
  cases hlimit : r.top with
  | none => exact ⟨_, rfl⟩
  | some n =>
    have hfits : n < rowBound := by
      have hle := htop n hlimit
      unfold rowBound
      omega
    exact ⟨_, if_pos hfits⟩

/-- A query is refused as checking the leaves of its tree one after another says, when its row limit
fits a statement. -/
theorem check_select (hop : r.operation = .query) (htop : ∀ n ∈ r.top, n ≤ 2 ^ 63 - 1)
    (types : TypeChain) :
    (((b.select r).run.run types).1.map fun _ => ()) = r.filter.leaves.forM Condition.check := by
  obtain ⟨w, hwindow⟩ := exists_window_of_query hop htop
  unfold select
  dsimp only
  rw [Building.run_bind_mk, checkOrder_of_query hop]
  dsimp only
  rw [Building.run_bind_mk, hwindow]
  dsimp only
  rw [Building.run_bind_lift, Building.forget_run_bind fun _ _ => ⟨_, rfl⟩]
  exact r.filter.check_bind _ _

/-- A count is refused as checking the leaves of its tree one after another says. -/
theorem check_count (types : TypeChain) :
    (((b.count r).run.run types).1.map fun _ => ()) = r.filter.leaves.forM Condition.check := by
  unfold count
  rw [Building.forget_run_bind fun _ _ => ⟨_, rfl⟩]
  exact r.filter.check_bind _ _

/-- A query or count is refused as checking the leaves of its tree one after another says, when the row
limit of a query fits a statement. -/
theorem check_run (hop : r.operation = .query ∨ r.operation = .count)
    (htop : ∀ n ∈ r.top, n ≤ 2 ^ 63 - 1) (types : TypeChain) :
    ((b.run r types).1.map fun _ => ()) = r.filter.leaves.forM Condition.check := by
  unfold run build
  rcases hop with hop | hop
  · rw [hop]
    dsimp only
    rw [Building.forget_run_bind fun _ _ => ⟨_, rfl⟩]
    exact check_select hop htop types
  · rw [hop]
    dsimp only
    rw [Building.forget_run_bind fun _ _ => ⟨_, rfl⟩]
    exact check_count types

/-- A query or count, with a row limit that fits a statement if it has one, is built when a statement can
hold every leaf of its tree. Otherwise the first leaf that it cannot hold is reported. A tree that comes
from a filter of any shape can fail for nothing but an empty membership test: normalizing a tree changes
nothing, and reports the first leaf whose value does not suit its operator. -/
theorem builds_reading_iff (b : Builder) {r : Request}
    (hop : r.operation = .query ∨ r.operation = .count) (htop : ∀ n ∈ r.top, n ≤ 2 ^ 63 - 1)
    (types : TypeChain) :
    ((∃ st, (b.run r types).1 = .ok st) ↔ ∀ c ∈ r.filter.leaves, c.Buildable) ∧
      (∀ err, (b.run r types).1 = .error err ↔
        ∃ c, FirstWith (fun c => ¬ c.Buildable) r.filter.leaves c ∧ c.Offence err) ∧
      (∀ (f : Filter) (e : Entity) (fieldCase : FieldCase),
        f.normalize e fieldCase = .ok r.filter → ∀ err, (b.run r types).1 = .error err →
          ∃ c ∈ r.filter.leaves, err = .emptyInClause c.field.name) ∧
      ∀ (g : Group Condition) (e : Entity) (fieldCase : FieldCase),
        (∀ g', (Filter.group g).normalize e fieldCase = .ok g' ↔
          (∀ c ∈ g.leaves, c.Suits) ∧ g' = g) ∧
        ∀ err, (Filter.group g).normalize e fieldCase = .error err ↔
          ∃ c fault, FirstWith (fun c => ¬ c.Suits) g.leaves c ∧ c.fault? = some fault ∧
            err = .invalidOperatorArgument c.field.name c.operator fault := by
  have hcheck := check_run (b := b) hop htop types
  have herror (err : QueryError) : (b.run r types).1 = .error err ↔
      ∃ c, FirstWith (fun c => ¬ c.Buildable) r.filter.leaves c ∧ c.Offence err := by
    rw [← map_eq_error_iff (f := fun _ => ()), hcheck, forM_eq_error_iff]
    simp only [ne_eq, Condition.check_eq_ok_iff, Condition.check_eq_error_iff]
  refine ⟨?_, herror, ?_, ?_⟩
  · rw [← map_unit_eq_ok_iff, hcheck, forM_eq_ok_iff]
    simp only [Condition.check_eq_ok_iff]
  · -- the leaves of a normalized tree have values that suit them, so only empty lists are left
    intro f e fieldCase hnormal err hrun
    obtain ⟨c, ⟨-, before, after, hleaves, -⟩, hoffence⟩ := (herror err).1 hrun
    have hmem : c ∈ r.filter.leaves := by simp [hleaves]
    cases hoffence with
    | unsuited unsuited => exact absurd (Filter.suits_of_normalize hnormal c hmem) unsuited
    | empty => exact ⟨c, hmem, rfl⟩
  · intro g e fieldCase
    exact ⟨fun g' => Filter.normalize_group_eq_ok_iff, fun err => Filter.normalize_group_eq_error_iff⟩

/-- An empty membership test comes before a range test without a bound, and building reports it.
Normalizing has nothing against it and reports the range test. -/
theorem builds_reading_first_offence :
    let g : Group Condition :=
      { children := [.leaf (.eq { name := "Id" } (.int 1)),
          .group .or true [.leaf (.isIn { name := "Kind" } []),
            .leaf (.between { name := "Age" } .null (.int 3))]] }
    let r : Request :=
      { entity := .ofTable { name := "person" }, operation := .query, filter := g
        top := some 9223372036854775807 }
    (r.operation = .query ∨ r.operation = .count) ∧ (∀ n ∈ r.top, n ≤ 2 ^ 63 - 1) ∧
      (Builder.run { dialect := .mysql } r {}).1 = .error (.emptyInClause "Kind") ∧
      (Filter.group g).normalize r.entity .exact =
        .error (.invalidOperatorArgument "Age" .between .boundNotScalar) := by
  intro g r
  have hop : r.operation = .query ∨ r.operation = .count := .inl rfl
  have htop : ∀ n ∈ r.top, n ≤ 2 ^ 63 - 1 := by simp [r]
  obtain ⟨-, hrun, -, hnormalize⟩ := builds_reading_iff { dialect := .mysql } hop htop {}
  have hequal : (Condition.eq { name := "Id" } (.int 1)).Suits := rfl
  have hkind : (Condition.isIn { name := "Kind" } []).Suits := ⟨[], rfl, by simp⟩
  refine ⟨hop, htop, (hrun _).2 ⟨.isIn { name := "Kind" } [], ⟨?_, [.eq { name := "Id" } (.int 1)],
    [.between { name := "Age" } .null (.int 3)], rfl, ?_⟩, .empty (.inl rfl) rfl⟩,
    ((hnormalize g r.entity .exact).2 _).2 ⟨.between { name := "Age" } .null (.int 3),
      .boundNotScalar, ⟨?_, [.eq { name := "Id" } (.int 1), .isIn { name := "Kind" } []], [], rfl, ?_⟩,
      rfl, rfl⟩⟩
  · exact fun hbuildable => hbuildable.nonempty (.inl rfl) rfl
  · simp only [List.mem_singleton, forall_eq, not_not]
    exact ⟨hequal, fun membership => by simp [Condition.eq] at membership⟩
  · rintro ⟨low, high, hvalue, hbounds⟩
    obtain ⟨rfl, -⟩ := List.cons.inj (Value.list.inj hvalue)
    exact Bool.noConfusion (hbounds .null List.mem_cons_self).1
  · simp only [List.forall_mem_cons, not_not]
    exact ⟨hequal, hkind, by simp⟩

end Builder

end FilterSql
