import FilterSql.Proofs.Answers
import Mathlib.Data.List.Forall2

/-!
# What binding produces

The conditions of a tree are bound one after another, and each column is looked up when its turn has
come. By the answers of the chain, the outcome is that of binding the tree with every column known from
the start: the first condition that no statement can hold is refused, and without one the shape of the
tree is kept. Seen along the leaves it is a single pass: each condition becomes a test of its column and
takes the next free positions for its operands.

## Main definitions

* `Condition.check`: whether a statement can hold a condition;
* `Node.bindFrom`: what a tree with known columns is bound to;
* `Test.slots`: the positions of the parameters that a test is about;
* `Settled`: some located conditions, their tests, and their parameters from a position on.

## Main results

* `Building.fst_bind`: what two steps of building come to, by the answers at the start;
* `Condition.checkItems_of_valid`: of a valid condition, nothing but an empty list is refused;
* `Group.bind_fst`: a condition is bound as the tree with known columns is;
* `Node.settled_bindAllFrom`: binding a tree settles its leaves in order;
* `Group.bind_eq_ok`: what the condition of a statement is bound to.
-/

namespace FilterSql

/-- Two computations in a row succeed when the first does and the second does on its result. -/
theorem bind_eq_ok_iff {ε α β : Type} {x : Except ε α} {f : α → Except ε β} {b : β} :
    x >>= f = .ok b ↔ ∃ a, x = .ok a ∧ f a = .ok b := by
  cases x with
  | error e => simp [bind, Except.bind]
  | ok a => simp [bind, Except.bind]

/-- Two computations in a row fail when the first does, or the second does on its result. -/
theorem bind_eq_error_iff {ε α β : Type} {x : Except ε α} {f : α → Except ε β} {e : ε} :
    x >>= f = .error e ↔ x = .error e ∨ ∃ a, x = .ok a ∧ f a = .error e := by
  cases x with
  | error e => simp [bind, Except.bind]
  | ok a => simp [bind, Except.bind]

/-- A result is made of another one when that one is there. -/
theorem map_eq_ok_iff {ε α β : Type} {x : Except ε α} {f : α → β} {b : β} :
    f <$> x = .ok b ↔ ∃ a, x = .ok a ∧ f a = b := by
  cases x with
  | error e => simp [Functor.map, Except.map]
  | ok a => simp [Functor.map, Except.map]

/-- A result is there when it is there with other errors. -/
theorem mapError_eq_ok_iff {ε ε' α : Type} {x : Except ε α} {f : ε → ε'} {a : α} :
    x.mapError f = .ok a ↔ x = .ok a := by
  cases x with
  | error e => exact ⟨fun h => (nomatch h), fun h => (nomatch h)⟩
  | ok b => rw [Except.mapError, Except.ok.injEq, Except.ok.injEq]

namespace Building

variable {α β : Type} {types types' : TypeChain}

/-- The second of two steps of building starts with the chain that the first one leaves. A first step
that is refused may leave another chain too. -/
theorem run_bind (x : Building α) (f : α → Building β) :
    (x >>= f).run.run types =
      match x.run.run types with
      | (.ok a, types₁) => (f a).run.run types₁
      | (.error e, types₁) => (.error e, types₁) := by
  simp only [ExceptT.run_bind, StateT.run_bind]
  change (fun r : Except QueryError α × TypeChain => _) (x.run.run types) = _
  rcases x.run.run types with ⟨_ | _, _⟩ <;> rfl

/-- Two steps of building succeed when the first does and the second does on its result. -/
theorem bind_eq_ok_iff {x : Building α} {f : α → Building β} {b : β} :
    (x >>= f).run.run types = (.ok b, types') ↔
      ∃ a types₁, x.run.run types = (.ok a, types₁) ∧ (f a).run.run types₁ = (.ok b, types') := by
  rw [run_bind]
  rcases x.run.run types with ⟨e | a, types₁⟩
  · exact ⟨fun h => (nomatch h), fun ⟨_, _, h, _⟩ => (nomatch h)⟩
  · refine ⟨fun h => ⟨a, types₁, rfl, h⟩, ?_⟩
    rintro ⟨_, _, h, hnext⟩
    cases h
    exact hnext

/-- A computation that cannot be refused gives its result. -/
theorem lift_eq_ok_iff {m : StateM TypeChain α} {a : α} :
    (liftM m : Building α).run.run types = (.ok a, types') ↔
      (m.run types).1 = a ∧ (m.run types).2 = types' := by
  have hrun : (liftM m : Building α).run.run types = (.ok (m.run types).1, (m.run types).2) := rfl
  rw [hrun, Prod.mk.injEq, Except.ok.injEq]

/-- A check does not touch the chain. -/
theorem mk_eq_ok_iff {r : Except QueryError α} {a : α} :
    (ExceptT.mk (pure r) : Building α).run.run types = (.ok a, types') ↔
      r = .ok a ∧ types = types' := by
  have hrun : (ExceptT.mk (pure r) : Building α).run.run types = (r, types) := rfl
  rw [hrun, Prod.mk.injEq]

/-- A result that is given at once does not touch the chain. -/
theorem pure_eq_ok_iff {a b : α} :
    (pure a : Building α).run.run types = (.ok b, types') ↔ a = b ∧ types = types' := by
  have hrun : (pure a : Building α).run.run types = (.ok a, types) := rfl
  rw [hrun, Prod.mk.injEq, Except.ok.injEq]

/-- A computation that cannot be refused hands on its result and the chain that it leaves. -/
theorem run_bind_lift (m : StateM TypeChain α) (f : α → Building β) :
    ((liftM m : Building α) >>= f).run.run types =
      (f (m.run types).1).run.run (m.run types).2 := rfl

/-- A check hands on its result, and a refusal is the end. -/
theorem run_bind_mk (r : Except QueryError α) (f : α → Building β) :
    ((ExceptT.mk (pure r) : Building α) >>= f).run.run types =
      match r with
      | .ok a => (f a).run.run types
      | .error e => (.error e, types) := by
  cases r <;> rfl

/-- A result that is given at once is invisible. -/
theorem invisible_pure (a : α) : Invisible (pure a : Building α).run :=
  .pure (Except.ok a)

/-- One step of building after another is invisible when both are. -/
theorem invisible_bind {x : Building α} {f : α → Building β} (hx : Invisible x.run)
    (hf : ∀ a, Invisible (f a).run) : Invisible (x >>= f).run := by
  rw [ExceptT.run_bind]
  refine hx.bind fun r => ?_
  cases r with
  | ok a => exact hf a
  | error e => exact .pure (Except.error e)

/-- A computation that cannot be refused is as invisible as it was. -/
theorem invisible_lift {m : StateM TypeChain α} (hm : Invisible m) :
    Invisible (liftM m : Building α).run := by
  have hrun : (liftM m : Building α).run = m >>= fun a => pure (.ok a) := rfl
  rw [hrun]
  exact hm.bind fun a => .pure (Except.ok a)

/-- A check is invisible. -/
theorem invisible_mk (r : Except QueryError α) : Invisible (ExceptT.mk (pure r) : Building α).run :=
  .pure r

/-- An invisible step of building for each element of a list is invisible. -/
theorem invisible_mapM {f : α → Building β} (hf : ∀ a, Invisible (f a).run) (xs : List α) :
    Invisible (xs.mapM f).run := by
  induction xs with
  | nil => exact .pure (Except.ok [])
  | cons x xs ih =>
    rw [List.mapM_cons]
    exact invisible_bind (hf x) fun _ => invisible_bind ih fun _ => invisible_pure _

/-- Two invisible steps of building in a row come to what they come to by the answers at the start. -/
theorem fst_bind {x : Building α} {f : α → Building β} (hx : Invisible x.run)
    (hf : ∀ a, Invisible (f a).run) :
    ((x >>= f).run.run types).1 = (x.run.run types).1 >>= fun a => ((f a).run.run types).1 := by
  have hagree := hx.agree types
  rw [run_bind]
  generalize x.run.run types = r at hagree
  rcases r with ⟨e | a, types₁⟩
  · rfl
  · -- the second step starts under the chain that the first one leaves
    exact ((hf a).result hagree).symm

/-- Invisible steps of building for the elements of a list come to what they come to by the answers at
the start. -/
theorem fst_mapM {f : α → Building β} (hf : ∀ a, Invisible (f a).run) (xs : List α) :
    ((xs.mapM f).run.run types).1 = xs.mapM fun x => ((f x).run.run types).1 := by
  induction xs with
  | nil => rfl
  | cons x xs ih =>
    rw [List.mapM_cons, List.mapM_cons, ← ih]
    have hrest := invisible_mapM hf xs
    rw [fst_bind (hf x) fun _ => invisible_bind hrest fun _ => invisible_pure _]
    congr 1
    funext y
    rw [fst_bind hrest fun _ => invisible_pure _]
    rfl

end Building

namespace Parameter

/-- There is one parameter for each value. -/
@[simp]
theorem length_number (dbType : Option DbType) (start : Nat) (vs : List Value) :
    (number dbType start vs).length = vs.length := by
  induction vs generalizing start with
  | nil => rfl
  | cons v vs ih => simp [number, ih]

/-- The parameters hold the values in order. -/
@[simp]
theorem map_value_number (dbType : Option DbType) (start : Nat) (vs : List Value) :
    (number dbType start vs).map (·.value) = vs := by
  induction vs generalizing start with
  | nil => rfl
  | cons v vs ih => simp [number, ih]

/-- All of the parameters are declared as the given type. -/
theorem dbType_of_mem_number {dbType : Option DbType} {start : Nat} {vs : List Value}
    {p : Parameter} (h : p ∈ number dbType start vs) : p.dbType = dbType := by
  induction vs generalizing start with
  | nil => simp [number] at h
  | cons v vs ih =>
    rcases List.mem_cons.1 h with rfl | h
    · rfl
    · exact ih h

end Parameter

/-- The positions of the parameters that a relation compares with. -/
def Relation.slots : Relation → List Nat
  | compare _ operand => [operand]
  | like _ pattern _ => [pattern]
  | isIn _ operands => operands
  | between _ low high => [low, high]
  | isNull _ => []

/-- The positions of the parameters that a test compares with. -/
def Test.slots (t : Test) : List Nat :=
  t.relation.slots

namespace Condition

/-- A condition is valid when nothing is wrong with its value. -/
theorem validate_eq_ok_iff (c : Condition) : c.validate = .ok () ↔ c.fault? = none := by
  unfold validate
  cases c.fault? <;> simp

/-- A valid range test carries two bounds. -/
theorem exists_bounds {c : Condition} (h : c.fault? = none)
    (hop : c.operator = .between ∨ c.operator = .notBetween) :
    ∃ low high, c.value = .list [low, high] := by
  unfold fault? at h
  -- nothing but a list passes the check
  rcases hop with hop | hop <;> rw [hop] at h <;> cases hv : c.value <;>
    simp only [hv, reduceCtorEq] at h
  all_goals
    rename_i items
    -- and no list of another length
    match items with
    | [low, high] => exact ⟨low, high, rfl⟩
    | [] | [_] | _ :: _ :: _ :: _ => simp at h

/-- A valid membership test carries a list. -/
theorem exists_items {c : Condition} (h : c.fault? = none)
    (hop : c.operator = .isIn ∨ c.operator = .notIn) : ∃ items, c.value = .list items := by
  unfold fault? at h
  rcases hop with hop | hop <;> rw [hop] at h <;> cases hv : c.value <;>
    simp only [hv, reduceCtorEq] at h <;> exact ⟨_, rfl⟩

/-- Refuse a condition that no statement can hold. -/
def check (c : Condition) : Except QueryError Unit := do
  c.validate
  if c.isEmptyMembership then
    throw (.emptyInClause c.field.name)

/-- Of a valid condition, nothing but an empty list is refused: a membership test carries a list, and
a range test two bounds. -/
theorem checkItems_of_valid {c : Condition} (h : c.fault? = none) :
    c.checkItems = if c.isEmptyMembership then .error (.emptyInClause c.field.name) else .ok () := by
  unfold checkItems
  cases hop : c.operator with
  | between | notBetween =>
    obtain ⟨low, high, hv⟩ := exists_bounds h (by simp [hop])
    rw [hv]
  | isIn | notIn =>
    obtain ⟨items, hv⟩ := exists_items h (by simp [hop])
    rw [hv]
  | _ => rfl

/-- Bind a condition whose column is known. -/
def bindTo (c : Condition) (column : Column) (start : Nat) :
    Except QueryError (Test × List Parameter) := do
  c.check
  return c.settle column start

/-- A condition is bound by the answers of the chain alone. -/
theorem invisible_bind (c : Condition) (s : Scope) (start : Nat) : Invisible (c.bind s start).run :=
  Building.invisible_bind (Building.invisible_mk _) fun _ =>
    Building.invisible_bind (Building.invisible_lift (s.invisible_column _ _)) fun _ =>
      Building.invisible_bind (Building.invisible_mk _) fun _ => Building.invisible_pure _

/-- A condition is bound to the column that it has at the start. -/
theorem bind_fst (c : Condition) (s : Scope) (start : Nat) (types : TypeChain) :
    ((c.bind s start).run.run types).1 = c.bindTo ((c.column s).run types).1 start := by
  unfold bind bindTo check
  rw [Building.run_bind_mk]
  cases hvalid : c.validate with
  | error e => rfl
  | ok u =>
    dsimp only
    rw [Building.run_bind_lift, Building.run_bind_mk,
      checkItems_of_valid ((validate_eq_ok_iff c).1 hvalid)]
    cases c.isEmptyMembership <;> rfl

/-- A condition is bound when its value suits the operator and it is no empty membership test. -/
theorem bindTo_eq_ok_iff (c : Condition) (column : Column) (start : Nat) (t : Test)
    (ps : List Parameter) :
    c.bindTo column start = .ok (t, ps) ↔
      c.fault? = none ∧ c.isEmptyMembership = false ∧
        t = { column := column.name, relation := c.relation start } ∧
        ps = Parameter.number column.dbType start c.operands := by
  rw [← validate_eq_ok_iff]
  unfold bindTo check
  cases c.validate with
  | error e => exact ⟨fun h => (nomatch h), fun ⟨h, _⟩ => (nomatch h)⟩
  | ok u =>
    cases c.isEmptyMembership with
    | true => exact ⟨fun h => (nomatch h), fun ⟨_, h, _⟩ => (nomatch h)⟩
    | false =>
      change Except.ok (c.settle column start) = .ok (t, ps) ↔ _
      simp [settle, eq_comm]

/-- A relation compares with the positions that its condition's operands take. -/
theorem slots_relation {c : Condition} (h : c.fault? = none) (start : Nat) :
    (c.relation start).slots = List.range' start c.operands.length := by
  cases hop : c.operator with
  | between | notBetween =>
    obtain ⟨low, high, hv⟩ := exists_bounds h (by simp [hop])
    simp [relation, operands, hop, hv, Relation.slots, List.range']
  | isIn | notIn =>
    obtain ⟨items, hv⟩ := exists_items h (by simp [hop])
    simp [relation, operands, hop, hv, Relation.slots]
  | isNull | isNotNull => simp [relation, operands, hop, Relation.slots]
  | equal | notEqual =>
    cases hv : c.value <;> simp [relation, operands, hop, hv, Value.isNull, Relation.slots]
  | _ => simp [relation, operands, hop, Relation.slots]

end Condition

/-- Located conditions, their tests, and their parameters at positions from `start` on: each
condition takes as many positions as it has operands. -/
inductive Settled : (start : Nat) → List (Condition × Column) → List Test → List Parameter → Prop
  | nil {start : Nat} : Settled start [] [] []
  | cons {start : Nat} {c : Condition} {column : Column} {rest : List (Condition × Column)}
      {tests : List Test} {ps : List Parameter} (valid : c.fault? = none)
      (nonempty : c.isEmptyMembership = false)
      (tail : Settled (start + c.operands.length) rest tests ps) :
      Settled start ((c, column) :: rest)
        ({ column := column.name, relation := c.relation start } :: tests)
        (Parameter.number column.dbType start c.operands ++ ps)

namespace Settled

/-- What is settled in two parts is settled as a whole. -/
theorem append {start : Nat} {cs cs' : List (Condition × Column)} {ts ts' : List Test}
    {ps ps' : List Parameter} (h : Settled start cs ts ps)
    (h' : Settled (start + ps.length) cs' ts' ps') :
    Settled start (cs ++ cs') (ts ++ ts') (ps ++ ps') := by
  -- each condition of the first part moves the start of the second by its operands
  induction h with
  | nil => simpa using h'
  | cons valid nonempty _ ih =>
    rw [List.append_assoc]
    refine .cons valid nonempty (ih ?_)
    simpa [Nat.add_assoc] using h'

/-- Each test is about the column of its condition, and its parameters are declared as the column's
type. -/
theorem forall₂ {start : Nat} {cs : List (Condition × Column)} {ts : List Test}
    {ps : List Parameter} (h : Settled start cs ts ps) :
    List.Forall₂ (fun t (c : Condition × Column) => t.column = c.2.name ∧
      ∀ i ∈ t.slots, start ≤ i ∧ (ps[i - start]?).map (·.dbType) = some c.2.dbType) ts cs := by
  induction h with
  | nil => exact .nil
  | @cons start c column rest tests ps valid nonempty tail ih =>
    refine .cons ⟨rfl, fun i hi => ?_⟩ (ih.imp ?_)
    · -- the positions of the first test lie within its condition's own parameters
      have hrange : start ≤ i ∧ i < start + c.operands.length := by
        simpa [Test.slots, Condition.slots_relation valid, List.mem_range'_1] using hi
      have hlt : i - start < (Parameter.number column.dbType start c.operands).length := by
        rw [Parameter.length_number]
        omega
      refine ⟨hrange.1, ?_⟩
      rw [List.getElem?_append_left hlt, List.getElem?_eq_getElem hlt, Option.map_some]
      exact congrArg some (Parameter.dbType_of_mem_number (List.getElem_mem hlt))
    · -- the later tests look behind the parameters of the first condition
      rintro t c' ⟨hcolumn, hslots⟩
      refine ⟨hcolumn, fun i hi => ?_⟩
      obtain ⟨hle, htype⟩ := hslots i hi
      refine ⟨by omega, ?_⟩
      rw [List.getElem?_append_right (by rw [Parameter.length_number]; omega),
        Parameter.length_number, Nat.sub_sub]
      exact htype

end Settled

namespace Node

mutual

/-- The tests of a tree with known columns, and the parameters that they bind at positions from `start`
on. -/
def bindFrom (start : Nat) :
    Node (Condition × Column) → Except QueryError (Node Test × List Parameter)
  | leaf (c, column) => do
    let (test, ps) ← c.bindTo column start
    return (leaf test, ps)
  | group conjunction negated children => do
    let (children, ps) ← bindAllFrom start children
    return (group conjunction negated children, ps)

/-- The tests of several trees with known columns, and the parameters that they bind one behind the
other. -/
def bindAllFrom (start : Nat) :
    List (Node (Condition × Column)) → Except QueryError (List (Node Test) × List Parameter)
  | [] => return ([], [])
  | child :: rest => do
    let (child, ps) ← bindFrom start child
    let (rest, qs) ← bindAllFrom (start + ps.length) rest
    return (child :: rest, ps ++ qs)

end

mutual

/-- A tree is bound by the answers of the chain alone. -/
theorem invisible_bind (s : Scope) :
    ∀ (start : Nat) (n : Node Condition), Invisible (bind s start n).run
  | start, leaf c => by
    rw [bind]
    exact Building.invisible_bind (c.invisible_bind s start) fun _ => Building.invisible_pure _
  | start, group _ _ children => by
    rw [bind]
    exact Building.invisible_bind (invisible_bindAll s start children) fun _ =>
      Building.invisible_pure _

/-- Several trees are bound by the answers of the chain alone. -/
theorem invisible_bindAll (s : Scope) :
    ∀ (start : Nat) (ns : List (Node Condition)), Invisible (bindAll s start ns).run
  | _, [] => by
    rw [bindAll]
    exact Building.invisible_pure _
  | start, child :: rest => by
    rw [bindAll]
    exact Building.invisible_bind (invisible_bind s start child) fun r =>
      Building.invisible_bind (invisible_bindAll s (start + r.2.length) rest) fun _ =>
        Building.invisible_pure _

end

mutual

/-- A tree is bound as it is when every condition has the column of the start. -/
theorem bind_fst (s : Scope) (types : TypeChain) : ∀ (start : Nat) (n : Node Condition),
    ((bind s start n).run.run types).1 = bindFrom start (n.map (located s types))
  | start, leaf c => by
    rw [bind, Node.map, located, bindFrom, ← c.bind_fst]
    exact Building.fst_bind (c.invisible_bind s start) fun _ => Building.invisible_pure _
  | start, group _ _ children => by
    rw [bind, Node.map, bindFrom, ← bindAll_fst s types start children]
    exact Building.fst_bind (invisible_bindAll s start children) fun _ => Building.invisible_pure _

/-- Several trees are bound as they are when every condition has the column of the start. -/
theorem bindAll_fst (s : Scope) (types : TypeChain) : ∀ (start : Nat) (ns : List (Node Condition)),
    ((bindAll s start ns).run.run types).1 = bindAllFrom start (mapAll (located s types) ns)
  | _, [] => by
    rw [bindAll, mapAll, bindAllFrom]
    rfl
  | start, child :: rest => by
    -- the rest starts behind the parameters that the first tree binds
    have hrest (start : Nat) := invisible_bindAll s start rest
    rw [bindAll, mapAll, bindAllFrom, ← bind_fst s types start child]
    refine (Building.fst_bind (invisible_bind s start child) fun r =>
      Building.invisible_bind (hrest (start + r.2.length)) fun _ => Building.invisible_pure _).trans ?_
    congr 1
    funext ⟨n, ps⟩
    dsimp only
    rw [← bindAll_fst s types (start + ps.length) rest]
    exact Building.fst_bind (hrest (start + ps.length)) fun _ => Building.invisible_pure _

end

/-- A leaf is bound when its condition is. -/
theorem bindFrom_leaf_eq_ok_iff {start : Nat} {c : Condition} {column : Column} {n : Node Test}
    {ps : List Parameter} :
    bindFrom start (leaf (c, column)) = .ok (n, ps) ↔
      ∃ t, c.bindTo column start = .ok (t, ps) ∧ n = leaf t := by
  rw [bindFrom, bind_eq_ok_iff]
  constructor
  · rintro ⟨⟨t, ps'⟩, hbind, hpure⟩
    obtain ⟨rfl, rfl⟩ : leaf t = n ∧ ps' = ps := by simpa [pure, Except.pure] using hpure
    exact ⟨t, hbind, rfl⟩
  · rintro ⟨t, hbind, rfl⟩
    exact ⟨(t, ps), hbind, rfl⟩

/-- A group is bound when its children are. -/
theorem bindFrom_group_eq_ok_iff {start : Nat} {conjunction : Conjunction} {negated : Bool}
    {children : List (Node (Condition × Column))} {n : Node Test} {ps : List Parameter} :
    bindFrom start (group conjunction negated children) = .ok (n, ps) ↔
      ∃ tests, bindAllFrom start children = .ok (tests, ps) ∧
        n = group conjunction negated tests := by
  rw [bindFrom, bind_eq_ok_iff]
  constructor
  · rintro ⟨⟨tests, ps'⟩, hbind, hpure⟩
    obtain ⟨rfl, rfl⟩ : group conjunction negated tests = n ∧ ps' = ps := by
      simpa [pure, Except.pure] using hpure
    exact ⟨tests, hbind, rfl⟩
  · rintro ⟨tests, hbind, rfl⟩
    exact ⟨(tests, ps), hbind, rfl⟩

/-- No trees are bound to no tests. -/
theorem bindAllFrom_nil_eq_ok_iff {start : Nat} {ns : List (Node Test)} {ps : List Parameter} :
    bindAllFrom start [] = .ok (ns, ps) ↔ ns = [] ∧ ps = [] := by
  rw [bindAllFrom]
  simp only [pure, Except.pure, Except.ok.injEq, Prod.mk.injEq]
  exact and_congr eq_comm eq_comm

/-- Several trees are bound one behind the other. -/
theorem bindAllFrom_cons_eq_ok_iff {start : Nat} {child : Node (Condition × Column)}
    {rest : List (Node (Condition × Column))} {ns : List (Node Test)} {ps : List Parameter} :
    bindAllFrom start (child :: rest) = .ok (ns, ps) ↔
      ∃ n qs ns' qs', bindFrom start child = .ok (n, qs) ∧
        bindAllFrom (start + qs.length) rest = .ok (ns', qs') ∧
        ns = n :: ns' ∧ ps = qs ++ qs' := by
  rw [bindAllFrom, bind_eq_ok_iff]
  constructor
  · rintro ⟨⟨n, qs⟩, hchild, hnext⟩
    obtain ⟨⟨ns', qs'⟩, hrest, hpure⟩ := bind_eq_ok_iff.1 hnext
    obtain ⟨rfl, rfl⟩ : n :: ns' = ns ∧ qs ++ qs' = ps := by
      simpa [pure, Except.pure] using hpure
    exact ⟨n, qs, ns', qs', hchild, hrest, rfl, rfl⟩
  · rintro ⟨n, qs, ns', qs', hchild, hrest, rfl, rfl⟩
    exact ⟨(n, qs), hchild, bind_eq_ok_iff.2 ⟨(ns', qs'), hrest, rfl⟩⟩

mutual

/-- Binding a tree settles its leaves in order. -/
theorem settled_bindFrom : ∀ {start : Nat} {n : Node (Condition × Column)} {t : Node Test}
    {ps : List Parameter}, bindFrom start n = .ok (t, ps) → Settled start n.leaves t.leaves ps
  | _, leaf (c, column), _, ps, h => by
    obtain ⟨test, hbind, rfl⟩ := bindFrom_leaf_eq_ok_iff.1 h
    obtain ⟨hvalid, hnonempty, rfl, rfl⟩ := (c.bindTo_eq_ok_iff _ _ _ _).1 hbind
    simpa [leaves] using Settled.cons hvalid hnonempty .nil
  | _, group _ _ children, _, ps, h => by
    obtain ⟨tests, hbind, rfl⟩ := bindFrom_group_eq_ok_iff.1 h
    simpa [leaves] using settled_bindAllFrom hbind

/-- Binding several trees settles their leaves in order. -/
theorem settled_bindAllFrom : ∀ {start : Nat} {ns : List (Node (Condition × Column))}
    {ts : List (Node Test)} {ps : List Parameter},
    bindAllFrom start ns = .ok (ts, ps) → Settled start (leavesOf ns) (leavesOf ts) ps
  | _, [], _, _, h => by
    obtain ⟨rfl, rfl⟩ := bindAllFrom_nil_eq_ok_iff.1 h
    exact .nil
  | _, child :: rest, _, _, h => by
    obtain ⟨n, qs, ns', qs', hchild, hrest, rfl, rfl⟩ := bindAllFrom_cons_eq_ok_iff.1 h
    exact (settled_bindFrom hchild).append (settled_bindAllFrom hrest)

end

end Node

namespace Group

variable (g : Group Condition) (s : Scope)

/-- The condition of a statement is bound by the answers of the chain alone. -/
theorem invisible_bind : Invisible (g.bind s).run :=
  Building.invisible_bind (Node.invisible_bindAll s 0 g.children) fun _ => Building.invisible_pure _

/-- The condition of a statement is bound as it is when every condition has the column of the start. -/
theorem bind_fst (types : TypeChain) :
    ((g.bind s).run.run types).1 =
      (Node.bindAllFrom 0 (Node.mapAll (Node.located s types) g.children)).map fun (children, ps) =>
        ({ conjunction := g.conjunction, negated := g.negated, children }, ps) := by
  rw [← Node.bindAll_fst]
  refine (Building.fst_bind (Node.invisible_bindAll s 0 g.children) fun _ =>
    Building.invisible_pure _).trans ?_
  cases ((Node.bindAll s 0 g.children).run.run types).1 <;> rfl

variable {g s}

/-- The condition of a statement is bound when its tree, with every condition located at the start,
is bound from position zero on. -/
theorem bind_eq_ok {types types' : TypeChain} {tests : Group Test} {ps : List Parameter}
    (h : (g.bind s).run.run types = (.ok (tests, ps), types')) :
    types.Agree types' ∧
      ∃ children, tests = { conjunction := g.conjunction, negated := g.negated, children } ∧
        Node.bindAllFrom 0 (Node.mapAll (Node.located s types) g.children) =
          .ok (children, ps) := by
  have hagree := (g.invisible_bind s).agree types
  have hbound := g.bind_fst s types
  rw [h] at hagree hbound
  obtain ⟨⟨children, ps'⟩, hchildren, hresult⟩ := map_eq_ok_iff.1 hbound.symm
  obtain ⟨rfl, rfl⟩ := Prod.mk.inj hresult
  exact ⟨hagree, children, rfl, hchildren⟩

end Group

end FilterSql
