import FilterSql.Filter.Normalize
import FilterSql.Proofs.Binding

/-!
# What predicates are compiled to

Compiling a predicate goes form by form. The forms and their trees are listed here once, and what is
proved about compiled predicates goes by this list. Joining two trees keeps their conditions in order,
and negating a tree twice gives it back.

## Main definitions

* `Predicate.Compiled`: the trees that predicates are compiled to, form by form.

## Main results

* `Predicate.compileNode_eq_ok_iff`: when a predicate is compiled, and to what;
* `Predicate.leavesOf_spliced`: what a tree adds to a group has the conditions of the tree;
* `Predicate.negateNode_negateNode`: a double negation changes nothing.
-/

namespace FilterSql

/-- Negating a condition twice gives it back. -/
theorem Condition.negated_negated (c : Condition) : c.negated.negated = c := by
  simp [Condition.negated]

namespace Node

variable {α : Type}

/-- The leaves of several trees are those of their parts. -/
theorem leavesOf_append (ns ns' : List (Node α)) :
    leavesOf (ns ++ ns') = leavesOf ns ++ leavesOf ns' := by
  induction ns with
  | nil => rfl
  | cons n ns ih => simp [leavesOf, ih]

end Node

namespace Predicate

variable {e : Entity} {fieldCase : FieldCase}

/-- A property is found when some property has the name or, failing that, the column. -/
theorem requireProperty_eq_ok_iff {name : String} {p : Property} :
    requireProperty e fieldCase name = .ok p ↔ e.property? fieldCase name = some p := by
  unfold requireProperty
  cases e.property? fieldCase name <;> simp [reject]

/-- The column of a name is that of the property that the name refers to. -/
theorem column_eq_ok_iff {name : String} {field : Field} :
    column e fieldCase name = .ok field ↔
      ∃ p, e.property? fieldCase name = some p ∧ p.field = field := by
  simp only [← requireProperty_eq_ok_iff]
  exact map_eq_ok_iff

/-- The column of a property is the one that its name stands for. -/
theorem name_of_column_eq_ok {name : String} {field : Field}
    (h : column e fieldCase name = .ok field) : field.name = e.columnOf fieldCase name := by
  obtain ⟨p, hp, rfl⟩ := column_eq_ok_iff.1 h
  simp [Entity.columnOf, hp, Property.field]

/-- What a tree adds to a group has the leaves of the tree. -/
theorem leavesOf_spliced (conjunction : Conjunction) (n : Node Condition) :
    Node.leavesOf (spliced conjunction n) = n.leaves := by
  unfold spliced
  split
  · split <;> simp [Node.leaves, Node.leavesOf]
  · simp [Node.leavesOf]

/-- Negating a tree twice gives it back. -/
theorem negateNode_negateNode (n : Node Condition) : negateNode (negateNode n) = n := by
  cases n with
  | leaf c => rw [negateNode, negateNode, c.negated_negated]
  | group conjunction negated children => rw [negateNode, negateNode, Bool.not_not]

/-- The trees that predicates are compiled to, form by form. -/
inductive Compiled (e : Entity) (fieldCase : FieldCase) : Predicate → Node Condition → Prop
  | and {left right : Predicate} {l r : Node Condition} (hleft : Compiled e fieldCase left l)
      (hright : Compiled e fieldCase right r) :
      Compiled e fieldCase (.and left right) (.group .and false (spliced .and l ++ spliced .and r))
  | or {left right : Predicate} {l r : Node Condition} (hleft : Compiled e fieldCase left l)
      (hright : Compiled e fieldCase right r) :
      Compiled e fieldCase (.or left right) (.group .or false (spliced .or l ++ spliced .or r))
  | not {inner : Predicate} {n : Node Condition} (hinner : Compiled e fieldCase inner n) :
      Compiled e fieldCase (.not inner) (negateNode n)
  | compare {name : String} {op : Comparison} {v : Value} {c : Condition}
      (hc : comparison e fieldCase name op v = .ok c) :
      Compiled e fieldCase (.compare (.property name) op (.constant v)) (.leaf c)
  | flipped {name : String} {op : Comparison} {v : Value} {c : Condition}
      (hc : comparison e fieldCase name op.flip v = .ok c) :
      Compiled e fieldCase (.compare (.constant v) op (.property name)) (.leaf c)
  | flag {name : String} {p : Property} (hp : e.property? fieldCase name = some p)
      (hbool : p.kind = .bool) :
      Compiled e fieldCase (.property name) (.leaf (.eq p.field (.bool true)))
  | call {method : String} {target : Predicate} {arguments : List Predicate} {c : Condition}
      (hc : callCondition e fieldCase method target arguments = .ok c) :
      Compiled e fieldCase (.call method target arguments) (.leaf c)

/-- A predicate is compiled by the form that it has, and refused if it has none of them. -/
theorem compileNode_eq_ok_iff {p : Predicate} {n : Node Condition} :
    p.compileNode e fieldCase = .ok n ↔ Compiled e fieldCase p n := by
  constructor
  · intro h
    induction p using compileNode.induct generalizing n with
    | case1 left right ihleft ihright =>
      rw [compileNode] at h
      obtain ⟨l, hl, h⟩ := bind_eq_ok_iff.1 h
      obtain ⟨r, hr, h⟩ := bind_eq_ok_iff.1 h
      obtain rfl := Except.ok.inj h
      exact .and (ihleft hl) (ihright hr)
    | case2 left right ihleft ihright =>
      rw [compileNode] at h
      obtain ⟨l, hl, h⟩ := bind_eq_ok_iff.1 h
      obtain ⟨r, hr, h⟩ := bind_eq_ok_iff.1 h
      obtain rfl := Except.ok.inj h
      exact .or (ihleft hl) (ihright hr)
    | case3 inner ih =>
      rw [compileNode] at h
      obtain ⟨m, hm, h⟩ := bind_eq_ok_iff.1 h
      obtain rfl := Except.ok.inj h
      exact .not (ih hm)
    | case4 name op v =>
      rw [compileNode] at h
      obtain ⟨c, hc, rfl⟩ := map_eq_ok_iff.1 h
      exact .compare hc
    | case5 v op name =>
      rw [compileNode] at h
      obtain ⟨c, hc, rfl⟩ := map_eq_ok_iff.1 h
      exact .flipped hc
    | case6 | case7 | case9 =>
      simp_all [compileNode, reject]
    | case8 name =>
      rw [compileNode] at h
      obtain ⟨p, hp, h⟩ := bind_eq_ok_iff.1 h
      split at h
      · obtain rfl := Except.ok.inj h
        exact .flag (requireProperty_eq_ok_iff.1 hp) ‹_›
      · cases h
    | case10 method target arguments =>
      rw [compileNode] at h
      obtain ⟨c, hc, rfl⟩ := map_eq_ok_iff.1 h
      exact .call hc
  · intro h
    induction h with
    | and _ _ ihleft ihright | or _ _ ihleft ihright =>
      rw [compileNode, ihleft, ihright]
      rfl
    | not _ ih =>
      rw [compileNode, ih]
      rfl
    | compare hc | flipped hc | call hc =>
      rw [compileNode, hc]
      rfl
    | flag hp hbool =>
      rw [compileNode, requireProperty_eq_ok_iff.2 hp]
      exact if_pos hbool

end Predicate

end FilterSql
