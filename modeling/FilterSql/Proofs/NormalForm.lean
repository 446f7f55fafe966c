import FilterSql.Proofs.Compiling

/-!
# The normal form of compiled predicates

Two predicates that differ only in double negations, or in how a chain of one connective is put between
parentheses, compile to the same tree or fail alike: a chain becomes one flat group with its parts from
left to right. The trees are in a normal form: a group never holds a group that says the same without
the parentheses, neither one of its own connective nor one of a single part.

## Main definitions

* `Predicate.joined`: two predicates joined by a connective;
* `Predicate.Chain`: a chain of one connective, put between parentheses in some way;
* `Node.IsNormal` and `Group.IsNormal`: trees in which every group is needed.

## Main results

* `Predicate.Chain.compile_eq`: what a chain compiles to;
* `Predicate.isNormal_compileNode`: what a predicate compiles to is in normal form;
* `Predicate.compile_canonical`: the laws of compiling.
-/

namespace FilterSql

/-! ### Normal forms -/

namespace Node

variable {α : Type}

/-- As a child of a group of the connective, a tree adds nothing but parentheses: it is a group of the
same connective that is not negated. -/
def Dissolves (conjunction : Conjunction) (n : Node α) : Prop :=
  ∃ children, n = group conjunction false children

/-- Every group in a tree is needed: it has several children, and none of them dissolves in it. -/
inductive IsNormal : Node α → Prop
  | leaf (a : α) : IsNormal (leaf a)
  | group {conjunction : Conjunction} {negated : Bool} {children : List (Node α)}
    (several : 2 ≤ children.length) (apart : ∀ child ∈ children, ¬ child.Dissolves conjunction)
    (normal : ∀ child ∈ children, child.IsNormal) : IsNormal (group conjunction negated children)

end Node

/-- Every group below the root is needed, and no child of the root dissolves in it. -/
structure Group.IsNormal {α : Type} (g : Group α) : Prop where
  /-- No child dissolves in the root. -/
  apart : ∀ child ∈ g.children, ¬ child.Dissolves g.conjunction
  /-- The children are in normal form. -/
  normal : ∀ child ∈ g.children, child.IsNormal

namespace Predicate

/-- Two predicates joined by a connective. -/
def joined : Conjunction → Predicate → Predicate → Predicate
  | .and => and
  | .or => or

/-- A chain of one connective over some predicates, put between parentheses in some way. -/
inductive Chain (conjunction : Conjunction) : List Predicate → Predicate → Prop
  | single (p : Predicate) : Chain conjunction [p] p
  | joined {ps qs : List Predicate} {p q : Predicate} (left : Chain conjunction ps p)
    (right : Chain conjunction qs q) : Chain conjunction (ps ++ qs) (joined conjunction p q)

variable {e : Entity} {fieldCase : FieldCase}

/-! ### Negations -/

/-- A double negation is compiled as what stands under it. -/
theorem compileNode_not_not (p : Predicate) :
    (not (not p)).compileNode e fieldCase = p.compileNode e fieldCase := by
  simp only [compileNode]
  cases p.compileNode e fieldCase with
  | error err => rfl
  | ok n => exact congrArg Except.ok (negateNode_negateNode n)

/-! ### Chains -/

/-- A group adds its children to a group of the same connective. -/
theorem spliced_group (conjunction : Conjunction) (children : List (Node Condition)) :
    spliced conjunction (.group conjunction false children) = children :=
  if_pos rfl

/-- Joined predicates are compiled from left to right into one group. -/
theorem compileNode_joined (conjunction : Conjunction) (p q : Predicate) :
    (joined conjunction p q).compileNode e fieldCase = (do
      let l ← p.compileNode e fieldCase
      let r ← q.compileNode e fieldCase
      return .group conjunction false (spliced conjunction l ++ spliced conjunction r)) := by
  cases conjunction <;> rw [joined, compileNode]

/-- What joined predicates add to a group of the connective is what the two add, one behind the
other. -/
theorem spliced_compileNode_joined (conjunction : Conjunction) (p q : Predicate) :
    ((joined conjunction p q).compileNode e fieldCase).map (spliced conjunction) = (do
      let l ← (p.compileNode e fieldCase).map (spliced conjunction)
      let r ← (q.compileNode e fieldCase).map (spliced conjunction)
      return l ++ r) := by
  rw [compileNode_joined]
  cases p.compileNode e fieldCase with
  | error err => rfl
  | ok l =>
    cases q.compileNode e fieldCase with
    | error err => rfl
    | ok r => exact congrArg Except.ok (spliced_group conjunction _)

/-- Joined predicates compile to the group of what they add to a group of the connective. -/
theorem compileNode_joined_eq_map (conjunction : Conjunction) (p q : Predicate) :
    (joined conjunction p q).compileNode e fieldCase =
      (((joined conjunction p q).compileNode e fieldCase).map (spliced conjunction)).map
        (.group conjunction false) := by
  rw [spliced_compileNode_joined, compileNode_joined]
  cases p.compileNode e fieldCase with
  | error err => rfl
  | ok l => cases q.compileNode e fieldCase <;> rfl

/-- How joined predicates are put between parentheses makes no difference. -/
theorem compileNode_joined_assoc (conjunction : Conjunction) (p q r : Predicate) :
    (joined conjunction (joined conjunction p q) r).compileNode e fieldCase =
      (joined conjunction p (joined conjunction q r)).compileNode e fieldCase := by
  -- what the parts add to a group is appended, and appending is associative
  rw [compileNode_joined_eq_map, compileNode_joined_eq_map conjunction p]
  simp only [spliced_compileNode_joined, bind_assoc, pure_bind, List.append_assoc]

namespace Chain

variable {conjunction : Conjunction} {ps : List Predicate} {p : Predicate}

/-- A chain has parts. -/
theorem length_pos (h : Chain conjunction ps p) : 0 < ps.length := by
  induction h with
  | single p => exact Nat.one_pos
  | joined _ _ ihleft _ =>
    rw [List.length_append]
    omega

/-- A chain adds to a group of its connective what its parts add, from left to right. -/
theorem spliced_compileNode (h : Chain conjunction ps p) :
    (p.compileNode e fieldCase).map (spliced conjunction) =
      (ps.mapM (compileNode e fieldCase)).map (·.flatMap (spliced conjunction)) := by
  induction h with
  | single p =>
    rw [List.mapM_cons, List.mapM_nil]
    cases p.compileNode e fieldCase with
    | error err => rfl
    | ok n => exact congrArg Except.ok (by simp)
  | @joined ps qs p q _ _ ihleft ihright =>
    rw [spliced_compileNode_joined, ihleft, ihright, List.mapM_append]
    cases ps.mapM (compileNode e fieldCase) with
    | error err => rfl
    | ok ns =>
      cases qs.mapM (compileNode e fieldCase) with
      | error err => rfl
      | ok ns' => exact congrArg Except.ok List.flatMap_append.symm

/-- A chain of several parts is compiled to one group of what its parts add, from left to right. -/
theorem compile_eq (h : Chain conjunction ps p) (hseveral : 2 ≤ ps.length) :
    p.compile e fieldCase =
      (ps.mapM (compileNode e fieldCase)).map fun ns =>
        { conjunction, children := ns.flatMap (spliced conjunction) } := by
  have hparts : (p.compileNode e fieldCase).map (spliced conjunction) = _ := h.spliced_compileNode
  cases h with
  | single p => simp at hseveral
  | joined left right =>
    rw [compile, compileNode_joined_eq_map, hparts]
    cases List.mapM (compileNode e fieldCase) _ <;> rfl

/-- A chain of conditions is compiled to one group of these, from left to right. The group of a single
condition is a conjunction. -/
theorem compile_of_conditions (h : Chain conjunction ps p) {cs : List Condition}
    (hconditions : ps.mapM (compileNode e fieldCase) = .ok (cs.map .leaf)) :
    p.compile e fieldCase =
      .ok { conjunction := if ps.length = 1 then .and else conjunction, children := cs.map .leaf } := by
  have hflat : (cs.map Node.leaf).flatMap (spliced conjunction) = cs.map .leaf := by
    rw [List.flatMap_map]
    exact List.flatMap_pure_eq_map _ _
  by_cases hseveral : 2 ≤ ps.length
  · rw [h.compile_eq hseveral, hconditions, Except.map, hflat, if_neg (by omega)]
  · cases h with
    | single p =>
      rw [List.mapM_cons, List.mapM_nil] at hconditions
      obtain ⟨n, hn, hleaf⟩ := bind_eq_ok_iff.1 hconditions
      obtain ⟨c, rfl, rfl⟩ := List.map_eq_singleton_iff.1 (Except.ok.inj hleaf).symm
      rw [compile, hn]
      rfl
    | joined left right =>
      have hl := left.length_pos
      have hr := right.length_pos
      rw [List.length_append] at hseveral
      omega

end Chain

/-! ### Normal forms -/

/-- What a tree in normal form adds to a group is something, does not dissolve in the group, and is in
normal form. -/
theorem isNormal_spliced {n : Node Condition} (h : n.IsNormal) (conjunction : Conjunction) :
    1 ≤ (spliced conjunction n).length ∧
      ∀ child ∈ spliced conjunction n, ¬ child.Dissolves conjunction ∧ child.IsNormal := by
  -- a tree that does not dissolve in the group is added as it is
  have hself (hother : ¬ n.Dissolves conjunction) :
      1 ≤ [n].length ∧ ∀ child ∈ [n], ¬ child.Dissolves conjunction ∧ child.IsNormal := by
    simpa using ⟨hother, h⟩
  unfold spliced
  split
  next inner children =>
    split
    · next hsame =>
      subst hsame
      cases h with
      | group several apart normal =>
        exact ⟨by omega, fun child hchild => ⟨apart child hchild, normal child hchild⟩⟩
    · next hother =>
      refine hself ?_
      rintro ⟨_, hgroup⟩
      exact hother (Node.group.inj hgroup).1
  next hplain =>
    refine hself ?_
    rintro ⟨children, rfl⟩
    exact hplain conjunction children rfl

/-- The group of two joined trees in normal form is in normal form. -/
theorem isNormal_junction {l r : Node Condition} (hl : l.IsNormal) (hr : r.IsNormal)
    (conjunction : Conjunction) :
    (Node.group conjunction false (spliced conjunction l ++ spliced conjunction r)).IsNormal := by
  obtain ⟨hleft, hlparts⟩ := isNormal_spliced hl conjunction
  obtain ⟨hright, hrparts⟩ := isNormal_spliced hr conjunction
  have hparts : ∀ child ∈ spliced conjunction l ++ spliced conjunction r,
      ¬ child.Dissolves conjunction ∧ child.IsNormal :=
    List.forall_mem_append.2 ⟨hlparts, hrparts⟩
  refine .group ?_ (fun child hchild => (hparts child hchild).1)
    fun child hchild => (hparts child hchild).2
  rw [List.length_append]
  omega

/-- Negating a tree keeps its normal form, since it does not change the children of a group. -/
theorem isNormal_negateNode {n : Node Condition} (h : n.IsNormal) : (negateNode n).IsNormal := by
  cases h with
  | leaf c => exact .leaf _
  | group several apart normal => exact .group several apart normal

/-- What a predicate compiles to is in normal form. -/
theorem isNormal_compileNode {p : Predicate} {n : Node Condition}
    (h : p.compileNode e fieldCase = .ok n) : n.IsNormal := by
  rw [compileNode_eq_ok_iff] at h
  induction h with
  | and _ _ ihleft ihright | or _ _ ihleft ihright => exact isNormal_junction ihleft ihright _
  | not _ ih => exact isNormal_negateNode ih
  | compare | flipped | flag | call => exact .leaf _

/-- The group that a predicate compiles to is in normal form. -/
theorem isNormal_compile {p : Predicate} {g : Group Condition}
    (h : p.compile e fieldCase = .ok g) : g.IsNormal := by
  unfold compile at h
  obtain ⟨n, hn, rfl⟩ := map_eq_ok_iff.1 h
  cases isNormal_compileNode hn with
  | leaf c =>
    -- a single condition becomes a group of its own
    constructor
    · intro child hchild
      obtain rfl : child = .leaf c := by simpa [Group.all] using hchild
      rintro ⟨_, hgroup⟩
      cases hgroup
    · intro child hchild
      obtain rfl : child = .leaf c := by simpa [Group.all] using hchild
      exact .leaf c
  | group several apart normal => exact ⟨apart, normal⟩

/-- Double negations and the parentheses in a chain of one connective make no difference to what a
predicate compiles to, or to how it fails. A chain of several parts becomes one group with its parts from
left to right, and what a predicate compiles to is in normal form. -/
theorem compile_canonical (e : Entity) (fieldCase : FieldCase) :
    (∀ p : Predicate, (not (not p)).compile e fieldCase = p.compile e fieldCase) ∧
      (∀ (conjunction : Conjunction) (p q r : Predicate),
        (joined conjunction (joined conjunction p q) r).compile e fieldCase =
          (joined conjunction p (joined conjunction q r)).compile e fieldCase) ∧
      (∀ (conjunction : Conjunction) (ps : List Predicate) (p : Predicate), Chain conjunction ps p →
        (2 ≤ ps.length → p.compile e fieldCase =
          (ps.mapM (compileNode e fieldCase)).map fun ns =>
            { conjunction, children := ns.flatMap (spliced conjunction) }) ∧
        ∀ cs : List Condition, ps.mapM (compileNode e fieldCase) = .ok (cs.map .leaf) →
          p.compile e fieldCase = .ok
            { conjunction := if ps.length = 1 then .and else conjunction
              children := cs.map .leaf }) ∧
      ∀ (p : Predicate) (g : Group Condition), p.compile e fieldCase = .ok g → g.IsNormal := by
  refine ⟨fun p => ?_, fun conjunction p q r => ?_, fun conjunction ps p h => ?_,
    fun p g => isNormal_compile⟩
  · rw [compile, compileNode_not_not, compile]
  · rw [compile, compileNode_joined_assoc, compile]
  · exact ⟨h.compile_eq, fun cs => h.compile_of_conditions⟩

/-- Four conditions in pairs, one pair under a double negation, make one group of four, in which the
negated disjunction of two conditions stays a group. -/
theorem compile_canonical_pairs :
    let e : Entity :=
      { name := "Person", table := { name := "person" }
        properties := [{ name := "Age", kind := .int }, { name := "Active", kind := .bool }] }
    let above (n : Int64) : Predicate := .compare (.property "Age") .gt (.constant (.int n))
    let aged (n : Int64) : Condition :=
      { field := { name := "Age", kind := some .int }, operator := .greaterThan, value := .int n }
    let paired : Predicate := .not (.not (.or (.or (above 1) (above 2)) (.or (above 3) (above 4))))
    let nested : Predicate :=
      .and (.not (.or (.property "Active") (above 1))) (.not (.not (.and (above 2) (above 3))))
    paired.compile e .exact =
        .ok { conjunction := .or, children := [1, 2, 3, 4].map fun n => .leaf (aged n) } ∧
      ∃ g, nested.compile e .exact = .ok g ∧ g.children.length = 3 ∧ g.IsNormal := by
  intro e above aged paired nested
  obtain ⟨hnegation, -, hchain, hnormal⟩ := compile_canonical e .exact
  have hnested : nested.compile e .exact = .ok _ := rfl
  refine ⟨?_, _, hnested, rfl, hnormal nested _ hnested⟩
  rw [hnegation]
  exact (hchain .or ([above 1, above 2] ++ [above 3, above 4]) _
    (.joined (.joined (.single _) (.single _)) (.joined (.single _) (.single _)))).2
    ([1, 2, 3, 4].map aged) rfl

end Predicate

end FilterSql
