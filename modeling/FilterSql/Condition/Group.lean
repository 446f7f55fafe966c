import FilterSql.Condition

/-!
# Condition trees

Conditions are combined into trees of conjunctions and disjunctions, each of which may be negated.
The tree is generic in its leaves: the leaves of a filter are conditions, those of a statement are
tests whose columns and parameters are settled.
-/

namespace FilterSql

/-- How the children of a group are combined. -/
inductive Conjunction where
  | and
  | or
deriving DecidableEq, Repr

/-- The name of a conjunction in serialized groups. -/
def Conjunction.name : Conjunction → String
  | .and => "and"
  | .or => "or"

/-- A tree of combined leaves. -/
inductive Node (α : Type) where
  | leaf (a : α)
  | group (conjunction : Conjunction) (negated : Bool) (children : List (Node α))

/-- A combination of conditions and nested groups, the root of a tree. -/
structure Group (α : Type) where
  /-- How the children are combined. -/
  conjunction : Conjunction := .and
  /-- The parts of the group, in order. -/
  children : List (Node α) := []
  /-- Whether the whole group is negated. -/
  negated : Bool := false

namespace Node

variable {α : Type}

mutual

/-- The leaves of a tree, depth first and left to right. -/
def leaves : Node α → List α
  | leaf a => [a]
  | group _ _ children => leavesOf children

/-- The leaves of several trees in order. -/
def leavesOf : List (Node α) → List α
  | [] => []
  | child :: rest => leaves child ++ leavesOf rest

end

end Node

namespace Group

variable {α : Type}

/-- A group as a child of another one. -/
def toNode (g : Group α) : Node α :=
  .group g.conjunction g.negated g.children

/-- The conjunction of some leaves. -/
def all (leaves : List α) : Group α :=
  { children := leaves.map .leaf }

/-- The group with one more child at the end. -/
def push (g : Group α) (child : Node α) : Group α :=
  { g with children := g.children ++ [child] }

/-- The group with its negation toggled. -/
def negate (g : Group α) : Group α :=
  { g with negated := !g.negated }

/-- Whether the group has no children. -/
def isEmpty (g : Group α) : Bool :=
  g.children.isEmpty

/-- The leaves, depth first and left to right. -/
def leaves (g : Group α) : List α :=
  Node.leavesOf g.children

/-- Toggling the negation twice gives the group back. -/
@[simp]
theorem negate_negate (g : Group α) : g.negate.negate = g := by
  simp [negate]

/-- A group and its node have the same leaves. -/
@[simp]
theorem leaves_toNode (g : Group α) : g.toNode.leaves = g.leaves := by
  simp [toNode, leaves, Node.leaves]

end Group

end FilterSql
