import FilterSql.Condition.Group

/-!
# Three-valued logic

A condition on a row that holds nulls may be true, false or unknown. A condition tree combines the
truth of its leaves; a group to which no child contributes contributes nothing itself, except that
its negation is false.
-/

namespace FilterSql

/-- A truth value, where `none` stands for unknown. -/
abbrev Truth := Option Bool

namespace Truth

/-- Negation; unknown stays unknown. -/
def not (a : Truth) : Truth :=
  a.map Bool.not

/-- Conjunction: false as soon as one side is. -/
def and : Truth → Truth → Truth
  | some false, _ | _, some false => some false
  | some true, b => b
  | none, some true => none
  | none, none => none

/-- Disjunction: true as soon as one side is. -/
def or : Truth → Truth → Truth
  | some true, _ | _, some true => some true
  | some false, b => b
  | none, some false => none
  | none, none => none

/-- Whether a condition of this truth selects a row. -/
def holds (a : Truth) : Bool :=
  a == some true

/-- Negation exchanges conjunction and disjunction. -/
theorem not_and (a b : Truth) : (a.and b).not = a.not.or b.not := by
  rcases a with _ | _ | _ <;> rcases b with _ | _ | _ <;> rfl

/-- Negating twice changes nothing. -/
@[simp]
theorem not_not (a : Truth) : a.not.not = a := by
  rcases a with _ | _ | _ <;> rfl

end Truth

/-- The truth of several parts joined by a conjunction. -/
def Conjunction.join (conjunction : Conjunction) (parts : List Truth) : Truth :=
  match conjunction with
  | .and => parts.foldr Truth.and (some true)
  | .or => parts.foldr Truth.or (some false)

/-- The truth of a group with the given contributing parts. -/
def Conjunction.combine (conjunction : Conjunction) (negated : Bool) (parts : List Truth) :
    Option Truth :=
  if parts.isEmpty then if negated then some (some false) else none
  else
    let joined := conjunction.join parts
    some (if negated then joined.not else joined)

namespace Node

variable {α : Type}

mutual

/-- What a tree contributes, given the truth of its leaves. -/
def truth? (leafTruth : α → Truth) : Node α → Option Truth
  | leaf a => some (leafTruth a)
  | group conjunction negated children =>
    conjunction.combine negated (truthsOf leafTruth children)

/-- What several trees contribute, in order. -/
def truthsOf (leafTruth : α → Truth) : List (Node α) → List Truth
  | [] => []
  | child :: rest =>
    match truth? leafTruth child with
    | some t => t :: truthsOf leafTruth rest
    | none => truthsOf leafTruth rest

end

end Node

/-- What a whole tree contributes; nothing restricts nothing. -/
def Group.truth? {α : Type} (g : Group α) (leafTruth : α → Truth) : Option Truth :=
  g.toNode.truth? leafTruth

end FilterSql
