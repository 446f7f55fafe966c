import FilterSql.Truth

/-!
# Laws of three-valued logic

Conjunction and disjunction of three truth values are associative and have units, so the parts of a
group may be joined one by one, in two halves, or as one part among others.

## Main results

* `Conjunction.join_append`: the truth of a joined list is that of its two halves, joined;
* `Conjunction.join_singleton`: a single part is joined to itself;
* `Node.truthsOf_append`: several trees contribute what their parts contribute.
-/

namespace FilterSql

namespace Truth

/-- True is the right unit of conjunction. -/
@[simp]
theorem and_true (a : Truth) : a.and (some true) = a := by
  rcases a with _ | _ | _ <;> rfl

/-- True is the left unit of conjunction. -/
@[simp]
theorem true_and (a : Truth) : Truth.and (some true) a = a := by
  rcases a with _ | _ | _ <;> rfl

/-- Conjunctions may be bracketed either way. -/
theorem and_assoc (a b c : Truth) : (a.and b).and c = a.and (b.and c) := by
  rcases a with _ | _ | _ <;> rcases b with _ | _ | _ <;> rcases c with _ | _ | _ <;> rfl

/-- False is the right unit of disjunction. -/
@[simp]
theorem or_false (a : Truth) : a.or (some false) = a := by
  rcases a with _ | _ | _ <;> rfl

/-- False is the left unit of disjunction. -/
@[simp]
theorem false_or (a : Truth) : Truth.or (some false) a = a := by
  rcases a with _ | _ | _ <;> rfl

/-- Disjunctions may be bracketed either way. -/
theorem or_assoc (a b c : Truth) : (a.or b).or c = a.or (b.or c) := by
  rcases a with _ | _ | _ <;> rcases b with _ | _ | _ <;> rcases c with _ | _ | _ <;> rfl

end Truth

namespace Conjunction

/-- The truth of two parts joined by a conjunction. -/
def pair : Conjunction → Truth → Truth → Truth
  | and => Truth.and
  | or => Truth.or

/-- The first of several parts is joined with the rest. -/
theorem join_cons (conjunction : Conjunction) (a : Truth) (parts : List Truth) :
    conjunction.join (a :: parts) = conjunction.pair a (conjunction.join parts) := by
  cases conjunction <;> rfl

/-- A single part is joined to itself. -/
@[simp]
theorem join_singleton (conjunction : Conjunction) (a : Truth) : conjunction.join [a] = a := by
  cases conjunction <;> simp [join]

/-- The truth of a joined list is that of its two halves, joined. -/
theorem join_append (conjunction : Conjunction) (parts parts' : List Truth) :
    conjunction.join (parts ++ parts') =
      conjunction.pair (conjunction.join parts) (conjunction.join parts') := by
  induction parts with
  | nil => cases conjunction <;> simp [join, pair]
  | cons a parts ih =>
    rw [List.cons_append, join_cons, join_cons, ih]
    cases conjunction
    · exact (Truth.and_assoc _ _ _).symm
    · exact (Truth.or_assoc _ _ _).symm

/-- A group with some contributing part has their joined truth, negated if it is. -/
theorem combine_of_ne_nil (conjunction : Conjunction) (negated : Bool) {parts : List Truth}
    (h : parts ≠ []) :
    conjunction.combine negated parts =
      some (if negated then (conjunction.join parts).not else conjunction.join parts) := by
  simp [combine, h]

end Conjunction

namespace Node

variable {α : Type} (leafTruth : α → Truth)

/-- The truths of several trees are those that the trees contribute. -/
theorem truthsOf_cons (child : Node α) (rest : List (Node α)) :
    truthsOf leafTruth (child :: rest) =
      (child.truth? leafTruth).toList ++ truthsOf leafTruth rest := by
  rw [truthsOf]
  cases child.truth? leafTruth <;> rfl

/-- Several trees contribute what their parts contribute. -/
theorem truthsOf_append (ns ns' : List (Node α)) :
    truthsOf leafTruth (ns ++ ns') = truthsOf leafTruth ns ++ truthsOf leafTruth ns' := by
  induction ns with
  | nil => rfl
  | cons child rest ih => rw [List.cons_append, truthsOf_cons, truthsOf_cons, ih, List.append_assoc]

end Node

end FilterSql
