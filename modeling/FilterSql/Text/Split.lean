/-!
# Splitting at a character

Cutting a text at the first or at the last occurrence of a character.
-/

namespace FilterSql.Text

/-- The characters in front of the first `sep` and those behind it. -/
def splitFirst (sep : Char) : List Char → Option (List Char × List Char)
  | [] => none
  | c :: cs =>
    if c = sep then some ([], cs) else (splitFirst sep cs).map fun (a, b) => (c :: a, b)

/-- The characters in front of the last `sep` and those behind it. -/
def splitLast (sep : Char) (cs : List Char) : Option (List Char × List Char) :=
  (splitFirst sep cs.reverse).map fun (a, b) => (b.reverse, a.reverse)

/-- The pieces of a text between the occurrences of `sep`; a text without one is a single piece. -/
def pieces (sep : Char) : List Char → List (List Char)
  | [] => [[]]
  | c :: cs =>
    if c = sep then [] :: pieces sep cs
    else
      match pieces sep cs with
      | piece :: rest => (c :: piece) :: rest
      | [] => [[c]]

/-- The two parts make up the text again, and the first holds no separator. -/
theorem splitFirst_eq_some {sep : Char} {cs a b : List Char}
    (h : splitFirst sep cs = some (a, b)) : cs = a ++ sep :: b ∧ sep ∉ a := by
  induction cs generalizing a b with
  | nil => simp [splitFirst] at h
  | cons c cs ih =>
    by_cases hc : c = sep
    · simp only [splitFirst, hc, if_true, Option.some.injEq, Prod.mk.injEq] at h
      obtain ⟨rfl, rfl⟩ := h
      simp [hc]
    · simp only [splitFirst, hc, if_false, Option.map_eq_some_iff, Prod.mk.injEq] at h
      obtain ⟨⟨a', b'⟩, h', rfl, rfl⟩ := h
      obtain ⟨rfl, hn⟩ := ih h'
      simp [hn, Ne.symm hc]

end FilterSql.Text
