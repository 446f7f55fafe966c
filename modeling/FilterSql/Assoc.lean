/-!
# Finite maps

Finite maps as lists of pairs. Only the first pair of a key counts; inserting removes the earlier
pairs of its key, so that the pairs of a map built by insertions have distinct keys.
-/

namespace FilterSql

/-- A finite map from `κ` to `β`. -/
abbrev Assoc (κ β : Type) := List (κ × β)

namespace Assoc

variable {κ β : Type} [DecidableEq κ]

/-- The value of a key. -/
def get? : Assoc κ β → κ → Option β
  | [], _ => none
  | (k', v) :: m, k => if k' = k then some v else get? m k

/-- The map without a key. -/
def erase : Assoc κ β → κ → Assoc κ β
  | [], _ => []
  | (k', v) :: m, k => if k' = k then erase m k else (k', v) :: erase m k

/-- The map with the value of a key replaced or added. -/
def insert (m : Assoc κ β) (k : κ) (v : β) : Assoc κ β :=
  (k, v) :: m.erase k

@[simp]
theorem get?_nil (k : κ) : get? ([] : Assoc κ β) k = none := rfl

/-- An erased key has no value, and the other keys keep theirs. -/
theorem get?_erase (m : Assoc κ β) (k k' : κ) :
    (m.erase k).get? k' = if k' = k then none else m.get? k' := by
  induction m with
  | nil => simp [erase]
  | cons p m ih =>
    obtain ⟨a, b⟩ := p
    by_cases ha : a = k <;> by_cases hk : a = k' <;> simp_all [erase, get?]

/-- An inserted key has its new value, and the other keys keep theirs. -/
theorem get?_insert (m : Assoc κ β) (k k' : κ) (v : β) :
    (m.insert k v).get? k' = if k' = k then some v else m.get? k' := by
  by_cases h : k = k'
  · simp [insert, get?, h]
  · simp [insert, get?, get?_erase, h, Ne.symm h]

/-- Erasing a key that has no value changes nothing. -/
theorem erase_of_get?_eq_none {m : Assoc κ β} {k : κ} (h : m.get? k = none) : m.erase k = m := by
  induction m with
  | nil => rfl
  | cons p m ih =>
    obtain ⟨a, b⟩ := p
    by_cases ha : a = k
    · simp [get?, ha] at h
    · rw [get?, if_neg ha] at h
      rw [erase, if_neg ha, ih h]

/-- Erasing a key again changes nothing. -/
theorem erase_erase (m : Assoc κ β) (k : κ) : (m.erase k).erase k = m.erase k := by
  induction m with
  | nil => rfl
  | cons p m ih =>
    obtain ⟨a, b⟩ := p
    by_cases ha : a = k
    · simp only [erase, if_pos ha, ih]
    · simp only [erase, if_neg ha, ih]

/-- Erasing a key before its value is replaced changes nothing. -/
theorem insert_erase (m : Assoc κ β) (k : κ) (v : β) : (m.erase k).insert k v = m.insert k v := by
  rw [insert, insert, erase_erase]

/-- Inserting a value again changes nothing. -/
theorem insert_insert (m : Assoc κ β) (k : κ) (v : β) :
    (m.insert k v).insert k v = m.insert k v := by
  simp only [insert, erase, if_true, erase_erase]

end Assoc

end FilterSql
