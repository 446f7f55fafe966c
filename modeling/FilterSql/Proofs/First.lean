import Mathlib.Data.List.Forall2

/-!
# The first element with a property

Checks that are made one after another report the first element that fails. What this element is
does not depend on how the list is put together from others.

## Main definitions

* `FirstWith`: the first element of a list that has a property.

## Main results

* `firstWith_append_iff`: where the first element of two lists in a row is;
* `FirstWith.of_forall₂`: lists that match element by element have matching first elements;
* `forM_eq_ok_iff` and `forM_eq_error_iff`: checking the elements of a list one after another fails
  as the first element does that fails;
* `mapM_eq_ok_iff` and `mapM_eq_error_iff`: so does mapping them;
* `takeWhile_run` and `dropWhile_run`: a run of elements with a property ends in front of the first
  element that has it not.
-/

namespace FilterSql

/-- An element is the first one of a list that has a property. -/
def FirstWith {α : Type} (P : α → Prop) (xs : List α) (x : α) : Prop :=
  P x ∧ ∃ before after, xs = before ++ x :: after ∧ ∀ y ∈ before, ¬ P y

section

variable {α β : Type} {P : α → Prop} {xs ys : List α} {x : α}

/-- A search finds the first one. -/
theorem find?_eq_some_iff_firstWith {p : α → Bool} (hp : ∀ y, p y = true ↔ P y) :
    xs.find? p = some x ↔ FirstWith P xs x := by
  rw [List.find?_eq_some_iff_append, hp, FirstWith]
  simp [← hp]

/-- No element of the empty list is the first one. -/
theorem not_firstWith_nil : ¬ FirstWith P [] x := by
  rintro ⟨-, before, after, hnil, -⟩
  simp at hnil

/-- The first one is the head, or the first one of the tail when the head has not the property. -/
theorem firstWith_cons_iff {y : α} :
    FirstWith P (y :: xs) x ↔ P y ∧ x = y ∨ ¬ P y ∧ FirstWith P xs x := by
  constructor
  · rintro ⟨hx, before, after, hsplit, hbefore⟩
    cases before with
    | nil =>
      obtain ⟨rfl, rfl⟩ := List.cons.inj hsplit
      exact .inl ⟨hx, rfl⟩
    | cons z before =>
      obtain ⟨rfl, rfl⟩ := List.cons.inj hsplit
      exact .inr ⟨hbefore y List.mem_cons_self,
        hx, before, after, rfl, fun z hz => hbefore z (List.mem_cons_of_mem y hz)⟩
  · rintro (⟨hy, rfl⟩ | ⟨hy, hx, before, after, rfl, hbefore⟩)
    · exact ⟨hy, [], xs, rfl, by simp⟩
    · exact ⟨hx, y :: before, after, rfl, by simpa [hy] using hbefore⟩

/-- The first one of two lists in a row is in the second only when none is in the first. -/
theorem firstWith_append_iff :
    FirstWith P (xs ++ ys) x ↔ FirstWith P xs x ∨ (∀ y ∈ xs, ¬ P y) ∧ FirstWith P ys x := by
  induction xs with
  | nil => simp [not_firstWith_nil]
  | cons y xs ih =>
    simp only [List.cons_append, firstWith_cons_iff, ih, List.forall_mem_cons]
    tauto

/-- Lists that match element by element have matching first elements. -/
theorem FirstWith.of_forall₂ {R : α → β → Prop} {Q : β → Prop} {ys : List β}
    (hmatch : List.Forall₂ R xs ys) (hiff : ∀ x y, R x y → (P x ↔ Q y)) (h : FirstWith P xs x) :
    ∃ y, FirstWith Q ys y ∧ R x y := by
  induction hmatch with
  | nil => exact absurd h not_firstWith_nil
  | @cons a b xs ys hab _ ih =>
    rcases firstWith_cons_iff.1 h with ⟨ha, rfl⟩ | ⟨ha, hrest⟩
    · exact ⟨b, firstWith_cons_iff.2 (.inl ⟨(hiff x b hab).1 ha, rfl⟩), hab⟩
    · obtain ⟨y, hy, hxy⟩ := ih hrest
      exact ⟨y, firstWith_cons_iff.2 (.inr ⟨fun hb => ha ((hiff a b hab).2 hb), hy⟩), hxy⟩

/-- Lists that match element by element have a property alike. -/
theorem forall_mem_iff_of_forall₂ {R : α → β → Prop} {Q : β → Prop} {ys : List β}
    (hmatch : List.Forall₂ R xs ys) (hiff : ∀ x y, R x y → (P x ↔ Q y)) :
    (∀ x ∈ xs, P x) ↔ ∀ y ∈ ys, Q y := by
  induction hmatch with
  | nil => simp
  | @cons a b xs ys hab _ ih => rw [List.forall_mem_cons, List.forall_mem_cons, hiff a b hab, ih]

/-- A list matches some other one element by element when each of its elements matches something. -/
theorem exists_forall₂_iff {R : α → β → Prop} :
    (∃ ys, List.Forall₂ R xs ys) ↔ ∀ x ∈ xs, ∃ y, R x y := by
  induction xs with
  | nil => simp
  | cons x xs ih =>
    rw [List.forall_mem_cons, ← ih]
    constructor
    · rintro ⟨_, h⟩
      obtain ⟨y, ys, hhead, htail, -⟩ := List.forall₂_cons_left_iff.1 h
      exact ⟨⟨y, hhead⟩, ys, htail⟩
    · rintro ⟨⟨y, hhead⟩, ys, htail⟩
      exact ⟨y :: ys, .cons hhead htail⟩

end

section

variable {ε α : Type} {f : α → Except ε Unit} {xs : List α}

/-- Checking elements one after another succeeds when each check does. -/
theorem forM_eq_ok_iff : xs.forM f = .ok () ↔ ∀ x ∈ xs, f x = .ok () := by
  induction xs with
  | nil => exact ⟨fun _ => by simp, fun _ => rfl⟩
  | cons y xs ih =>
    rw [List.forall_mem_cons, ← ih]
    change (f y >>= fun _ => xs.forM f) = .ok () ↔ _
    cases f y <;> simp [bind, Except.bind]

/-- Checking elements one after another fails as the first element does that fails. -/
theorem forM_eq_error_iff {e : ε} :
    xs.forM f = .error e ↔ ∃ x, FirstWith (fun x => f x ≠ .ok ()) xs x ∧ f x = .error e := by
  induction xs with
  | nil => exact ⟨fun h => (nomatch h), fun ⟨_, hnil, _⟩ => absurd hnil not_firstWith_nil⟩
  | cons y xs ih =>
    change (f y >>= fun _ => xs.forM f) = .error e ↔ _
    simp only [firstWith_cons_iff]
    cases hy : f y with
    | error e' =>
      constructor
      · rintro h
        exact ⟨y, .inl ⟨by simp, rfl⟩, hy.trans h⟩
      · rintro ⟨x, ⟨-, rfl⟩ | ⟨hok, -⟩, hx⟩
        · exact hy.symm.trans hx
        · simp at hok
    | ok u =>
      refine ih.trans ⟨fun ⟨x, hfirst, hx⟩ => ⟨x, .inr ⟨by simp, hfirst⟩, hx⟩, ?_⟩
      rintro ⟨x, ⟨hfail, -⟩ | ⟨-, hfirst⟩, hx⟩
      · simp at hfail
      · exact ⟨x, hfirst, hx⟩

end

/-- Mapping the elements of a list succeeds when each of them is mapped to something. -/
theorem mapM_eq_ok_iff {ε α β : Type} {f : α → Except ε β} {xs : List α} {ys : List β} :
    xs.mapM f = .ok ys ↔ List.Forall₂ (fun x y => f x = .ok y) xs ys := by
  induction xs generalizing ys with
  | nil =>
    rw [List.forall₂_nil_left_iff]
    exact ⟨fun h => (Except.ok.inj h).symm, fun h => h ▸ rfl⟩
  | cons x xs ih =>
    rw [List.mapM_cons, List.forall₂_cons_left_iff]
    simp only [← ih]
    cases f x <;> cases xs.mapM f <;> simp [bind, Except.bind, pure, Except.pure, eq_comm]

/-- Mapping the elements of a list fails as the first element does that fails. -/
theorem mapM_eq_error_iff {ε α β : Type} {f : α → Except ε β} {xs : List α} {e : ε} :
    xs.mapM f = .error e ↔
      ∃ x, FirstWith (fun x => ∃ e, f x = .error e) xs x ∧ f x = .error e := by
  induction xs with
  | nil => exact ⟨fun h => (nomatch h), fun ⟨_, hnil, _⟩ => absurd hnil not_firstWith_nil⟩
  | cons y xs ih =>
    rw [List.mapM_cons]
    simp only [firstWith_cons_iff]
    cases hy : f y with
    | error e' =>
      constructor
      · intro h
        exact ⟨y, .inl ⟨⟨e', rfl⟩, rfl⟩, hy.trans (congrArg _ (Except.error.inj h))⟩
      · rintro ⟨x, ⟨-, rfl⟩ | ⟨hok, -⟩, hx⟩
        · obtain rfl := Except.error.inj (hy.symm.trans hx)
          rfl
        · exact absurd ⟨e', rfl⟩ hok
    | ok b =>
      have hrest : (xs.mapM f >>= fun bs => pure (b :: bs)) = .error e ↔ xs.mapM f = .error e := by
        cases xs.mapM f <;> simp [bind, Except.bind, pure, Except.pure]
      refine hrest.trans (ih.trans ⟨fun ⟨x, hfirst, hx⟩ => ⟨x, .inr ⟨by simp, hfirst⟩, hx⟩, ?_⟩)
      rintro ⟨x, ⟨⟨_, hfail⟩, -⟩ | ⟨-, hfirst⟩, hx⟩
      · cases hfail
      · exact ⟨x, hfirst, hx⟩

section

variable {α : Type} {p : α → Bool} {run rest : List α}

/-- A run of elements with a property is taken as a whole when what follows has it not. -/
theorem takeWhile_run (hrun : ∀ x ∈ run, p x = true) (hrest : ∀ x ∈ rest.head?, p x = false) :
    (run ++ rest).takeWhile p = run := by
  rw [List.takeWhile_append_of_pos hrun]
  cases rest with
  | nil => simp
  | cons x rest => rw [List.takeWhile_cons_of_neg (by simp [hrest x rfl]), List.append_nil]

/-- What follows a run of elements with a property is what is left without the run. -/
theorem dropWhile_run (hrun : ∀ x ∈ run, p x = true) (hrest : ∀ x ∈ rest.head?, p x = false) :
    (run ++ rest).dropWhile p = rest := by
  rw [List.dropWhile_append_of_pos hrun]
  cases rest with
  | nil => rfl
  | cons x rest => rw [List.dropWhile_cons_of_neg (by simp [hrest x rfl])]

/-- What is left without a run begins with an element that has not the property. -/
theorem head?_dropWhile_eq_false {xs : List α} : ∀ x ∈ (xs.dropWhile p).head?, p x = false := by
  intro x hx
  have h := List.head?_dropWhile_not p xs
  rwa [Option.mem_def.1 hx] at h

end

end FilterSql
