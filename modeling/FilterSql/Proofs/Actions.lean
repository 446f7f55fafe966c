import FilterSql.Repository

/-!
# Running actions

What each of the actions that operations are made of does to its session, and how one action follows
another.
-/

namespace FilterSql.Action

variable {σ α β : Type} (s : Session σ)

/-- A result that is there already changes nothing. -/
@[simp]
theorem run_pure (a : α) : (pure a : Action σ α).run.run s = (.ok a, s) := rfl

/-- A refusal changes nothing. -/
@[simp]
theorem run_ofExcept (r : Except QueryError α) : (ofExcept r : Action σ α).run.run s = (r, s) := rfl

/-- Reaching a stage adds it to the stages reached. -/
@[simp]
theorem run_advance (stage : Stage) :
    (advance stage).run.run s = (.ok (), { s with stages := s.stages ++ [stage] }) := rfl

/-- Asking the backend changes the state of the backend only. -/
@[simp]
theorem run_ask (call : StateM σ (Except ExecutionError α)) :
    (ask call).run.run s =
      ((call.run s.backend).1.mapError .execution, { s with backend := (call.run s.backend).2 }) :=
  rfl

/-- Resolving types changes the answers kept only. -/
@[simp]
theorem run_resolve (m : Building α) :
    (resolve m : Action σ α).run.run s =
      ((m.run.run s.caches.types).1,
        { s with caches := { s.caches with types := (m.run.run s.caches.types).2 } }) := rfl

/-- Looking for remembered key columns changes nothing. -/
@[simp]
theorem run_recallKeys (table : TableName) :
    (recallKeys table).run.run s = (.ok (s.caches.keys.get? table), s) := rfl

/-- Remembering key columns changes the remembered key columns only. -/
@[simp]
theorem run_rememberKeys (table : TableName) (keys : List String) :
    (rememberKeys table keys).run.run s =
      (.ok (), { s with caches := { s.caches with keys := s.caches.keys.insert table keys } }) :=
  rfl

variable {s}

/-- An action that succeeds hands its result to the next one. -/
theorem run_bind_ok {m : Action σ α} {s' : Session σ} {a : α} (h : m.run.run s = (.ok a, s'))
    (f : α → Action σ β) : (m >>= f).run.run s = (f a).run.run s' := by
  rw [ExceptT.run_bind, StateT.run_bind, h]
  rfl

/-- An action that is refused is followed by nothing. -/
theorem run_bind_error {m : Action σ α} {s' : Session σ} {e : QueryError}
    (h : m.run.run s = (.error e, s')) (f : α → Action σ β) :
    (m >>= f).run.run s = (.error e, s') := by
  rw [ExceptT.run_bind, StateT.run_bind, h]
  rfl

/-- Two actions in a row succeed when the first does and the second does on its result. -/
theorem run_bind_eq_ok_iff {m : Action σ α} {f : α → Action σ β} {b : β} {s' : Session σ} :
    (m >>= f).run.run s = (.ok b, s') ↔
      ∃ a s₁, m.run.run s = (.ok a, s₁) ∧ (f a).run.run s₁ = (.ok b, s') := by
  constructor
  · intro h
    rcases hm : m.run.run s with ⟨e | a, s₁⟩
    · rw [run_bind_error hm] at h
      cases h
    · rw [run_bind_ok hm] at h
      exact ⟨a, s₁, rfl, h⟩
  · rintro ⟨a, s₁, hm, hf⟩
    rw [run_bind_ok hm, hf]

/-- A whole operation starts as requested and ends as its result says. -/
theorem perform_eq (m : Action σ α) (s : Session σ) :
    m.perform s =
      ((m.run.run { s with stages := [.requested] }).1,
        { (m.run.run { s with stages := [.requested] }).2 with
          stages := (m.run.run { s with stages := [.requested] }).2.stages ++
            [.last (m.run.run { s with stages := [.requested] }).1] }) := rfl

/-- A whole operation that succeeds is completed. -/
theorem perform_eq_ok_iff {m : Action σ α} {s s' : Session σ} {a : α} :
    m.perform s = (.ok a, s') ↔
      ∃ s₁, m.run.run { s with stages := [.requested] } = (.ok a, s₁) ∧
        s' = { s₁ with stages := s₁.stages ++ [.completed] } := by
  rw [perform_eq]
  rcases hrun : m.run.run { s with stages := [.requested] } with ⟨result, s₁⟩
  constructor
  · intro h
    obtain ⟨rfl, rfl⟩ := Prod.mk.inj h
    exact ⟨s₁, rfl, rfl⟩
  · rintro ⟨_, h, rfl⟩
    obtain ⟨rfl, rfl⟩ := Prod.mk.inj h
    rfl

end FilterSql.Action
