import FilterSql.Proofs.Actions

/-!
# Actions that match

Two actions match for a relation between sessions when they come to the same result from related
sessions, and leave related ones. Most of what an operation does touches only the stages and the type
chain of its session, and matches itself for every relation that does not mind these; what is left are
the questions to the database.

## Main definitions

* `Action.Matches`: two actions match for a relation between sessions;
* `Session.Tolerant`: a relation that stages and type chains do not matter to;
* `BlockingRepository.callBy`, `AsyncRepository.callBy`: a call whose key columns come from a given
  lookup.

## Main results

* `BlockingRepository.matches_callBy`: calls match when their questions to the database do.
-/

namespace FilterSql

variable {σ σ' τ α β : Type}

/-- Two actions come to the same result from related sessions, and leave related sessions. -/
def Action.Matches (I : Session σ → Session σ' → Prop) (m : Action σ α) (m' : Action σ' α) : Prop :=
  ∀ ⦃s : Session σ⦄ ⦃s' : Session σ'⦄, I s s' →
    (m.run.run s).1 = (m'.run.run s').1 ∧ I (m.run.run s).2 (m'.run.run s').2

/-- Related sessions have the same type chain, and stay related when both start over, reach a stage,
or get another chain. -/
structure Session.Tolerant (I : Session σ → Session σ' → Prop) : Prop where
  /-- Related sessions have the same type chain. -/
  types : ∀ ⦃s s'⦄, I s s' → s.caches.types = s'.caches.types
  /-- Both may start an operation. -/
  start : ∀ ⦃s s'⦄, I s s' → I { s with stages := [.requested] } { s' with stages := [.requested] }
  /-- Both may reach a stage. -/
  advance : ∀ ⦃s s'⦄ (stage : Stage), I s s' →
    I { s with stages := s.stages ++ [stage] } { s' with stages := s'.stages ++ [stage] }
  /-- Both may get another type chain. -/
  retype : ∀ ⦃s s'⦄ (types : TypeChain), I s s' →
    I { s with caches := { s.caches with types } } { s' with caches := { s'.caches with types } }

namespace Action.Matches

variable {I : Session σ → Session σ' → Prop}

/-- A result that is there already. -/
theorem pure (a : α) : Matches I (Pure.pure a : Action σ α) (Pure.pure a : Action σ' α) :=
  fun _ _ h => ⟨rfl, h⟩

/-- One action after another. -/
theorem bind {m : Action σ α} {m' : Action σ' α} {f : α → Action σ β} {f' : α → Action σ' β}
    (hm : Matches I m m') (hf : ∀ a, Matches I (f a) (f' a)) : Matches I (m >>= f) (m' >>= f') := by
  intro s s' h
  obtain ⟨hresult, hsession⟩ := hm h
  rcases hrun : m.run.run s with ⟨_ | a, s₁⟩ <;> rcases hrun' : m'.run.run s' with ⟨_ | a', s₁'⟩ <;>
    simp only [hrun, hrun', Except.error.injEq, Except.ok.injEq, reduceCtorEq] at hresult hsession
  · rw [run_bind_error hrun, run_bind_error hrun', hresult]
    exact ⟨rfl, hsession⟩
  · rw [run_bind_ok hrun, run_bind_ok hrun', hresult]
    exact hf a' hsession

/-- A result that may be an error. -/
theorem ofExcept (r : Except QueryError α) :
    Matches I (Action.ofExcept r : Action σ α) (Action.ofExcept r : Action σ' α) :=
  fun _ _ h => ⟨rfl, h⟩

section

variable (hI : Session.Tolerant I)

include hI

/-- Reaching a stage. -/
theorem advance (stage : Stage) :
    Matches I (Action.advance stage : Action σ Unit) (Action.advance stage : Action σ' Unit) :=
  fun _ _ h => ⟨rfl, hI.advance stage h⟩

/-- Resolving types. -/
theorem resolve (m : Building α) :
    Matches I (Action.resolve m : Action σ α) (Action.resolve m : Action σ' α) := by
  intro s s' h
  simp only [run_resolve, hI.types h]
  exact ⟨trivial, hI.retype _ h⟩

/-- Whole operations. -/
theorem perform {m : Action σ α} {m' : Action σ' α} (hm : Matches I m m') {s : Session σ}
    {s' : Session σ'} (h : I s s') :
    (m.perform s).1 = (m'.perform s').1 ∧ I (m.perform s).2 (m'.perform s').2 := by
  obtain ⟨hresult, hsession⟩ := hm (hI.start h)
  rw [perform_eq, perform_eq, hresult]
  exact ⟨rfl, hI.advance _ hsession⟩

end

end Action.Matches

namespace Planner

variable (p : Planner) (e : Entity) {I : Session σ → Session σ' → Prop} (hI : Session.Tolerant I)

include hI

/-- Filters are normalized alike. -/
theorem matches_normalize (f : Option Filter) :
    Action.Matches I (p.normalize (σ := σ) e f) (p.normalize (σ := σ') e f) := by
  refine (Action.Matches.advance hI .normalizing).bind fun _ => ?_
  cases f with
  | some f => exact .ofExcept _
  | none => exact .pure _

/-- Statements are built alike. -/
theorem matches_build (request : Request) :
    Action.Matches I (p.build (σ := σ) request) (p.build (σ := σ') request) :=
  (Action.Matches.advance hI .building).bind fun _ => .resolve hI _

/-- Merge results are read alike. -/
theorem matches_mergeResult (spec : MergeSpec) (rows : List Record) :
    Action.Matches I (p.mergeResult (σ := σ) e spec rows)
      (p.mergeResult (σ := σ') e spec rows) := by
  unfold mergeResult
  split
  · exact .pure _
  · exact (Action.Matches.resolve hI _).bind fun _ => .pure _

end Planner

/-! ### Calls by a lookup of key columns -/

/-- Insert a record or update the row that it matches. The key columns of the table come from a
lookup. -/
def BlockingRepository.mergeBy (r : BlockingRepository σ τ)
    (lookup : TableName → Action σ (List String)) (e : Entity) (record : Record)
    (qualifiers : List Field) (tx : Option τ) : Action σ Value := do
  let reported ←
    (if r.planner.needsKeyColumns e qualifiers then lookup e.table else pure [])
  let spec : MergeSpec := { record, qualifiers, keyColumns := reported }
  let s ← r.planner.merge e spec
  let rows ← r.execute s tx
  r.planner.mergeResult e spec rows

/-- The operation that a call starts, when the key columns that it depends on come from a lookup. -/
def BlockingRepository.callBy (r : BlockingRepository σ τ)
    (lookup : TableName → Action σ (List String)) : Call τ α → Action σ α
  | .query e f options tx read => r.query e f options tx read
  | .page e index rows order f hint tx read => r.page e index rows order f hint tx read
  | .count e f hint tx => r.count e f hint tx
  | .merge e record qualifiers tx => r.mergeBy lookup e record qualifiers tx

/-- Insert a record or update the row that it matches. The key columns of the table come from a
lookup. -/
def AsyncRepository.mergeBy (r : AsyncRepository σ τ)
    (lookup : TableName → Action σ (List String)) (e : Entity) (record : Record)
    (qualifiers : List Field) (tx : Option τ) : Action σ Value := do
  let reported ←
    (if r.planner.needsKeyColumns e qualifiers then lookup e.table else pure [])
  let spec : MergeSpec := { record, qualifiers, keyColumns := reported }
  let s ← r.planner.merge e spec
  let rows ← r.execute s tx
  r.planner.mergeResult e spec rows

/-- The operation that a call starts, when the key columns that it depends on come from a lookup. -/
def AsyncRepository.callBy (r : AsyncRepository σ τ)
    (lookup : TableName → Action σ (List String)) : Call τ α → Action σ α
  | .query e f options tx read => r.query e f options tx read
  | .page e index rows order f hint tx read => r.page e index rows order f hint tx read
  | .count e f hint tx => r.count e f hint tx
  | .merge e record qualifiers tx => r.mergeBy lookup e record qualifiers tx

namespace BlockingRepository

/-- A repository looks for the key columns that it remembers, and asks for the others. -/
theorem call_eq_callBy (r : BlockingRepository σ τ) (c : Call τ α) :
    r.call c = r.callBy r.keyColumns c := by
  cases c <;> rfl

variable {I : Session σ → Session σ' → Prop} {r : BlockingRepository σ τ}
  {r' : BlockingRepository σ' τ}

/-- Statements are run alike when the database is asked alike. -/
theorem matches_execute (hI : Session.Tolerant I)
    (hfetch : ∀ s tx, Action.Matches I (.ask (r.backend.fetch s tx)) (.ask (r'.backend.fetch s tx)))
    (s : Statement) (tx : Option τ) : Action.Matches I (r.execute s tx) (r'.execute s tx) :=
  (Action.Matches.advance hI .executing).bind fun _ => (hfetch s tx).bind fun rows =>
    (Action.Matches.advance hI .mapping).bind fun _ => .pure rows

/-- Calls of repositories that plan alike match when what they ask the database does: the statements,
and the key columns that the call depends on. -/
theorem matches_callBy (hI : Session.Tolerant I) (hplanner : r.planner = r'.planner)
    (hfetch : ∀ s tx, Action.Matches I (.ask (r.backend.fetch s tx)) (.ask (r'.backend.fetch s tx)))
    {lookup : TableName → Action σ (List String)} {lookup' : TableName → Action σ' (List String)}
    (hlookup : ∀ table, Action.Matches I (lookup table) (lookup' table)) (c : Call τ α) :
    Action.Matches I (r.callBy lookup c) (r'.callBy lookup' c) := by
  cases c with
  | query e f options tx read =>
    simp only [callBy, query, Planner.query, bind_assoc, hplanner]
    exact (r'.planner.matches_normalize e hI f).bind fun _ =>
      (r'.planner.matches_build hI _).bind fun s =>
        (matches_execute hI hfetch s tx).bind fun _ => .ofExcept _
  | page e index rows order f hint tx read =>
    simp only [callBy, page, Planner.page, bind_assoc, hplanner]
    exact (Action.Matches.ofExcept _).bind fun _ =>
      (r'.planner.matches_normalize e hI f).bind fun _ =>
        (r'.planner.matches_build hI _).bind fun s =>
          (matches_execute hI hfetch s tx).bind fun _ => .ofExcept _
  | count e f hint tx =>
    simp only [callBy, count, Planner.count, bind_assoc, hplanner]
    exact (r'.planner.matches_normalize e hI f).bind fun _ =>
      (r'.planner.matches_build hI _).bind fun s =>
        (matches_execute hI hfetch s tx).bind fun _ => .ofExcept _
  | merge e record qualifiers tx =>
    simp only [callBy, mergeBy, Planner.merge, hplanner]
    refine Action.Matches.bind ?_ fun reported => (r'.planner.matches_build hI _).bind fun s =>
      (matches_execute hI hfetch s tx).bind fun rows => r'.planner.matches_mergeResult e hI _ rows
    -- the key columns are looked up on both sides or on neither
    split
    · exact hlookup e.table
    · exact .pure []

/-! ### Looking for key columns -/

section

variable {s : Session σ} {table : TableName}

/-- Key columns that are remembered are not asked for. -/
theorem run_keyColumns_of_known (r : BlockingRepository σ τ) {keys : List String}
    (h : s.caches.keys.get? table = some keys) : (r.keyColumns table).run.run s = (.ok keys, s) := by
  unfold keyColumns
  rw [Action.run_bind_ok (Action.run_recallKeys s table), h]
  rfl

/-- Key columns that cannot be had are not remembered. -/
theorem run_keyColumns_of_error (r : BlockingRepository σ τ) {e : ExecutionError} {x : σ}
    (h : s.caches.keys.get? table = none)
    (hreply : (r.backend.keyColumns table).run s.backend = (.error e, x)) :
    (r.keyColumns table).run.run s = (.error (.execution e), { s with backend := x }) := by
  have hask := Action.run_ask s (r.backend.keyColumns table)
  rw [hreply] at hask
  unfold keyColumns
  rw [Action.run_bind_ok (Action.run_recallKeys s table), h]
  exact Action.run_bind_error hask _

/-- Key columns that are reported are remembered. -/
theorem run_keyColumns_of_ok (r : BlockingRepository σ τ) {keys : List String} {x : σ}
    (h : s.caches.keys.get? table = none)
    (hreply : (r.backend.keyColumns table).run s.backend = (.ok keys, x)) :
    (r.keyColumns table).run.run s = (.ok keys,
      { s with
        backend := x
        caches := { s.caches with keys := s.caches.keys.insert table keys } }) := by
  have hask := Action.run_ask s (r.backend.keyColumns table)
  rw [hreply] at hask
  unfold keyColumns
  rw [Action.run_bind_ok (Action.run_recallKeys s table), h]
  exact Action.run_bind_ok hask _

end

end BlockingRepository

namespace AsyncRepository

/-- A repository looks for the key columns that it remembers, and asks for the others. -/
theorem call_eq_callBy (r : AsyncRepository σ τ) (c : Call τ α) :
    r.call c = r.callBy r.keyColumns c := by
  cases c <;> rfl

end AsyncRepository

end FilterSql
