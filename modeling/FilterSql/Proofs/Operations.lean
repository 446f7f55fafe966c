import FilterSql.Proofs.Outcomes

/-!
# What an operation does to its database

An operation settles the key columns that it goes by, plans its statement, runs it, and reads the rows.
Written as one computation over the database it needs no session: the result and the database that is
left depend on the database and on what the repository remembers, and of the latter only on the answers
of the type chain and on the key columns that the database would report differently.

## Main definitions

* `Call.effect`: a call as a computation over the database;
* `Backend.through`: a backend as the operations of a handle see it;
* `Caches.Grows`: caches to which nothing was added but answers that the database would give again.

## Main results

* `Repository.perform_call`: an operation has the effect of its call, and its caches only grow;
* `Call.effect_of_grows`: the effect of a call is the same when the caches have grown before.
-/

namespace FilterSql

variable {σ τ α : Type}

/-! ### The effect of a call -/

namespace Call

/-- The key columns that a call goes by: none if it depends on none, else those that are remembered,
else those that the database reports. -/
def settleKeys (c : Call τ α) (p : Planner) (b : Backend σ τ) (keys : Assoc TableName (List String)) :
    StateM σ (Except ExecutionError (List String)) :=
  match c.keyTable? p with
  | none => pure (.ok [])
  | some table =>
    match keys.get? table with
    | some known => pure (.ok known)
    | none => b.keyColumns table

/-- What a call makes of the rows of its statement, under the types of a chain. -/
def read (c : Call τ α) (p : Planner) (types : TypeChain) (reported : List String)
    (rows : List Record) : Except QueryError α :=
  ((c.finish p reported rows).run.run { backend := (), caches := { types } }).1

/-- What a call comes to when the key columns `reported` are settled: its statement is planned, run
and its rows are read. -/
def runPlan (c : Call τ α) (p : Planner) (b : Backend σ τ) (types : TypeChain)
    (reported : List String) : StateM σ (Except QueryError α) := fun x =>
  match c.plan p types reported with
  | .error e => (.error e, x)
  | .ok st =>
    match (b.fetch st c.transaction).run x with
    | (.error fault, x) => (.error (.execution fault), x)
    | (.ok rows, x) => (c.read p types reported rows, x)

/-- What a call comes to on a database, by what the repository remembers. -/
def effect (c : Call τ α) (p : Planner) (b : Backend σ τ) (caches : Caches) :
    StateM σ (Except QueryError α) := fun x =>
  match (c.settleKeys p b caches.keys).run x with
  | (.error fault, x) => (.error (.execution fault), x)
  | (.ok reported, x) => (c.runPlan p b caches.types reported).run x

section

variable (c : Call τ α) (p : Planner) (b : Backend σ τ) (types : TypeChain) (reported : List String)
  (x : σ)

/-- A call that depends on no key columns has nothing to settle. -/
theorem settleKeys_of_none {keys : Assoc TableName (List String)} (h : c.keyTable? p = none) :
    c.settleKeys p b keys = pure (.ok []) := by
  rw [settleKeys, h]

/-- Key columns that are remembered are settled. -/
theorem settleKeys_of_known {keys : Assoc TableName (List String)} {table : TableName}
    {known : List String} (h : c.keyTable? p = some table) (hkeys : keys.get? table = some known) :
    c.settleKeys p b keys = pure (.ok known) := by
  rw [settleKeys, h]
  dsimp only
  rw [hkeys]

/-- Key columns that are not remembered are reported by the database. -/
theorem settleKeys_of_unknown {keys : Assoc TableName (List String)} {table : TableName}
    (h : c.keyTable? p = some table) (hkeys : keys.get? table = none) :
    c.settleKeys p b keys = b.keyColumns table := by
  rw [settleKeys, h]
  dsimp only
  rw [hkeys]

/-- A call that has no plan leaves the database as it is. -/
theorem runPlan_of_error {e : QueryError} (h : c.plan p types reported = .error e) :
    (c.runPlan p b types reported).run x = (.error e, x) := by
  show c.runPlan p b types reported x = _
  rw [runPlan, h]

/-- A call that is planned to a statement runs it and reads its rows. -/
theorem runPlan_of_ok {st : Statement} (h : c.plan p types reported = .ok st) :
    (c.runPlan p b types reported).run x =
      match (b.fetch st c.transaction).run x with
      | (.error fault, y) => (.error (.execution fault), y)
      | (.ok rows, y) => (c.read p types reported rows, y) := by
  show c.runPlan p b types reported x = _
  rw [runPlan, h]

/-- A call settles the key columns that it goes by, and then does what its plan says. -/
theorem run_effect (caches : Caches) :
    (c.effect p b caches).run x =
      match (c.settleKeys p b caches.keys).run x with
      | (.error fault, y) => (.error (.execution fault), y)
      | (.ok reported, y) => (c.runPlan p b caches.types reported).run y := rfl

end

/-- Rows are read alike in every session, by the types of its chain. -/
theorem run_finish (c : Call τ α) (p : Planner) (reported : List String) (rows : List Record)
    (s : Session σ) :
    ∃ s', (c.finish p reported rows).run.run s = (c.read p s.caches.types reported rows, s') ∧
      s.Spares s' := by
  cases c with
  | query | page | count => exact ⟨s, rfl, rfl, rfl, .rfl⟩
  | merge e record qualifiers tx =>
    let spec : MergeSpec := { record, qualifiers, keyColumns := reported }
    refine ⟨((p.mergeResult e spec rows).run.run s).2, ?_, ?_⟩
    · -- of the session, the result depends on the type chain only
      apply Prod.ext
      · exact (p.mergeResult_fst e spec rows s).trans
          (p.mergeResult_fst e spec rows
            ({ backend := (), caches := { types := s.caches.types } } : Session Unit)).symm
      · rfl
    · -- the columns of the merge may be resolved once more
      unfold Planner.mergeResult
      cases (rows.head?.bind Record.first?).filter fun v => !v.isNull with
      | some v => exact ⟨rfl, rfl, .rfl⟩
      | none =>
        dsimp only
        have hresolved := Action.run_resolve s (spec.resolveKeys (p.builder.scope e))
        have hagree := (spec.invisible_resolveKeys (p.builder.scope e)).agree s.caches.types
        cases hkeys : ((spec.resolveKeys (p.builder.scope e)).run.run s.caches.types).1 with
        | error error =>
          rw [hkeys] at hresolved
          rw [Action.run_bind_error hresolved]
          exact ⟨rfl, rfl, hagree⟩
        | ok keys =>
          rw [hkeys] at hresolved
          rw [Action.run_bind_ok hresolved]
          exact ⟨rfl, rfl, hagree⟩

section

variable (c : Call τ α) (p : Planner) {types types' : TypeChain} (h : types.Agree types')

include h

/-- Calls are planned alike under chains that give the same answers. -/
theorem plan_of_agree (reported : List String) : c.plan p types reported = c.plan p types' reported := by
  unfold plan
  congr 1
  funext request
  exact p.builder.run_congr request h

/-- Rows are read alike under chains that give the same answers. -/
theorem read_of_agree (reported : List String) (rows : List Record) :
    c.read p types reported rows = c.read p types' reported rows := by
  cases c with
  | query | page | count => rfl
  | merge e record qualifiers tx =>
    show ((p.mergeResult e _ rows).run.run _).1 = ((p.mergeResult e _ rows).run.run _).1
    rw [p.mergeResult_fst, p.mergeResult_fst]
    have hkeys := (MergeSpec.invisible_resolveKeys
      { record, qualifiers, keyColumns := reported } (p.builder.scope e)).result h
    rw [hkeys]

/-- Statements are run and read alike under chains that give the same answers. -/
theorem runPlan_of_agree (b : Backend σ τ) (reported : List String) :
    c.runPlan p b types reported = c.runPlan p b types' reported := by
  funext x
  simp only [runPlan, c.plan_of_agree p h, c.read_of_agree p h]

end

end Call

/-! ### Operations -/

/-- What a repository remembers has grown by nothing but what the database would report again: the
type chain gives the same answers, and the key columns of further tables are remembered as the database
`b` reports them in the state `x`. -/
structure Caches.Grows (b : Backend σ τ) (x : σ) (old new : Caches) : Prop where
  /-- The type chain gives the same answers. -/
  types : old.types.Agree new.types
  /-- Key columns are remembered as before, or as they are reported. -/
  keys : ∀ table, new.keys.get? table = old.keys.get? table ∨
    old.keys.get? table = none ∧ ∃ columns,
      new.keys.get? table = some columns ∧ (b.keyColumns table).run x = (.ok columns, x)

/-- A backend whose state does not change when key columns are asked for. -/
def Backend.Quiet (b : Backend σ τ) : Prop :=
  ∀ table x, ((b.keyColumns table).run x).2 = x

namespace Caches.Grows

variable {b : Backend σ τ} {x : σ}

/-- Caches to which nothing was added. -/
theorem refl (caches : Caches) : caches.Grows b x caches :=
  ⟨.rfl, fun _ => .inl rfl⟩

/-- Caches that have grown twice have grown. -/
theorem trans {c₁ c₂ c₃ : Caches} (h : c₁.Grows b x c₂) (h' : c₂.Grows b x c₃) : c₁.Grows b x c₃ where
  types := h.types.trans h'.types
  keys table := by
    rcases h'.keys table with hsame | ⟨hnone, columns, hsome, hreply⟩
    · rw [hsame]
      exact h.keys table
    · -- what was not known in between was not known at first
      rcases h.keys table with hfirst | ⟨-, _, hknown, -⟩
      · exact .inr ⟨hfirst ▸ hnone, columns, hsome, hreply⟩
      · rw [hnone] at hknown
        cases hknown

end Caches.Grows

namespace BlockingRepository

variable (r : BlockingRepository σ τ)

/-- Running a statement leaves its rows, or its error, and the database as the statement leaves it. -/
theorem run_execute_eq (st : Statement) (tx : Option τ) (s : Session σ) :
    (r.execute st tx).run.run s =
      match (r.backend.fetch st tx).run s.backend with
      | (.error fault, x) =>
        (.error (.execution fault), { s with backend := x, stages := s.stages ++ [.executing] })
      | (.ok rows, x) =>
        (.ok rows, { s with backend := x, stages := s.stages ++ [.executing] ++ [.mapping] }) := by
  unfold execute
  rw [Action.run_bind_ok (Action.run_advance s .executing)]
  have hask := Action.run_ask { s with stages := s.stages ++ [.executing] } (r.backend.fetch st tx)
  rcases hfetch : (r.backend.fetch st tx).run s.backend with ⟨fault | rows, x⟩
  · rw [hfetch] at hask
    exact Action.run_bind_error hask _
  · rw [hfetch] at hask
    rw [Action.run_bind_ok hask]
    rfl

/-- Behind the lookup of its key columns, a call does what its plan says. -/
theorem run_callBy_pure (c : Call τ α) (reported : List String)
    (hnothing : c.keyTable? r.planner = none → reported = []) (s : Session σ) :
    ∃ s', (r.callBy (fun _ => pure reported) c).run.run s =
        (((c.runPlan r.planner r.backend s.caches.types reported).run s.backend).1, s') ∧
      s'.backend = ((c.runPlan r.planner r.backend s.caches.types reported).run s.backend).2 ∧
      s'.caches.keys = s.caches.keys ∧ s.caches.types.Agree s'.caches.types := by
  rw [r.callBy_pure c hnothing]
  obtain ⟨s₁, hplanned, hspares⟩ := c.run_prepare r.planner reported s
  cases hplan : c.plan r.planner s.caches.types reported with
  | error e =>
    rw [hplan] at hplanned
    rw [c.runPlan_of_error _ _ _ _ _ hplan]
    exact ⟨s₁, Action.run_bind_error hplanned _, hspares.backend, hspares.keys, hspares.types⟩
  | ok st =>
    rw [hplan] at hplanned
    rw [Action.run_bind_ok hplanned, c.runPlan_of_ok _ _ _ _ _ hplan]
    have hexecuted := r.run_execute_eq st c.transaction s₁
    rw [hspares.backend] at hexecuted
    rcases hfetch : (r.backend.fetch st c.transaction).run s.backend with ⟨fault | rows, x⟩
    · rw [hfetch] at hexecuted
      exact ⟨_, Action.run_bind_error hexecuted _, rfl, hspares.keys, hspares.types⟩
    · rw [hfetch] at hexecuted
      rw [Action.run_bind_ok hexecuted]
      -- the rows are read under a chain that still gives the answers of the start
      obtain ⟨s', hread, hfinished⟩ := c.run_finish r.planner reported rows
        { s₁ with backend := x, stages := s₁.stages ++ [.executing] ++ [.mapping] }
      refine ⟨s', ?_, hfinished.backend, hfinished.keys.trans hspares.keys,
        hspares.types.trans hfinished.types⟩
      rw [hread]
      exact congrArg (·, s') (c.read_of_agree r.planner hspares.types reported rows).symm

/-- A call has its effect on the database, and what is remembered only grows. -/
theorem run_call (hquiet : r.backend.Quiet) (c : Call τ α) (s : Session σ) :
    ∃ s', (r.call c).run.run s =
        (((c.effect r.planner r.backend s.caches).run s.backend).1, s') ∧
      s'.backend = ((c.effect r.planner r.backend s.caches).run s.backend).2 ∧
      s.caches.Grows r.backend s.backend s'.caches := by
  rw [call_eq_callBy, c.run_effect]
  cases htable : c.keyTable? r.planner with
  | none =>
    rw [r.callBy_of_keyTable?_eq_none htable _ fun _ => pure [], c.settleKeys_of_none _ _ htable]
    obtain ⟨s', hrun, hbackend, hkeys, htypes⟩ := r.run_callBy_pure c [] (fun _ => rfl) s
    exact ⟨s', hrun, hbackend, htypes, fun table => .inl (by rw [hkeys])⟩
  | some table =>
    rw [r.callBy_of_keyTable?_eq_some htable]
    have hnothing {reported : List String} : c.keyTable? r.planner = none → reported = [] :=
      fun hnone => by simp [htable] at hnone
    cases hkeys : s.caches.keys.get? table with
    | some known =>
      rw [c.settleKeys_of_known _ _ htable hkeys, Action.run_bind_ok (r.run_keyColumns_of_known hkeys)]
      obtain ⟨s', hrun, hbackend, hkept, htypes⟩ := r.run_callBy_pure c known hnothing s
      exact ⟨s', hrun, hbackend, htypes, fun table => .inl (by rw [hkept])⟩
    | none =>
      rw [c.settleKeys_of_unknown _ _ htable hkeys]
      have hstate := hquiet table s.backend
      rcases hreply : (r.backend.keyColumns table).run s.backend with ⟨fault | columns, x⟩
      · rw [hreply] at hstate
        obtain rfl : x = s.backend := hstate
        rw [Action.run_bind_error (r.run_keyColumns_of_error hkeys hreply)]
        exact ⟨_, rfl, rfl, .refl s.caches⟩
      · rw [hreply] at hstate
        obtain rfl : x = s.backend := hstate
        rw [Action.run_bind_ok (r.run_keyColumns_of_ok hkeys hreply)]
        obtain ⟨s', hrun, hbackend, hkept, htypes⟩ := r.run_callBy_pure c columns hnothing
          { s with caches := { s.caches with keys := s.caches.keys.insert table columns } }
        refine ⟨s', hrun, hbackend, htypes, fun other => ?_⟩
        rw [hkept, Assoc.get?_insert]
        by_cases hother : other = table
        · subst hother
          exact .inr ⟨hkeys, columns, if_pos rfl, hreply⟩
        · exact .inl (if_neg hother)

end BlockingRepository

/-- A backend as it is seen by operations that are run in some way: once their signal is set, no
statement is run. -/
def Backend.through (b : Backend σ τ) : Access → Backend σ τ
  | .blocking => b
  | .async cancelled => b.async.observed cancelled

/-- Unless their signal is set, operations see the backend itself. -/
theorem Backend.through_of_ne (b : Backend σ τ) {a : Access} (h : a ≠ .async true) :
    b.through a = b := by
  cases a with
  | blocking => rfl
  | async cancelled =>
    cases cancelled with
    | false => rfl
    | true => exact absurd rfl h

/-- A signal does not change how key columns are reported. -/
@[simp]
theorem Backend.keyColumns_through (b : Backend σ τ) (a : Access) :
    (b.through a).keyColumns = b.keyColumns := by
  cases a <;> rfl

/-- A signal does not change the dialect. -/
@[simp]
theorem Backend.dialect_through (b : Backend σ τ) (a : Access) :
    (b.through a).dialect = b.dialect := by
  cases a <;> rfl

namespace Repository

/-- The planner of a repository's operations. -/
def planner (r : Repository σ τ) : Planner :=
  r.options.planner r.backend.dialect

/-- The operations of a repository are those of a blocking one over the backend as they see it. -/
theorem call_eq (r : Repository σ τ) (c : Call τ α) :
    r.call c =
      BlockingRepository.call { backend := r.backend.through r.access, options := r.options } c := by
  unfold call
  cases r.access with
  | blocking => rfl
  | async cancelled => exact AsyncRepository.call_eq _ c

/-- An operation has the effect of its call on the database as it sees it, and what is remembered only
grows. -/
theorem perform_call (r : Repository σ τ) (hquiet : r.backend.Quiet) (c : Call τ α) (s : Session σ) :
    ((r.call c).perform s).1 =
        ((c.effect r.planner (r.backend.through r.access) s.caches).run s.backend).1 ∧
      ((r.call c).perform s).2.backend =
        ((c.effect r.planner (r.backend.through r.access) s.caches).run s.backend).2 ∧
      s.caches.Grows r.backend s.backend ((r.call c).perform s).2.caches := by
  let blocking : BlockingRepository σ τ :=
    { backend := r.backend.through r.access, options := r.options }
  have hplanner : blocking.planner = r.planner := by
    simp [blocking, BlockingRepository.planner, planner]
  have hquiet' : blocking.backend.Quiet := by
    intro table x
    simpa [blocking] using hquiet table x
  obtain ⟨s', hrun, hbackend, hgrows⟩ := blocking.run_call hquiet' c { s with stages := [.requested] }
  rw [hplanner] at hrun hbackend
  rw [call_eq, Action.perform_eq, hrun]
  refine ⟨rfl, hbackend, hgrows.types, fun table => ?_⟩
  simpa [blocking] using hgrows.keys table

end Repository

/-! ### Caches that have grown -/

namespace Call

variable {b : Backend σ τ} {x : σ} {old new : Caches}

/-- The key columns that a call goes by are the same when the caches have grown before. -/
theorem settleKeys_of_grows (c : Call τ α) (p : Planner) (h : old.Grows b x new) :
    (c.settleKeys p b old.keys).run x = (c.settleKeys p b new.keys).run x := by
  cases htable : c.keyTable? p with
  | none => rw [c.settleKeys_of_none p b htable, c.settleKeys_of_none p b htable]
  | some table =>
    rcases h.keys table with hsame | ⟨hnone, columns, hsome, hreply⟩
    · unfold settleKeys
      rw [htable]
      dsimp only
      rw [hsame]
    · -- what is remembered now is what would have been reported
      rw [c.settleKeys_of_unknown p b htable hnone, c.settleKeys_of_known p b htable hsome]
      exact hreply

/-- The effect of a call is the same when the caches have grown before. -/
theorem effect_of_grows (c : Call τ α) (p : Planner) (h : old.Grows b x new) :
    (c.effect p b old).run x = (c.effect p b new).run x := by
  rw [c.run_effect, c.run_effect, c.settleKeys_of_grows p h]
  simp only [c.runPlan_of_agree p h.types]

end Call

end FilterSql
