import FilterSql.Proofs.Operations

/-!
# Remembering key columns

A repository that remembers key columns is compared with one that asks again whenever it has to know.
As long as the database reports the same for a table each time, both go by the same key columns. So
they run the same statements, whatever the database answers, and make the same of the same answer. That
the answers are the same can only be said of a database that does not let show how often it was asked
for key columns; there, every operation comes to the same.

## Main definitions

* `Backend.ReportsFixed`: the key columns of each table are reported alike each time;
* `Backend.Overlooks`: asking for key columns does not show in the answers to statements;
* `Use`, `Use.blocking`, `Use.async`: a call through a handle, and its operation on a recording
  database;
* `Use.blockingAsking`, `Use.asyncAsking`: the same without remembering key columns;
* `Call.Turns`: what a call comes to where the key columns are reported as they are;
* `KeysUnnoticed`: a repository that remembers key columns keeps up with one that does not;
* `ComesAlike`: a call comes to the same on both.

## Main results

* `BlockingRepository.runs_callBy`: a call goes by the key columns that are reported, whether these are
  remembered or asked for;
* `Use.keysUnnoticed_after`: remembering is not noticed in any sequence of calls, on blocking
  repositories and on the handles of asynchronous ones;
* `Use.keysNoticed_counting`: a database that counts the questions can answer differently.
-/

namespace FilterSql

variable {σ τ α : Type}

/-- The statement that was run, with its transaction. -/
def Event.sent? (event : Event τ) : Option (Statement × Option τ) :=
  event.fetch?.map fun (st, tx, _) => (st, tx)

/-- What was sent is what was run, but for the answers. -/
theorem Event.filterMap_sent? (events : List (Event τ)) :
    events.filterMap Event.sent? =
      (events.filterMap Event.fetch?).map fun (st, tx, _) => (st, tx) := by
  rw [List.map_filterMap]
  rfl

/-! ### Databases that report the same each time -/

/-- The key columns of each table are reported as `reply` says each time that they are asked for. The
database does not leave the states that `S` holds of. -/
structure Backend.ReportsFixed (S : σ → Prop) (b : Backend σ τ)
    (reply : TableName → Except ExecutionError (List String)) : Prop where
  /-- Running a statement keeps to these states. -/
  fetch : ∀ ⦃x⦄, S x → ∀ st tx, S ((b.fetch st tx).run x).2
  /-- Asking for key columns keeps to these states. -/
  lookup : ∀ ⦃x⦄, S x → ∀ table, S ((b.keyColumns table).run x).2
  /-- In each of them, the same is reported. -/
  reported : ∀ ⦃x⦄, S x → ∀ table, ((b.keyColumns table).run x).1 = reply table

/-- Asking for key columns does not show in the answers to statements. States that answer statements
alike are related by `R`. -/
structure Backend.Overlooks (R : σ → σ → Prop) (b : Backend σ τ) : Prop where
  /-- Statements are answered alike, also the ones to come. -/
  fetch : ∀ ⦃x y⦄, R x y → ∀ st tx, ((b.fetch st tx).run x).1 = ((b.fetch st tx).run y).1 ∧
    R ((b.fetch st tx).run x).2 ((b.fetch st tx).run y).2
  /-- Statements are answered alike whether or not key columns were asked for before. -/
  unseen : ∀ ⦃x y⦄, R x y → ∀ table,
    R ((b.keyColumns table).run x).2 y ∧ R x ((b.keyColumns table).run y).2

/-- Where a database is that was asked for key columns at most once. -/
inductive Backend.Drifts (b : Backend σ τ) (x : σ) : σ → Prop
  /-- It was not asked. -/
  | still : Drifts b x x
  /-- It was asked for the key columns of a table. -/
  | asked (table : TableName) : Drifts b x ((b.keyColumns table).run x).2

section

variable {S : σ → Prop} {R : σ → σ → Prop} {b : Backend σ τ}
  {reply : TableName → Except ExecutionError (List String)}

/-- Where asking for key columns does not show, it does not matter which database was asked. -/
theorem Backend.Overlooks.drifts (h : b.Overlooks R) {x x' y y' : σ} (hR : R x y)
    (hx : b.Drifts x x') (hy : b.Drifts y y') : R x' y' := by
  have hleft : R x' y := by
    cases hx with
    | still => exact hR
    | asked table => exact (h.unseen hR table).1
  cases hy with
  | still => exact hleft
  | asked table => exact (h.unseen hleft table).2

/-- What is reported stays fixed behind a cancellation signal. -/
theorem Backend.ReportsFixed.async (h : b.ReportsFixed S reply) (cancelled : Bool) :
    (b.async.observed cancelled).ReportsFixed S reply where
  fetch x hx st tx := by
    cases cancelled with
    | false => exact h.fetch hx st tx
    | true => exact hx
  lookup := h.lookup
  reported := h.reported

/-- What does not show does not show behind a cancellation signal. -/
theorem Backend.Overlooks.async (h : b.Overlooks R) (cancelled : Bool) :
    (b.async.observed cancelled).Overlooks R where
  fetch x y hR st tx := by
    cases cancelled with
    | false => exact h.fetch hR st tx
    | true => exact ⟨rfl, hR⟩
  unseen := h.unseen

/-- A scripted backend reports the key columns that it describes. -/
theorem Scripted.reportsFixed (d : Dialect) (keys : Assoc String (List String)) :
    (Scripted.backend d (some keys)).ReportsFixed (fun _ => True)
      fun table => .ok ((keys.get? table.display).getD []) where
  fetch _ _ _ _ := trivial
  lookup _ _ _ := trivial
  reported _ _ _ := rfl

/-- A scripted backend plays back its replies to statements no matter what else it is asked. -/
theorem Scripted.overlooks (d : Dialect) (keys : Assoc String (List String)) :
    (Scripted.backend d (some keys)).Overlooks (fun x y => x.replies = y.replies) where
  fetch := by
    rintro ⟨_ | ⟨reply, replies⟩, _, _⟩ ⟨_, _, _⟩ rfl st tx <;> exact ⟨rfl, rfl⟩
  unseen _ _ h _ := ⟨h, h⟩

end

/-! ### Sessions that were told the same -/

section

variable (b : Backend σ τ) (S : σ → Prop)
  (reply : TableName → Except ExecutionError (List String))

/-- A session in which nothing is known about key columns but what `reply` says. -/
structure Session.Told (s : Session (Recording σ τ)) : Prop where
  /-- The database is in one of the states that it keeps to. -/
  state : S s.backend.state
  /-- All questions about key columns were answered as `reply` says. -/
  replied : ∀ table r, .lookup table r ∈ s.backend.events → r = reply table
  /-- What is remembered was reported. -/
  known : ∀ table keys, s.caches.keys.get? table = some keys → reply table = .ok keys

/-- What looking for key columns in the session `s` leaves. -/
structure Session.Looked (s s' : Session (Recording σ τ)) : Prop where
  /-- Nothing else was told. -/
  told : s'.Told S reply
  /-- The database was asked once, or not at all. -/
  drifts : b.Drifts s.backend.state s'.backend.state
  /-- No types were resolved. -/
  types : s'.caches.types = s.caches.types
  /-- No statement was run. -/
  events : ∃ lookups, s'.backend.events = s.backend.events ++ lookups ∧
    lookups.filterMap Event.fetch? = []

/-- Looking for the key columns of a table comes to what `reply` says, in every session that was told
nothing else. -/
def Backend.Tells (lookup : TableName → Action (Recording σ τ) (List String)) : Prop :=
  ∀ table ⦃s : Session (Recording σ τ)⦄, s.Told S reply → ∃ s',
    (lookup table).run.run s = ((reply table).mapError .execution, s') ∧ s.Looked b S reply s'

end

namespace Backend.ReportsFixed

variable {S : σ → Prop} {b : Backend σ τ} {reply : TableName → Except ExecutionError (List String)}

/-- A question that is answered as `reply` says tells nothing else. -/
theorem looked (h : b.ReportsFixed S reply) {s : Session (Recording σ τ)} (hs : s.Told S reply)
    (table : TableName) {keys : Assoc TableName (List String)}
    (hkeys : ∀ table keys', keys.get? table = some keys' → reply table = .ok keys') :
    s.Looked b S reply { s with
      backend := ((b.recorded.keyColumns table).run s.backend).2
      caches := { s.caches with keys } } where
  told := {
    state := h.lookup hs.state table
    replied := by
      intro asked r hmem
      rw [run_keyColumns_recorded, h.reported hs.state table, List.mem_append,
        List.mem_singleton] at hmem
      rcases hmem with hmem | hmem
      · exact hs.replied asked r hmem
      · cases hmem
        rfl
    known := hkeys }
  drifts := .asked table
  types := rfl
  events := ⟨_, rfl, rfl⟩

/-- A recording database reports what the database reports. -/
theorem run_keyColumns (h : b.ReportsFixed S reply) {r : Recording σ τ} (hr : S r.state)
    (table : TableName) :
    (b.recorded.keyColumns table).run r = (reply table, ((b.recorded.keyColumns table).run r).2) :=
  Prod.ext (h.reported hr table) rfl

/-- Asking the database tells what it reports. -/
theorem tells_ask (h : b.ReportsFixed S reply) :
    b.Tells S reply fun table => .ask (b.recorded.keyColumns table) := by
  intro table s hs
  refine ⟨_, ?_, h.looked hs table hs.known⟩
  rw [Action.run_ask, h.run_keyColumns hs.state]

/-- So does looking at what is remembered, and asking for the rest. -/
theorem tells_keyColumns (h : b.ReportsFixed S reply) (o : RepositoryOptions) :
    b.Tells S reply (BlockingRepository.keyColumns { backend := b.recorded, options := o }) := by
  intro table s hs
  have hrecorded := h.run_keyColumns hs.state table
  cases hremembered : s.caches.keys.get? table with
  | some known =>
    -- what is remembered was reported, and would be reported again
    rw [BlockingRepository.run_keyColumns_of_known _ hremembered, hs.known table known hremembered]
    exact ⟨s, rfl, hs, .still, rfl, [], (List.append_nil _).symm, rfl⟩
  | none =>
    cases hreply : reply table with
    | error fault =>
      -- nothing is remembered of a question that failed
      rw [hreply] at hrecorded
      rw [BlockingRepository.run_keyColumns_of_error _ hremembered hrecorded]
      exact ⟨_, rfl, h.looked hs table hs.known⟩
    | ok columns =>
      rw [hreply] at hrecorded
      rw [BlockingRepository.run_keyColumns_of_ok _ hremembered hrecorded]
      refine ⟨_, rfl, h.looked hs table ?_⟩
      intro asked keys hkeys
      rw [Assoc.get?_insert] at hkeys
      split at hkeys
      · rename_i htable
        rw [htable, hreply, Option.some.inj hkeys]
      · exact hs.known asked keys hkeys

end Backend.ReportsFixed

/-! ### What a call comes to -/

namespace Call

/-- The key columns that a call goes by where those of each table are reported as `reply` says. -/
def told (c : Call τ α) (p : Planner) (reply : TableName → Except ExecutionError (List String)) :
    Except ExecutionError (List String) :=
  match c.keyTable? p with
  | none => .ok []
  | some table => reply table

/-- The statement that a call is planned to where key columns are reported as `reply` says, with those
that it goes by, or why there is none. -/
def planTold (c : Call τ α) (p : Planner) (reply : TableName → Except ExecutionError (List String))
    (types : TypeChain) : Except QueryError (List String × Statement) :=
  (c.told p reply).mapError .execution >>= fun reported =>
    (c.plan p types reported).map fun st => (reported, st)

/-- What a call comes to on a database in the state `x`, where key columns are reported as `reply`
says: its result, the statement that is run with its answer, and the state that is left. -/
def turn (c : Call τ α) (p : Planner) (b : Backend σ τ)
    (reply : TableName → Except ExecutionError (List String)) (types : TypeChain) (x : σ) :
    Except QueryError α × List (Statement × Option τ × Except ExecutionError (List Record)) × σ :=
  match c.planTold p reply types with
  | .error e => (.error e, [], x)
  | .ok (reported, st) =>
    let (answer, y) := (b.fetch st c.transaction).run x
    (answer.mapError .execution >>= c.read p types reported, [(st, c.transaction, answer)], y)

section

variable (c : Call τ α) (p : Planner) (b : Backend σ τ)
  (reply : TableName → Except ExecutionError (List String)) {types types' : TypeChain} {x x' : σ}

/-- Where the key columns are told, a call is planned by them. -/
theorem planTold_of_told {reported : List String} (h : c.told p reply = .ok reported)
    {plan : Except QueryError Statement} (hplan : c.plan p types reported = plan) :
    c.planTold p reply types = plan.map fun st => (reported, st) := by
  rw [planTold, h, ← hplan]
  rfl

/-- A call that is refused leaves the database as it is. -/
theorem turn_of_error {e : QueryError} (h : c.planTold p reply types = .error e) :
    c.turn p b reply types x = (.error e, [], x) := by
  rw [turn, h]

/-- A call that is planned to a statement runs it and reads its rows. -/
theorem turn_of_ok {reported : List String} {st : Statement}
    (h : c.planTold p reply types = .ok (reported, st)) :
    c.turn p b reply types x =
      (((b.fetch st c.transaction).run x).1.mapError .execution >>= c.read p types reported,
        [(st, c.transaction, ((b.fetch st c.transaction).run x).1)],
        ((b.fetch st c.transaction).run x).2) := by
  rw [turn, h]
  rfl

/-- A statement that is planned is run, and what comes of it is read. -/
theorem runPlan_eq_bind {reported : List String} {st : Statement}
    (h : c.plan p types reported = .ok st) :
    (c.runPlan p b types reported).run x =
      (((b.fetch st c.transaction).run x).1.mapError .execution >>= c.read p types reported,
        ((b.fetch st c.transaction).run x).2) := by
  rw [c.runPlan_of_ok p b types reported x h]
  rcases (b.fetch st c.transaction).run x with ⟨fault | rows, y⟩ <;> rfl

/-- A call comes to the same under chains that give the same answers. -/
theorem turn_of_agree (h : types.Agree types') :
    c.turn p b reply types x = c.turn p b reply types' x := by
  have hplan : c.planTold p reply types = c.planTold p reply types' := by
    simp only [planTold, c.plan_of_agree p h]
  have hread : c.read p types = c.read p types' := by
    ext reported rows
    rw [c.read_of_agree p h]
  rw [turn, turn, hplan, hread]

variable (types) in
/-- Which statement is run does not depend on the state of the database, and the result depends on the
answer to this statement only. -/
theorem turn_same (x x' : σ) :
    let out := c.turn p b reply types x
    let out' := c.turn p b reply types x'
    (out.2.1.map fun (st, tx, _) => (st, tx)) = (out'.2.1.map fun (st, tx, _) => (st, tx)) ∧
      (out.2.1 = out'.2.1 → out.1 = out'.1) := by
  cases hplan : c.planTold p reply types with
  | error e =>
    rw [c.turn_of_error p b reply hplan, c.turn_of_error p b reply hplan]
    exact ⟨rfl, fun _ => rfl⟩
  | ok planned =>
    rw [c.turn_of_ok p b reply hplan, c.turn_of_ok p b reply hplan]
    refine ⟨rfl, fun hanswered => ?_⟩
    simp only [List.cons.injEq, Prod.mk.injEq, true_and, and_true] at hanswered
    simp only [hanswered]

variable (types) in
/-- In states that answer statements alike, a call comes to the same. -/
theorem turn_alike {R : σ → σ → Prop} (hb : b.Overlooks R) (hR : R x x') :
    let out := c.turn p b reply types x
    let out' := c.turn p b reply types x'
    out.1 = out'.1 ∧ out.2.1 = out'.2.1 ∧ R out.2.2 out'.2.2 := by
  cases hplan : c.planTold p reply types with
  | error e =>
    rw [c.turn_of_error p b reply hplan, c.turn_of_error p b reply hplan]
    exact ⟨rfl, rfl, hR⟩
  | ok planned =>
    obtain ⟨hanswer, hstate⟩ := hb.fetch hR planned.2 c.transaction
    rw [c.turn_of_ok p b reply hplan, c.turn_of_ok p b reply hplan, hanswer]
    exact ⟨rfl, rfl, hstate⟩

end

/-- What a run of a call in the session `s` leaves, with its result and what is asked meanwhile. -/
structure Runs (c : Call τ α) (p : Planner) (b : Backend σ τ) (S : σ → Prop)
    (reply : TableName → Except ExecutionError (List String)) (s : Session (Recording σ τ))
    (result : Except QueryError α) (asked : List (Event τ)) (s' : Session (Recording σ τ)) : Prop where
  /-- The database was first asked for key columns, if at all, and the rest follows from its state. -/
  turn : ∃ x, b.Drifts s.backend.state x ∧
    c.turn p b reply s.caches.types x = (result, asked.filterMap Event.fetch?, s'.backend.state)
  /-- Nothing else was told. -/
  told : s'.Told S reply
  /-- The type chain gives the same answers. -/
  types : s.caches.types.Agree s'.caches.types
  /-- What is asked is written down. -/
  events : s'.backend.events = s.backend.events ++ asked

end Call

namespace BlockingRepository

variable {b : Backend σ τ} {S : σ → Prop} {reply : TableName → Except ExecutionError (List String)}

/-- Running a statement tells nothing about key columns. -/
theorem told_fetched (h : b.ReportsFixed S reply) {s s' : Session (Recording σ τ)}
    (hs : s.Told S reply) (st : Statement) (tx : Option τ)
    (hbackend : s'.backend = ((b.recorded.fetch st tx).run s.backend).2)
    (hkeys : s'.caches.keys = s.caches.keys) : s'.Told S reply where
  state := by
    rw [hbackend]
    exact h.fetch hs.state st tx
  replied table r hmem := by
    rw [hbackend, Backend.run_fetch_recorded, List.mem_append, List.mem_singleton] at hmem
    exact hs.replied table r (hmem.resolve_right nofun)
  known table keys hget := by
    rw [hkeys] at hget
    exact hs.known table keys hget

/-- Behind the lookup of its key columns, a call goes by them. -/
theorem runs_callBy_pure (h : b.ReportsFixed S reply) (o : RepositoryOptions) {c : Call τ α}
    {reported : List String} (htold : c.told (o.planner b.dialect) reply = .ok reported)
    {s s₁ : Session (Recording σ τ)} (hlooked : s.Looked b S reply s₁) :
    ∃ result asked s', (callBy { backend := b.recorded, options := o } (fun _ => pure reported)
        c).run.run s₁ = (result, s') ∧
      c.Runs (o.planner b.dialect) b S reply s result asked s' := by
  have hnothing : c.keyTable? (o.planner b.dialect) = none → reported = [] := by
    intro hnone
    rw [Call.told, hnone] at htold
    exact (Except.ok.inj htold).symm
  obtain ⟨s', hrun, hbackend, hkeys, htypes⟩ :=
    run_callBy_pure { backend := b.recorded, options := o } c reported hnothing s₁
  have hplanner : planner { backend := b.recorded, options := o } = o.planner b.dialect := rfl
  rw [hplanner, hlooked.types] at hrun hbackend
  rw [hlooked.types] at htypes
  obtain ⟨lookups, hevents, hlookups⟩ := hlooked.events
  cases hplan : c.plan (o.planner b.dialect) s.caches.types reported with
  | error e =>
    -- the request is refused, and the database is as the lookup left it
    have hplanned := c.planTold_of_told _ _ htold hplan
    rw [c.runPlan_of_error _ _ _ _ _ hplan] at hrun hbackend
    refine ⟨_, lookups, s', hrun, ⟨_, hlooked.drifts, ?_⟩, ?_, htypes, ?_⟩
    · rw [c.turn_of_error _ _ _ hplanned, hlookups, hbackend]
    · exact ⟨hbackend ▸ hlooked.told.state, hbackend ▸ hlooked.told.replied,
        hkeys ▸ hlooked.told.known⟩
    · rw [hbackend, hevents]
  | ok st =>
    -- the statement is run where the lookup left the database
    have hplanned := c.planTold_of_told _ _ htold hplan
    rw [c.runPlan_eq_bind _ _ hplan] at hrun hbackend
    let answer := ((b.fetch st c.transaction).run s₁.backend.state).1
    refine ⟨_, lookups ++ [.fetch st c.transaction answer], s', hrun, ⟨_, hlooked.drifts, ?_⟩, ?_,
      htypes, ?_⟩
    · rw [c.turn_of_ok _ _ _ hplanned, List.filterMap_append, hlookups, hbackend]
      rfl
    · exact told_fetched h hlooked.told st c.transaction hbackend hkeys
    · rw [hbackend, Backend.run_fetch_recorded, hevents, List.append_assoc]

/-- A call whose lookup tells the key columns goes by what is reported, whether it asks the database or
looks at what is remembered. -/
theorem runs_callBy (h : b.ReportsFixed S reply) (o : RepositoryOptions)
    {lookup : TableName → Action (Recording σ τ) (List String)} (hlookup : b.Tells S reply lookup)
    (c : Call τ α) {s : Session (Recording σ τ)} (hs : s.Told S reply) :
    ∃ result asked s',
      (callBy { backend := b.recorded, options := o } lookup c).run.run s = (result, s') ∧
      c.Runs (o.planner b.dialect) b S reply s result asked s' := by
  let r : BlockingRepository (Recording σ τ) τ := { backend := b.recorded, options := o }
  cases htable : c.keyTable? (o.planner b.dialect) with
  | none =>
    have htold : c.told (o.planner b.dialect) reply = .ok [] := by rw [Call.told, htable]
    rw [callBy_of_keyTable?_eq_none r htable _ fun _ => pure []]
    exact runs_callBy_pure h o htold ⟨hs, .still, rfl, [], (List.append_nil _).symm, rfl⟩
  | some table =>
    -- the lookup comes first, and the call goes by what it told
    have htold : c.told (o.planner b.dialect) reply = reply table := by rw [Call.told, htable]
    obtain ⟨s₁, hrun, hlooked⟩ := hlookup table hs
    rw [callBy_of_keyTable?_eq_some r htable]
    cases hreply : reply table with
    | ok reported =>
      rw [hreply] at hrun htold
      rw [Action.run_bind_ok hrun]
      exact runs_callBy_pure h o htold hlooked
    | error fault =>
      -- without key columns, nothing is planned
      rw [hreply] at hrun htold
      rw [Action.run_bind_error hrun]
      obtain ⟨lookups, hevents, hlookups⟩ := hlooked.events
      refine ⟨_, lookups, s₁, rfl, ⟨_, hlooked.drifts, ?_⟩, hlooked.told, ?_, hevents⟩
      · have hplanned : c.planTold (o.planner b.dialect) reply s.caches.types =
            .error (.execution fault) := by
          rw [Call.planTold, htold]
          rfl
        rw [c.turn_of_error _ _ _ hplanned, hlookups]
      · rw [hlooked.types]
        exact .rfl

end BlockingRepository

/-! ### Calls through handles -/

/-- A call that is made through a handle of a repository. -/
structure Use (τ : Type) where
  /-- The policies of the handle. -/
  options : RepositoryOptions := {}
  /-- Whether the signal of the handle is set; blocking repositories have none. -/
  cancelled : Bool := false
  /-- The type of what the call returns. -/
  {Result : Type}
  /-- The call. -/
  call : Call τ Result

namespace Use

/-- The operation on a blocking repository. -/
def blocking (b : Backend σ τ) (u : Use τ) : Action (Recording σ τ) u.Result :=
  BlockingRepository.call { backend := b.recorded, options := u.options } u.call

/-- The operation on a blocking repository that asks for key columns each time it has to know. -/
def blockingAsking (b : Backend σ τ) (u : Use τ) : Action (Recording σ τ) u.Result :=
  BlockingRepository.callBy { backend := b.recorded, options := u.options }
    (fun table => Action.ask (b.recorded.keyColumns table)) u.call

/-- The operation on an asynchronous repository. -/
def async (a : AsyncBackend σ τ) (u : Use τ) : Action (Recording σ τ) u.Result :=
  AsyncRepository.call { backend := a.recorded, options := u.options, cancelled := u.cancelled }
    u.call

/-- The operation on an asynchronous repository that asks for key columns each time it has to
know. -/
def asyncAsking (a : AsyncBackend σ τ) (u : Use τ) : Action (Recording σ τ) u.Result :=
  AsyncRepository.callBy { backend := a.recorded, options := u.options, cancelled := u.cancelled }
    (fun table => Action.ask (a.recorded.keyColumns table)) u.call

/-- An asynchronous repository does what a blocking one does over the backend as its signal lets it
be seen. -/
theorem async_eq (a : AsyncBackend σ τ) (u : Use τ) :
    u.async a = u.blocking (a.observed u.cancelled) := by
  rw [async, AsyncRepository.call_eq]
  rfl

/-- So does one that asks each time. -/
theorem asyncAsking_eq (a : AsyncBackend σ τ) (u : Use τ) :
    u.asyncAsking a = u.blockingAsking (a.observed u.cancelled) := by
  obtain ⟨options, cancelled, call⟩ := u
  cases call <;> rfl

/-- The session that calls leave when they are made one after another. -/
def after (operation : ∀ u : Use τ, Action σ u.Result) (uses : List (Use τ)) (s : Session σ) :
    Session σ :=
  uses.foldl (fun s u => ((operation u).perform s).2) s

end Use

/-! ### Sequences of calls -/

namespace Use

variable {b : Use τ → Backend σ τ} {S : σ → Prop}
  {reply : TableName → Except ExecutionError (List String)}

/-- What an action asks, if it is written down behind what was asked before. -/
theorem asked_eq {m : Action (Recording σ τ) α} {s : Session (Recording σ τ)}
    {asked : List (Event τ)} (h : (m.perform s).2.backend.events = s.backend.events ++ asked) :
    m.asked s = asked := by
  rw [Action.asked, h, List.drop_left]

/-- What a call asks is written down behind what was asked before, and key columns are remembered
accordingly. -/
theorem asks_blocking (b : Backend σ τ) (u : Use τ) (s : Session (Recording σ τ)) :
    ((u.blocking b).perform s).2.backend.events = s.backend.events ++ (u.blocking b).asked s ∧
      u.call.Asks (u.options.planner b.dialect) s.caches.keys
        (((u.blocking b).asked s).filterMap Event.lookup?)
        ((u.blocking b).perform s).2.caches.keys := by
  obtain ⟨asked, hevents, hasks⟩ := BlockingRepository.asks_call b u.options u.call
    { s with stages := [.requested] }
  have hasked : (u.blocking b).asked s = asked := asked_eq hevents
  rw [hasked]
  exact ⟨hevents, hasks⟩

/-- In any sequence of calls, what is remembered for a table is what was reported for it. -/
theorem kept_after (b : Use τ → Backend σ τ) (uses : List (Use τ)) {s : Session (Recording σ τ)}
    (hs : ∀ table,
      s.backend.events.filterMap (Event.report? table) = (s.caches.keys.get? table).toList)
    (table : TableName) :
    let s' := after (fun u => u.blocking (b u)) uses s
    s'.backend.events.filterMap (Event.report? table) = (s'.caches.keys.get? table).toList := by
  induction uses generalizing s with
  | nil => exact hs table
  | cons u uses ih =>
    -- one call adds the same reports to the log and to what is remembered
    refine ih fun table => ?_
    obtain ⟨hevents, hasks⟩ := u.asks_blocking (b u) s
    rw [hevents, List.filterMap_append, hs table, hasks.toList_get? table]

end Use

/-! ### With and without remembering -/

namespace Use

variable {b : Use τ → Backend σ τ} {S : σ → Prop} {R : σ → σ → Prop}
  {reply : TableName → Except ExecutionError (List String)}
  {operation asking : ∀ u : Use τ, Action (Recording σ τ) u.Result}

/-- The operations of calls go by the key columns that are reported. -/
def GoesBy (b : Use τ → Backend σ τ) (S : σ → Prop)
    (reply : TableName → Except ExecutionError (List String))
    (operation : ∀ u : Use τ, Action (Recording σ τ) u.Result) : Prop :=
  ∀ (u : Use τ) ⦃s : Session (Recording σ τ)⦄, s.Told S reply →
    u.call.Runs (u.options.planner (b u).dialect) (b u) S reply s ((operation u).perform s).1
      ((operation u).asked s) ((operation u).perform s).2

/-- Whole operations go by the key columns that their lookup tells. -/
theorem goesBy_callBy (h : ∀ u, (b u).ReportsFixed S reply)
    {lookup : Use τ → TableName → Action (Recording σ τ) (List String)}
    (hlookup : ∀ u, (b u).Tells S reply (lookup u)) :
    GoesBy b S reply fun u =>
      BlockingRepository.callBy { backend := (b u).recorded, options := u.options } (lookup u)
        u.call := by
  intro u s hs
  obtain ⟨result, asked, s', hrun, hturn, htold, htypes, hevents⟩ :=
    BlockingRepository.runs_callBy (h u) u.options (hlookup u) u.call
      (s := { s with stages := [.requested] }) ⟨hs.state, hs.replied, hs.known⟩
  have hperform := Action.perform_eq (BlockingRepository.callBy
    { backend := (b u).recorded, options := u.options } (lookup u) u.call) s
  rw [hrun] at hperform
  have hasked : (BlockingRepository.callBy { backend := (b u).recorded, options := u.options }
      (lookup u) u.call).asked s = asked := asked_eq (by rw [hperform]; exact hevents)
  rw [hasked, hperform]
  exact ⟨hturn, ⟨htold.state, htold.replied, htold.known⟩, htypes, hevents⟩

/-- A repository that remembers key columns goes by those that are reported. -/
theorem goesBy_blocking (h : ∀ u, (b u).ReportsFixed S reply) :
    GoesBy b S reply fun u => u.blocking (b u) := by
  have hgoes := goesBy_callBy h fun u => (h u).tells_keyColumns u.options
  -- looking at what is remembered is what a call does by itself
  simp only [← BlockingRepository.call_eq_callBy] at hgoes
  exact hgoes

/-- So does one that asks each time. -/
theorem goesBy_blockingAsking (h : ∀ u, (b u).ReportsFixed S reply) :
    GoesBy b S reply fun u => u.blockingAsking (b u) :=
  goesBy_callBy h fun u => (h u).tells_ask

end Use

/-- Two sessions that were told the same about key columns, and whose type chains give the same
answers. -/
structure Session.Paired (S : σ → Prop) (reply : TableName → Except ExecutionError (List String))
    (s s' : Session (Recording σ τ)) : Prop where
  /-- The first was told nothing else. -/
  told : s.Told S reply
  /-- Nor was the second. -/
  told' : s'.Told S reply
  /-- Types are resolved alike. -/
  types : s.caches.types.Agree s'.caches.types

namespace Use

variable {b : Use τ → Backend σ τ} {S : σ → Prop} {R : σ → σ → Prop}
  {reply : TableName → Except ExecutionError (List String)}
  {operation asking : ∀ u : Use τ, Action (Recording σ τ) u.Result}
  {s s' : Session (Recording σ τ)}

section

variable (hoperation : GoesBy b S reply operation) (hasking : GoesBy b S reply asking)

include hoperation hasking

/-- Calls leave sessions that were told the same. -/
theorem paired_after (uses : List (Use τ)) (hs : s.Paired S reply s') :
    (after operation uses s).Paired S reply (after asking uses s') := by
  induction uses generalizing s s' with
  | nil => exact hs
  | cons u uses ih =>
    have hruns := hoperation u hs.told
    have hruns' := hasking u hs.told'
    apply ih
    exact ⟨hruns.told, hruns'.told, hruns.types.symm.trans (hs.types.trans hruns'.types)⟩

/-- The next call runs the same statement in both sessions, and comes to the same if the answer is the
same. -/
theorem same_of_paired (hs : s.Paired S reply s') (u : Use τ) :
    ((operation u).asked s).filterMap Event.sent? =
        ((asking u).asked s').filterMap Event.sent? ∧
      (((operation u).asked s).filterMap Event.fetch? =
          ((asking u).asked s').filterMap Event.fetch? →
        ((operation u).perform s).1 = ((asking u).perform s').1) := by
  obtain ⟨x, -, hturn⟩ := (hoperation u hs.told).turn
  obtain ⟨x', -, hturn'⟩ := (hasking u hs.told').turn
  have hsame := u.call.turn_same (u.options.planner (b u).dialect) (b u) reply
    s.caches.types x x'
  rw [u.call.turn_of_agree _ _ _ hs.types (x := x'), hturn, hturn'] at hsame
  rw [Event.filterMap_sent?, Event.filterMap_sent?]
  exact hsame

variable (hb : ∀ u, (b u).Overlooks R)

include hb

/-- Where asking for key columns does not show, the next call comes to the same in sessions whose
databases answer statements alike, and leaves such sessions. -/
theorem alike_of_paired (hs : s.Paired S reply s') (hR : R s.backend.state s'.backend.state)
    (u : Use τ) :
    ((operation u).perform s).1 = ((asking u).perform s').1 ∧
      ((operation u).asked s).filterMap Event.fetch? =
        ((asking u).asked s').filterMap Event.fetch? ∧
      R ((operation u).perform s).2.backend.state ((asking u).perform s').2.backend.state := by
  obtain ⟨x, hx, hturn⟩ := (hoperation u hs.told).turn
  obtain ⟨x', hx', hturn'⟩ := (hasking u hs.told').turn
  have halike := u.call.turn_alike (u.options.planner (b u).dialect) (b u) reply
    s.caches.types (hb u) ((hb u).drifts hR hx hx')
  rw [u.call.turn_of_agree _ _ _ hs.types (x := x'), hturn, hturn'] at halike
  exact halike

/-- So it stays in any sequence of calls. -/
theorem related_after (uses : List (Use τ)) (hs : s.Paired S reply s')
    (hR : R s.backend.state s'.backend.state) :
    R (after operation uses s).backend.state (after asking uses s').backend.state := by
  induction uses generalizing s s' with
  | nil => exact hR
  | cons u uses ih =>
    apply ih
    · exact paired_after hoperation hasking [u] hs
    · exact (alike_of_paired hoperation hasking hb hs hR u).2.2

end

end Use

/-- A repository that remembers key columns keeps up with one that asks each time: `s` and `s'` are
the sessions that both have come to, and `u` is the call to be made next. -/
structure KeysUnnoticed (operation asking : ∀ u : Use τ, Action (Recording σ τ) u.Result)
    (reply : TableName → Except ExecutionError (List String)) (s s' : Session (Recording σ τ))
    (u : Use τ) : Prop where
  /-- The next call runs the same statement, if any, whatever the database has answered so far. -/
  sent : ((operation u).asked s).filterMap Event.sent? =
    ((asking u).asked s').filterMap Event.sent?
  /-- It comes to the same result, provided that the statement has the same answer. -/
  result : ((operation u).asked s).filterMap Event.fetch? =
      ((asking u).asked s').filterMap Event.fetch? →
    ((operation u).perform s).1 = ((asking u).perform s').1
  /-- So far, the database has answered all questions for key columns as `reply` says. -/
  replied : ∀ table r, .lookup table r ∈ s.backend.events → r = reply table
  /-- The key columns remembered for a table are those that were reported for it, which has happened
  once, or there are none of either. -/
  kept : ∀ table,
    s.backend.events.filterMap (Event.report? table) = (s.caches.keys.get? table).toList
  /-- When the next call cannot have key columns, what is remembered stays as it is. -/
  failed : ∀ table e, .lookup table (.error e) ∈ (operation u).asked s →
    ((operation u).perform s).2.caches.keys = s.caches.keys
  /-- The next call asks for key columns only if it merges into a table without declared keys. -/
  keyless : ∀ table r, .lookup table r ∈ (operation u).asked s →
    ∃ e, u.call.merged? = some e ∧ e.table = table ∧
      ∀ p ∈ e.properties, p.primary = false ∧ p.identity = false

/-- The next call comes to the same with and without remembering: to the same result, by the same
statement, if any, with the same answer. -/
structure ComesAlike (operation asking : ∀ u : Use τ, Action (Recording σ τ) u.Result)
    (s s' : Session (Recording σ τ)) (u : Use τ) : Prop where
  /-- The result is the same. -/
  result : ((operation u).perform s).1 = ((asking u).perform s').1
  /-- The same statement is run, with the same answer. -/
  sent : ((operation u).asked s).filterMap Event.fetch? =
    ((asking u).asked s').filterMap Event.fetch?

namespace Use

variable {S : σ → Prop} {reply : TableName → Except ExecutionError (List String)}

/-- A repository that remembers key columns keeps up with one that asks each time, whatever calls
were made before, and whatever handle each was made through. -/
theorem keysUnnoticed_blocking {b : Use τ → Backend σ τ} (h : ∀ u, (b u).ReportsFixed S reply)
    (types : TypeChain) {x : σ} (hx : S x) (uses : List (Use τ)) (u : Use τ) :
    let s : Session (Recording σ τ) := { backend := { state := x }, caches := { types } }
    let s₁ := after (fun u => u.blocking (b u)) uses s
    let s₂ := after (fun u => u.blockingAsking (b u)) uses s
    KeysUnnoticed (fun u => u.blocking (b u)) (fun u => u.blockingAsking (b u)) reply s₁ s₂ u ∧
      ∀ R : σ → σ → Prop, (∀ u, (b u).Overlooks R) → R x x →
        ComesAlike (fun u => u.blocking (b u)) (fun u => u.blockingAsking (b u)) s₁ s₂ u := by
  intro s s₁ s₂
  have hs : s.Told S reply := ⟨hx, by simp [s], by simp [s]⟩
  have hblocking := goesBy_blocking h
  have hasking := goesBy_blockingAsking h
  have hpaired : s₁.Paired S reply s₂ := paired_after hblocking hasking uses ⟨hs, hs, .rfl⟩
  have hkept := kept_after b uses (s := s) fun _ => rfl
  obtain ⟨hsent, hresult⟩ := same_of_paired hblocking hasking hpaired u
  obtain ⟨-, hasks⟩ := u.asks_blocking (b u) s₁
  refine ⟨?_, fun R hb hR => ?_⟩
  · exact {
      sent := hsent
      result := hresult
      replied := hpaired.told.replied
      kept := hkept
      failed := fun table e hmem => hasks.keys_eq_of_error (Event.mem_lookups_iff.2 hmem)
      keyless := fun table r hmem =>
        Call.exists_merged_of_keyTable? (hasks.keyTable?_eq_some (Event.mem_lookups_iff.2 hmem)) }
  · have hrelated := related_after hblocking hasking hb uses ⟨hs, hs, .rfl⟩ hR
    obtain ⟨hsame, hfetches, -⟩ := alike_of_paired hblocking hasking hb hpaired hrelated u
    exact ⟨hsame, hfetches⟩

/-- A database that counts the questions for key columns, and answers each statement with their
number. -/
def counting : Backend Nat String where
  dialect := .sqlite
  fetch _ _ := fun n => (.ok [⟨[("n", .int (.ofNat n))]⟩], n)
  keyColumns _ := fun n => (.ok ["Id"], n + 1)

/-- The proviso about the answers cannot be left out: a database that counts the questions reports the
same each time and is sent the same statements, but answers the second of two merges differently when
it was asked twice. -/
theorem keysNoticed_counting :
    let u : Use String := {
      call := .merge (Entity.ofTable { name := "item" }) ⟨[("Id", .int 7)]⟩ [] none }
    let s : Session (Recording Nat String) := { backend := { state := 0 }, caches := {} }
    counting.ReportsFixed (fun _ => True) (fun _ => .ok ["Id"]) ∧
      ((blocking counting u).perform (after (blocking counting) [u] s)).1 = .ok (.int 1) ∧
      ((blockingAsking counting u).perform (after (blockingAsking counting) [u] s)).1 =
        .ok (.int 2) := by
  intro u s
  refine ⟨⟨fun _ _ _ _ => trivial, fun _ _ _ => trivial, fun _ _ _ => rfl⟩, ?_, ?_⟩
  · rfl
  · rfl

end Use

end FilterSql
