import FilterSql.Proofs.Mirroring
import Mathlib.Data.List.Nodup

/-!
# The protocol of an operation

Every operation goes through its stages in one order, and leaves them by one of four ways: the key
columns cannot be had, the request is refused, the statement fails, or there are rows to read. What
the database is asked on the way is fixed by the way taken: key columns at most once, and the
statement exactly once, on entering the execution.

## Main definitions

* `Call.walk`: the stages that a call goes through when nothing goes wrong;
* `Call.Builds`: a statement is the one that is built for a call;
* `Call.Course`: the four ways of an operation, with its stages and its questions;
* `Call.Follows`: a result, stages and questions keep to the protocol.

## Main results

* `BlockingRepository.course_call`: every call takes one of the four ways;
* `Call.Course.follows`: each of these ways keeps to the protocol;
* `Call.follows_perform`: so do the operations of blocking and asynchronous repositories.
-/

namespace FilterSql

variable {σ τ α : Type}

namespace Stage

/-- The stage that an operation ends with is a last one. -/
theorem isTerminal_last {ε : Type} (r : Except ε α) : (last r).isTerminal = true := by
  cases r <;> rfl

/-- An operation ends as completed exactly when it has a result. -/
theorem completed_eq_last_iff {ε : Type} {r : Except ε α} :
    completed = last r ↔ ∃ v, r = .ok v := by
  cases r <;> simp [last]

/-- An operation ends as failed exactly when it has an error. -/
theorem failed_eq_last_iff {ε : Type} {r : Except ε α} : failed = last r ↔ ∃ e, r = .error e := by
  cases r <;> simp [last]

end Stage

namespace Event

/-- The statement that was run, with its transaction and the reply. -/
def fetch? : Event τ → Option (Statement × Option τ × Except ExecutionError (List Record))
  | fetch s tx reply => some (s, tx, reply)
  | lookup _ _ => none

/-- The error that the database answered with. -/
def fault? : Event τ → Option ExecutionError
  | fetch _ _ (.error e) => some e
  | lookup _ (.error e) => some e
  | _ => none

end Event

/-- A filter is normalized to a condition tree; without a filter, the empty one. -/
def Planner.NormalizesTo (p : Planner) (e : Entity) (f : Option Filter)
    (g : Group Condition) : Prop :=
  match f with
  | some f => f.normalize e p.builder.fieldCase = .ok g
  | none => g = {}

namespace Call

/-- The transaction that a call is given. -/
def transaction : Call τ α → Option τ
  | query _ _ _ tx _ => tx
  | page _ _ _ _ _ _ tx _ => tx
  | count _ _ _ tx => tx
  | merge _ _ _ tx => tx

/-- The stages in which the statement is planned; a merge has nothing to normalize. -/
def planning : Call τ α → List Stage
  | merge .. => [.building]
  | _ => [.normalizing, .building]

/-- The stages that a call goes through when nothing goes wrong, up to the last one. -/
def walk (c : Call τ α) : List Stage :=
  .requested :: (c.planning ++ [.executing, .mapping])

/-- The table whose key columns a call depends on. -/
def keyTable? (p : Planner) : Call τ α → Option TableName
  | merge e _ qualifiers _ => if p.needsKeyColumns e qualifiers then some e.table else none
  | _ => none

/-- The key columns that a call goes by are `reported`, and the questions asked for them are
`lookups`: none if the call does not depend on them or they are remembered, else one. -/
def Looks (c : Call τ α) (p : Planner) (keys : Assoc TableName (List String))
    (lookups : List (Event τ)) (reported : List String) : Prop :=
  match c.keyTable? p with
  | none => lookups = [] ∧ reported = []
  | some table =>
    match keys.get? table with
    | some remembered => lookups = [] ∧ reported = remembered
    | none => lookups = [.lookup table (.ok reported)]

/-- A request is the one that a call makes when the key columns `reported` are known. -/
def Requests (p : Planner) (reported : List String) : Call τ α → Request → Prop
  | query e f options _ _, r => ∃ filter, p.NormalizesTo e f filter ∧ r = {
      entity := e, operation := .query, filter, columns := options.columns
      order := options.order, top := options.top, hint := options.hint }
  | page e index rows order f hint _ _, r => ∃ page filter, Page.of index rows = .ok page ∧
      p.NormalizesTo e f filter ∧ r = { entity := e, operation := .page page, filter, order, hint }
  | count e f hint _, r => ∃ filter, p.NormalizesTo e f filter ∧
      r = { entity := e, operation := .count, filter, hint }
  | merge e record qualifiers _, r =>
      r = { entity := e, operation := .merge { record, qualifiers, keyColumns := reported } }

/-- A statement is the one that is built for a call, under the types of a chain. -/
def Builds (c : Call τ α) (p : Planner) (types : TypeChain) (reported : List String)
    (s : Statement) : Prop :=
  ∃ request, c.Requests p reported request ∧ (p.builder.run request types).1 = .ok s

/-- The ways that an operation can take behind its request: the result, the stages that it reaches
before its last one, and what the database is asked and answers. -/
inductive Course (c : Call τ α) (p : Planner) (caches : Caches) :
    Except QueryError α → List Stage → List (Event τ) → Prop
  /-- The key columns cannot be had. -/
  | unreported {table : TableName} {e : ExecutionError} :
    Course c p caches (.error (.execution e)) [] [.lookup table (.error e)]
  /-- The request is refused before the database is asked to run anything. -/
  | refused {e : QueryError} {passed : List Stage} {lookups : List (Event τ)}
    {reported : List String} (looks : c.Looks p caches.keys lookups reported)
    (planned : passed <+: c.planning) : Course c p caches (.error e) passed lookups
  /-- The statement fails. -/
  | failed {s : Statement} {e : ExecutionError} {lookups : List (Event τ)}
    {reported : List String} (looks : c.Looks p caches.keys lookups reported)
    (builds : c.Builds p caches.types reported s) :
    Course c p caches (.error (.execution e)) (c.planning ++ [.executing])
      (lookups ++ [.fetch s c.transaction (.error e)])
  /-- The rows are read, which gives the result. -/
  | fetched {s : Statement} {rows : List Record} {result : Except QueryError α}
    {lookups : List (Event τ)} {reported : List String}
    (looks : c.Looks p caches.keys lookups reported)
    (builds : c.Builds p caches.types reported s) :
    Course c p caches result (c.planning ++ [.executing, .mapping])
      (lookups ++ [.fetch s c.transaction (.ok rows)])

/-- A result, the stages gone through, and what the database was asked meanwhile, keep to the
protocol of a call. -/
structure Follows (c : Call τ α) (p : Planner) (caches : Caches) (result : Except QueryError α)
    (stages : List Stage) (events : List (Event τ)) : Prop where
  /-- The stages are the first ones of the walk, and then one last stage. -/
  walked : ∃ passed, passed ≠ [] ∧ passed <+: c.walk ∧ stages = passed ++ [.last result]
  /-- No stage is repeated. -/
  nodup : stages.Nodup
  /-- The operation is completed exactly when there is a result. -/
  completed : .completed ∈ stages ↔ ∃ v, result = .ok v
  /-- It has failed exactly when there is an error. -/
  failed : .failed ∈ stages ↔ ∃ e, result = .error e
  /-- A result is only had at the end of the walk. -/
  whole : (∃ v, result = .ok v) → stages = c.walk ++ [.completed]
  /-- When the execution is reached, the statement built for the call is run exactly once, in the
  transaction given, and nothing was asked before it but the key columns that the call goes by. -/
  fetched : .executing ∈ stages → ∃ s reply, events.filterMap Event.fetch? =
    [(s, c.transaction, reply)] ∧
    ∃ lookups reported, events = lookups ++ [.fetch s c.transaction reply] ∧
      c.Looks p caches.keys lookups reported ∧ c.Builds p caches.types reported s
  /-- Otherwise no statement is run. -/
  unfetched : .executing ∉ stages → events.filterMap Event.fetch? = []
  /-- The mapping is reached exactly when the statement gave rows. -/
  mapping : .mapping ∈ stages ↔ ∃ s tx rows, .fetch s tx (.ok rows) ∈ events
  /-- An error of the database is the error of the operation. -/
  fault : ∀ event ∈ events, ∀ e, event.fault? = some e → result = .error (.execution e)

section

variable {c : Call τ α} {p : Planner} {keys : Assoc TableName (List String)}

/-- A call that depends on no key columns asks for none. -/
theorem Looks.nothing (h : c.keyTable? p = none) : c.Looks p keys [] [] := by
  unfold Looks
  rw [h]
  exact ⟨rfl, rfl⟩

/-- Key columns that are remembered are not asked for. -/
theorem Looks.remembered {table : TableName} {known : List String} (h : c.keyTable? p = some table)
    (hkeys : keys.get? table = some known) : c.Looks p keys [] known := by
  unfold Looks
  rw [h]
  dsimp only
  rw [hkeys]
  exact ⟨rfl, rfl⟩

/-- Key columns that are not remembered are asked for. -/
theorem Looks.asked {table : TableName} {reported : List String} (h : c.keyTable? p = some table)
    (hkeys : keys.get? table = none) : c.Looks p keys [.lookup table (.ok reported)] reported := by
  unfold Looks
  rw [h]
  dsimp only
  rw [hkeys]

end

/-- What is asked for the sake of key columns is neither a statement nor answered by an error. -/
theorem Looks.events {c : Call τ α} {p : Planner} {keys : Assoc TableName (List String)}
    {lookups : List (Event τ)} {reported : List String} (h : c.Looks p keys lookups reported) :
    ∀ event ∈ lookups, event.fetch? = none ∧ event.fault? = none := by
  unfold Looks at h
  split at h
  · rw [h.1]
    simp
  · split at h
    · rw [h.1]
      simp
    · rw [h]
      simp [Event.fetch?, Event.fault?]

/-- Asking for key columns runs no statement. -/
theorem Looks.filterMap_fetch? {c : Call τ α} {p : Planner} {keys : Assoc TableName (List String)}
    {lookups : List (Event τ)} {reported : List String} (h : c.Looks p keys lookups reported) :
    lookups.filterMap Event.fetch? = [] :=
  List.filterMap_eq_nil_iff.2 fun event hevent => (h.events event hevent).1

/-- A statement that was run is not among the questions asked for key columns. -/
theorem Looks.fetch_not_mem {c : Call τ α} {p : Planner} {keys : Assoc TableName (List String)}
    {lookups : List (Event τ)} {reported : List String} (h : c.Looks p keys lookups reported)
    (s : Statement) (tx : Option τ) (reply : Except ExecutionError (List Record)) :
    .fetch s tx reply ∉ lookups := by
  intro hmem
  have hnone := (h.events _ hmem).1
  simp [Event.fetch?] at hnone

/-! ### The walk -/

variable (c : Call τ α)

/-- A statement is built, for the most part from a normalized filter. -/
theorem planning_eq : c.planning = [.building] ∨ c.planning = [.normalizing, .building] := by
  cases c with
  | merge => exact .inl rfl
  | query | page | count => exact .inr rfl

/-- No stage of the walk is repeated. -/
theorem nodup_walk : c.walk.Nodup := by
  unfold walk
  rcases c.planning_eq with h | h <;> rw [h] <;> decide

/-- The walk stops before the last stage. -/
theorem not_isTerminal_of_mem_walk {stage : Stage} (h : stage ∈ c.walk) :
    stage.isTerminal = false := by
  have hall : ∀ stage ∈ c.walk, stage.isTerminal = false := by
    unfold walk
    rcases c.planning_eq with h | h <;> rw [h] <;> decide
  exact hall stage h

/-- The execution comes behind the planning. -/
theorem executing_not_mem_planning : .executing ∉ c.planning := by
  rcases c.planning_eq with h | h <;> rw [h] <;> decide

/-- The mapping comes behind the planning. -/
theorem mapping_not_mem_planning : .mapping ∉ c.planning := by
  rcases c.planning_eq with h | h <;> rw [h] <;> decide

variable {c}

/-- The beginning of the walk with a last stage behind it has no stage twice. -/
theorem nodup_walked {passed : List Stage} (h : passed <+: c.walk) (result : Except QueryError α) :
    (passed ++ [Stage.last result]).Nodup := by
  rw [List.nodup_append]
  refine ⟨h.sublist.nodup c.nodup_walk, List.nodup_singleton _, ?_⟩
  intro stage hstage last hlast heq
  obtain rfl := List.mem_singleton.1 hlast
  -- a stage of the walk is not a last one
  have hopen := c.not_isTerminal_of_mem_walk (h.subset hstage)
  rw [heq, Stage.isTerminal_last] at hopen
  cases hopen

/-- A last stage is reached exactly when the operation ends with it. -/
theorem mem_walked_iff {passed : List Stage} (h : passed <+: c.walk) (result : Except QueryError α)
    {last : Stage} (hlast : last.isTerminal = true) :
    last ∈ passed ++ [Stage.last result] ↔ last = Stage.last result := by
  rw [List.mem_append, List.mem_singleton]
  refine or_iff_right fun hmem => ?_
  have hopen := c.not_isTerminal_of_mem_walk (h.subset hmem)
  rw [hlast] at hopen
  cases hopen

/-- A stage that is not a last one is reached exactly when it is passed. -/
theorem mem_walked_iff_of_open {passed : List Stage} (result : Except QueryError α) {stage : Stage}
    (hstage : stage.isTerminal = false) :
    stage ∈ .requested :: passed ++ [.last result] ↔ stage = .requested ∨ stage ∈ passed := by
  rw [List.mem_append, List.mem_cons, List.mem_singleton]
  refine or_iff_left fun heq => ?_
  rw [heq, Stage.isTerminal_last] at hstage
  cases hstage

namespace Course

variable {p : Planner} {caches : Caches} {result : Except QueryError α} {passed : List Stage}
  {events : List (Event τ)}

/-- Every way is the beginning of the walk. -/
theorem walked (h : c.Course p caches result passed events) : .requested :: passed <+: c.walk := by
  refine (List.prefix_cons_inj _).2 ?_
  cases h with
  | unreported => exact List.nil_prefix
  | refused _ planned => exact planned.trans (List.prefix_append _ _)
  | failed => exact (List.prefix_append_right_inj _).2 ⟨[.mapping], rfl⟩
  | fetched => exact List.prefix_rfl

/-- Only the way to the end of the walk gives a result. -/
theorem passed_eq_of_ok {v : α} (h : c.Course p caches (.ok v) passed events) :
    passed = c.planning ++ [.executing, .mapping] := by
  cases h
  rfl

/-- On reaching the execution, the statement built for the call is run once, behind the questions
for the key columns that the call goes by. -/
theorem fetched_once (h : c.Course p caches result passed events) (hmem : .executing ∈ passed) :
    ∃ s reply, events.filterMap Event.fetch? = [(s, c.transaction, reply)] ∧
      ∃ lookups reported, events = lookups ++ [.fetch s c.transaction reply] ∧
        c.Looks p caches.keys lookups reported ∧ c.Builds p caches.types reported s := by
  cases h with
  | unreported => cases hmem
  | refused _ planned => exact absurd (planned.subset hmem) c.executing_not_mem_planning
  | @failed s e _ _ looks builds =>
    refine ⟨s, .error e, ?_, _, _, rfl, looks, builds⟩
    rw [List.filterMap_append, looks.filterMap_fetch?]
    rfl
  | @fetched s rows _ _ _ looks builds =>
    refine ⟨s, .ok rows, ?_, _, _, rfl, looks, builds⟩
    rw [List.filterMap_append, looks.filterMap_fetch?]
    rfl

/-- Without reaching the execution, no statement is run. -/
theorem not_fetched (h : c.Course p caches result passed events) (hmem : .executing ∉ passed) :
    events.filterMap Event.fetch? = [] := by
  cases h with
  | unreported => rfl
  | refused looks => exact looks.filterMap_fetch?
  | failed | fetched => simp at hmem

/-- The mapping is reached exactly when the statement gave rows. -/
theorem mapping_mem_iff (h : c.Course p caches result passed events) :
    .mapping ∈ passed ↔ ∃ s tx rows, .fetch s tx (.ok rows) ∈ events := by
  cases h with
  | unreported => simp
  | refused looks planned =>
    refine iff_of_false (fun hmem => c.mapping_not_mem_planning (planned.subset hmem)) ?_
    rintro ⟨s, tx, rows, hmem⟩
    exact looks.fetch_not_mem s tx _ hmem
  | failed looks =>
    refine iff_of_false (by simp [c.mapping_not_mem_planning]) ?_
    rintro ⟨s, tx, rows, hmem⟩
    rcases List.mem_append.1 hmem with hmem | hmem
    · exact looks.fetch_not_mem s tx _ hmem
    · simp at hmem
  | @fetched s rows => exact iff_of_true (by simp) ⟨s, c.transaction, rows, by simp⟩

/-- An error of the database is the error of the operation. -/
theorem eq_error_of_fault (h : c.Course p caches result passed events) {event : Event τ}
    (hevent : event ∈ events) {e : ExecutionError} (he : event.fault? = some e) :
    result = .error (.execution e) := by
  -- the questions for key columns that come before are answered
  have hlooks : ∀ {lookups : List (Event τ)} {reported : List String},
      c.Looks p caches.keys lookups reported → event ∉ lookups := by
    intro lookups reported looks hmem
    rw [(looks.events event hmem).2] at he
    cases he
  cases h with
  | unreported =>
    obtain rfl := List.mem_singleton.1 hevent
    cases he
    rfl
  | refused looks => exact absurd hevent (hlooks looks)
  | failed looks =>
    obtain rfl := List.mem_singleton.1 ((List.mem_append.1 hevent).resolve_left (hlooks looks))
    cases he
    rfl
  | fetched looks =>
    obtain rfl := List.mem_singleton.1 ((List.mem_append.1 hevent).resolve_left (hlooks looks))
    cases he

/-- Each of the four ways keeps to the protocol. -/
theorem follows (h : c.Course p caches result passed events) :
    c.Follows p caches result (.requested :: passed ++ [.last result]) events where
  walked := ⟨_, List.cons_ne_nil _ _, h.walked, rfl⟩
  nodup := nodup_walked h.walked result
  completed := (mem_walked_iff h.walked result rfl).trans Stage.completed_eq_last_iff
  failed := (mem_walked_iff h.walked result rfl).trans Stage.failed_eq_last_iff
  whole := by
    rintro ⟨v, rfl⟩
    rw [h.passed_eq_of_ok]
    rfl
  fetched hmem := by
    rw [mem_walked_iff_of_open result rfl] at hmem
    exact h.fetched_once (hmem.resolve_left nofun)
  unfetched hmem := by
    rw [mem_walked_iff_of_open result rfl] at hmem
    exact h.not_fetched fun hpassed => hmem (.inr hpassed)
  mapping := by
    rw [mem_walked_iff_of_open result rfl, ← h.mapping_mem_iff]
    exact or_iff_right nofun
  fault event hevent e he := h.eq_error_of_fault hevent he

end Course

end Call

/-! ### The way of an operation -/

namespace Planner

/-- What planning a statement in the session `s` comes to: it is refused after some of the stages,
or a statement that `good` holds of is built after all of them. The database is not asked. -/
inductive Plans (s : Session σ) (planning : List Stage) (good : Statement → Prop) :
    Except QueryError Statement × Session σ → Prop
  /-- Planning is refused. -/
  | refused {e : QueryError} {s' : Session σ} {passed : List Stage} (planned : passed <+: planning)
    (stages : s'.stages = s.stages ++ passed) (backend : s'.backend = s.backend) :
    Plans s planning good (.error e, s')
  /-- A statement is built. -/
  | built {st : Statement} {s' : Session σ} (holds : good st)
    (stages : s'.stages = s.stages ++ planning) (backend : s'.backend = s.backend) :
    Plans s planning good (.ok st, s')

/-- Planning that goes on from a session with one more stage. -/
theorem Plans.after {s : Session σ} {stage : Stage} {planning : List Stage}
    {good : Statement → Prop} {out : Except QueryError Statement × Session σ}
    (h : Plans { s with stages := s.stages ++ [stage] } planning good out) :
    Plans s (stage :: planning) good out := by
  cases h with
  | refused planned stages backend =>
    refine .refused ((List.prefix_cons_inj stage).2 planned) ?_ backend
    rw [stages, List.append_assoc, List.singleton_append]
  | built holds stages backend =>
    refine .built holds ?_ backend
    rw [stages, List.append_assoc, List.singleton_append]

/-- Planning that comes to a good statement comes to a better one. -/
theorem Plans.imp {s : Session σ} {planning : List Stage} {good better : Statement → Prop}
    {out : Except QueryError Statement × Session σ} (h : Plans s planning good out)
    (himp : ∀ st, good st → better st) : Plans s planning better out := by
  cases h with
  | refused planned stages backend => exact .refused planned stages backend
  | built holds stages backend => exact .built (himp _ holds) stages backend

variable (p : Planner)

/-- A request is built, or refused, in one stage. -/
theorem plans_build (request : Request) (s : Session σ) :
    Plans s [.building] (fun st => (p.builder.run request s.caches.types).1 = .ok st)
      ((p.build request).run.run s) := by
  unfold build
  rw [Action.run_bind_ok (Action.run_advance s .building), Action.run_resolve]
  cases hrun : ((p.builder.build request).run.run s.caches.types).1 with
  | error e => exact .refused List.prefix_rfl rfl rfl
  | ok st => exact .built hrun rfl rfl

/-- A filter is normalized, and then the request built that the condition tree is put into. -/
theorem plans_normalized (e : Entity) (f : Option Filter) (request : Group Condition → Request)
    (s : Session σ) :
    Plans s [.normalizing, .building]
      (fun st => ∃ filter, p.NormalizesTo e f filter ∧
        (p.builder.run (request filter) s.caches.types).1 = .ok st)
      ((p.normalize e f >>= fun filter => p.build (request filter)).run.run s) := by
  unfold normalize
  rw [bind_assoc, Action.run_bind_ok (Action.run_advance s .normalizing)]
  cases f with
  | none =>
    rw [pure_bind]
    exact ((p.plans_build _ _).imp fun st hst => ⟨{}, rfl, hst⟩).after
  | some f =>
    dsimp only
    cases hf : f.normalize e p.builder.fieldCase with
    | error error =>
      rw [Action.run_bind_error (Action.run_ofExcept _ _)]
      exact .refused ⟨[.building], rfl⟩ rfl rfl
    | ok filter =>
      rw [Action.run_bind_ok (Action.run_ofExcept _ _)]
      exact ((p.plans_build _ _).imp fun st hst => ⟨filter, hf, hst⟩).after

/-- Reading the result of a merge neither asks the database nor reaches a stage. -/
theorem run_mergeResult (e : Entity) (spec : MergeSpec) (rows : List Record) (s : Session σ) :
    ((p.mergeResult e spec rows).run.run s).2.stages = s.stages ∧
      ((p.mergeResult e spec rows).run.run s).2.backend = s.backend := by
  unfold mergeResult
  split
  · exact ⟨rfl, rfl⟩
  · -- the columns are resolved once more, which can be refused
    cases hkeys : (Action.resolve (spec.resolveKeys (p.builder.scope e))).run.run s with
    | mk result s' =>
      obtain rfl : _ = s' := congrArg Prod.snd hkeys
      cases result with
      | error error =>
        rw [Action.run_bind_error hkeys]
        exact ⟨rfl, rfl⟩
      | ok keys =>
        rw [Action.run_bind_ok hkeys]
        exact ⟨rfl, rfl⟩

end Planner

namespace Call

/-- A run of a part of a call in the session `s`, which had `events` behind it at its start: it takes
one of the ways of the call. -/
def Takes (c : Call τ α) (p : Planner) (s : Session (Recording σ τ))
    (out : Except QueryError α × Session (Recording σ τ)) : Prop :=
  ∃ passed events, out.2.stages = s.stages ++ passed ∧
    out.2.backend.events = s.backend.events ++ events ∧ c.Course p s.caches out.1 passed events

end Call

namespace BlockingRepository

variable {b : Backend σ τ} {o : RepositoryOptions} {c : Call τ α} {s s₁ : Session (Recording σ τ)}

/-- Running a statement on a recording database: it is asked once, and the rows it gives bring the
operation to the mapping. -/
theorem run_execute (b : Backend σ τ) (o : RepositoryOptions) (st : Statement) (tx : Option τ)
    (s : Session (Recording σ τ)) :
    ∃ (reply : Except ExecutionError (List Record)) (s' : Session (Recording σ τ)),
      (execute { backend := b.recorded, options := o } st tx).run.run s =
        (reply.mapError .execution, s') ∧
      s'.backend.events = s.backend.events ++ [.fetch st tx reply] ∧
      s'.stages = s.stages ++
        match reply with
        | .ok _ => [.executing, .mapping]
        | .error _ => [.executing] := by
  unfold execute
  rw [Action.run_bind_ok (Action.run_advance s .executing)]
  have hask := Action.run_ask { s with stages := s.stages ++ [.executing] }
    (b.recorded.fetch st tx)
  rw [Backend.run_fetch_recorded] at hask
  refine ⟨((b.fetch st tx).run s.backend.state).1, ?_⟩
  cases hreply : ((b.fetch st tx).run s.backend.state).1 with
  | error e =>
    rw [hreply] at hask
    exact ⟨_, Action.run_bind_error hask _, rfl, rfl⟩
  | ok rows =>
    rw [hreply] at hask
    refine ⟨_, Action.run_bind_ok hask _, rfl, ?_⟩
    exact List.append_assoc _ _ _

/-- A call that plans its statement, runs it and reads the rows takes one of its ways, whatever was
asked for the sake of key columns before. -/
theorem takes_planned {lookups : List (Event τ)} {reported : List String}
    (hlooks : c.Looks (o.planner b.dialect) s.caches.keys lookups reported)
    (hstages : s₁.stages = s.stages)
    (hevents : s₁.backend.events = s.backend.events ++ lookups)
    {plan : Action (Recording σ τ) Statement}
    (hplan : Planner.Plans s₁ c.planning
      (c.Builds (o.planner b.dialect) s.caches.types reported) (plan.run.run s₁))
    {read : List Record → Action (Recording σ τ) α}
    (hread : ∀ rows s, ((read rows).run.run s).2.stages = s.stages ∧
      ((read rows).run.run s).2.backend = s.backend) :
    c.Takes (o.planner b.dialect) s ((plan >>= fun st =>
      execute { backend := b.recorded, options := o } st c.transaction >>= read).run.run s₁) := by
  generalize hout : plan.run.run s₁ = out at hplan
  cases hplan with
  | @refused e s' passed planned stages backend =>
    rw [Action.run_bind_error hout]
    refine ⟨passed, lookups, ?_, ?_, .refused hlooks planned⟩
    · rw [stages, hstages]
    · rw [backend, hevents]
  | @built st s' holds stages backend =>
    rw [Action.run_bind_ok hout]
    obtain ⟨reply, s'', hrun, hasked, hreached⟩ := run_execute b o st c.transaction s'
    rw [backend, hevents, List.append_assoc] at hasked
    rw [stages, hstages, List.append_assoc] at hreached
    cases reply with
    | error e =>
      rw [Action.run_bind_error hrun]
      exact ⟨_, _, hreached, hasked, .failed hlooks holds⟩
    | ok rows =>
      rw [Action.run_bind_ok hrun]
      -- reading the rows adds nothing to either
      rw [← (hread rows s'').1] at hreached
      rw [← (hread rows s'').2] at hasked
      exact ⟨_, _, hreached, hasked, .fetched hlooks holds⟩

/-- The key columns of a table are remembered, reported, or cannot be had. -/
theorem run_keyColumns (b : Backend σ τ) (o : RepositoryOptions) (table : TableName)
    (s : Session (Recording σ τ)) :
    (∃ remembered, s.caches.keys.get? table = some remembered ∧
        (keyColumns { backend := b.recorded, options := o } table).run.run s =
          (.ok remembered, s)) ∨
      (s.caches.keys.get? table = none ∧ ∃ (reply : Except ExecutionError (List String)) (s' : _),
        (keyColumns { backend := b.recorded, options := o } table).run.run s =
          (reply.mapError .execution, s') ∧ s'.stages = s.stages ∧
        s'.caches.types = s.caches.types ∧
        s'.backend.events = s.backend.events ++ [.lookup table reply]) := by
  cases hkeys : s.caches.keys.get? table with
  | some remembered => exact .inl ⟨remembered, rfl, run_keyColumns_of_known _ hkeys⟩
  | none =>
    refine .inr ⟨rfl, ((b.keyColumns table).run s.backend.state).1, ?_⟩
    have hask := b.run_keyColumns_recorded table s.backend
    cases hreply : ((b.keyColumns table).run s.backend.state).1 with
    | error e =>
      rw [hreply] at hask
      exact ⟨_, run_keyColumns_of_error _ hkeys hask, rfl, rfl, rfl⟩
    | ok keys =>
      rw [hreply] at hask
      exact ⟨_, run_keyColumns_of_ok _ hkeys hask, rfl, rfl, rfl⟩

/-- A merge on a recording database takes one of its ways. -/
theorem takes_merge (b : Backend σ τ) (o : RepositoryOptions) (e : Entity) (record : Record)
    (qualifiers : List Field) (tx : Option τ) (s : Session (Recording σ τ)) :
    (Call.merge e record qualifiers tx).Takes (o.planner b.dialect) s
      ((merge { backend := b.recorded, options := o } e record qualifiers tx).run.run s) := by
  have hplans : ∀ reported (s₁ : Session (Recording σ τ)), s₁.caches.types = s.caches.types →
      Planner.Plans s₁ [.building] ((Call.merge e record qualifiers tx).Builds
          (o.planner b.dialect) s.caches.types reported)
        (((o.planner b.dialect).merge e
          { record, qualifiers, keyColumns := reported }).run.run s₁) := by
    intro reported s₁ htypes
    refine (Planner.plans_build _ _ s₁).imp ?_
    intro st hst
    rw [htypes] at hst
    exact ⟨_, rfl, hst⟩
  have hread := fun reported => (o.planner b.dialect).run_mergeResult (σ := Recording σ τ) e
    { record, qualifiers, keyColumns := reported }
  have hplanner : planner { backend := b.recorded, options := o } = o.planner b.dialect := rfl
  unfold merge
  rw [hplanner]
  by_cases hneeds : (o.planner b.dialect).needsKeyColumns e qualifiers = true
  · -- the key columns are needed, and come first
    have htable : (Call.merge e record qualifiers tx).keyTable? (o.planner b.dialect) =
        some e.table := if_pos hneeds
    rw [if_pos hneeds]
    rcases run_keyColumns b o e.table s with ⟨remembered, hkeys, hrun⟩ |
      ⟨hkeys, reply, s₁, hrun, hstages, htypes, hevents⟩
    · rw [Action.run_bind_ok hrun]
      exact takes_planned (.remembered htable hkeys) rfl (List.append_nil _).symm
        (hplans _ _ rfl) (hread _)
    · cases reply with
      | error e =>
        rw [Action.run_bind_error hrun]
        exact ⟨[], _, by rw [hstages, List.append_nil], hevents, .unreported⟩
      | ok keys =>
        rw [Action.run_bind_ok hrun]
        exact takes_planned (.asked htable hkeys) hstages hevents (hplans _ _ htypes) (hread _)
  · have htable : (Call.merge e record qualifiers tx).keyTable? (o.planner b.dialect) = none :=
      if_neg hneeds
    rw [if_neg hneeds, pure_bind]
    exact takes_planned (.nothing htable) rfl (List.append_nil _).symm
      (hplans _ _ rfl) (hread _)

/-- Every call on a recording database takes one of its ways. -/
theorem takes_call (b : Backend σ τ) (o : RepositoryOptions) (c : Call τ α)
    (s : Session (Recording σ τ)) :
    c.Takes (o.planner b.dialect) s
      ((call { backend := b.recorded, options := o } c).run.run s) := by
  have hnothing : s.backend.events = s.backend.events ++ [] := (List.append_nil _).symm
  cases c with
  | query e f options tx read =>
    refine takes_planned (.nothing rfl) rfl hnothing ?_ fun _ _ => ⟨rfl, rfl⟩
    refine (Planner.plans_normalized _ e f _ s).imp ?_
    rintro st ⟨filter, hfilter, hst⟩
    exact ⟨_, ⟨filter, hfilter, rfl⟩, hst⟩
  | page e index rows order f hint tx read =>
    refine takes_planned (.nothing rfl) rfl hnothing ?_ fun _ _ => ⟨rfl, rfl⟩
    unfold Planner.page
    cases hpage : Page.of index rows with
    | error cause =>
      rw [Except.mapError, Action.run_bind_error (Action.run_ofExcept _ _)]
      exact .refused List.nil_prefix (List.append_nil _).symm rfl
    | ok page =>
      rw [Except.mapError, Action.run_bind_ok (Action.run_ofExcept _ _)]
      refine (Planner.plans_normalized _ e f _ s).imp ?_
      rintro st ⟨filter, hfilter, hst⟩
      exact ⟨_, ⟨page, filter, hpage, hfilter, rfl⟩, hst⟩
  | count e f hint tx =>
    refine takes_planned (.nothing rfl) rfl hnothing ?_ fun _ _ => ⟨rfl, rfl⟩
    refine (Planner.plans_normalized _ e f _ s).imp ?_
    rintro st ⟨filter, hfilter, hst⟩
    exact ⟨_, ⟨filter, hfilter, rfl⟩, hst⟩
  | merge e record qualifiers tx => exact takes_merge b o e record qualifiers tx s

/-- What a call asks the database when it is made in the session `s`, and what it is answered. -/
def asked (r : BlockingRepository σ τ) (c : Call τ α) (s : Session σ) : List (Event τ) :=
  ((call { backend := r.backend.recorded, options := r.options } c).perform
    { backend := { state := s.backend }, caches := s.caches }).2.backend.events

/-- The operations of a blocking repository keep to the protocol. -/
theorem follows_asked (r : BlockingRepository σ τ) (c : Call τ α) (s : Session σ) :
    c.Follows r.planner s.caches ((r.call c).perform s).1 ((r.call c).perform s).2.stages
      (r.asked c s) := by
  -- the operation goes alike when the database writes down what it is asked
  have halike : Action.Alike (fun x r => r.state = x) (r.call c)
      (call { backend := r.backend.recorded, options := r.options } c) := by
    apply alike_call
    · exact r.backend.mirrors_recorded
    · rfl
  obtain ⟨hresult, hsession⟩ := @halike { s with stages := [.requested] }
    { backend := { state := s.backend }, caches := s.caches, stages := [.requested] } ⟨rfl, rfl, rfl⟩
  obtain ⟨passed, events, hstages, hevents, hcourse⟩ := takes_call r.backend r.options c
    { backend := { state := s.backend }, caches := s.caches, stages := [.requested] }
  have hfollows := hcourse.follows
  rw [← hresult] at hfollows
  rw [asked, Action.perform_eq, Action.perform_eq, hevents, hsession.stages, hstages]
  exact hfollows

end BlockingRepository

/-- What a call asks the database when it is made in the session `s`, and what it is answered. -/
def AsyncRepository.asked (r : AsyncRepository σ τ) (c : Call τ α) (s : Session σ) :
    List (Event τ) :=
  ((call { backend := r.backend.recorded, options := r.options, cancelled := r.cancelled }
    c).perform { backend := { state := s.backend }, caches := s.caches }).2.backend.events

/-- The operations of blocking and of asynchronous repositories keep to the protocol, whatever the
database answers, whatever is remembered, and whether or not the signal is set. -/
theorem Call.follows_perform (c : Call τ α) (s : Session σ) :
    (∀ r : BlockingRepository σ τ, c.Follows r.planner s.caches ((r.call c).perform s).1
      ((r.call c).perform s).2.stages (r.asked c s)) ∧
    (∀ r : AsyncRepository σ τ, c.Follows r.planner s.caches ((r.call c).perform s).1
      ((r.call c).perform s).2.stages (r.asked c s)) := by
  refine ⟨fun r => r.follows_asked c s, fun r => ?_⟩
  -- an asynchronous repository blocks on what its signal lets it see
  have hfollows := BlockingRepository.follows_asked
    { backend := r.backend.observed r.cancelled, options := r.options } c s
  rw [AsyncRepository.asked, AsyncRepository.call_eq, AsyncRepository.call_eq]
  exact hfollows

end FilterSql
