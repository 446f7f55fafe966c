import FilterSql.Proofs.Simulation
import FilterSql.Repository.Scripted
import Mathlib.Data.List.Forall2

/-!
# Actions that mirror each other

Two databases mirror each other when they answer alike for as long as their states correspond. What
a repository does over one of them is then done over the other: with the same outcome, through the
same stages, and with the same things remembered.

## Main definitions

* `Session.Alike`, `Action.Alike`: sessions that correspond, and actions that keep them so;
* `Backend.Mirrors`: a backend answers as another one does;
* `AsyncBackend.observed`: an asynchronous backend as seen under a signal that stays as it is;
* `Event`, `Backend.recorded`: a backend that writes down what it is asked and what it answers;
* `runAll`: calls that are made one after another.

## Main results

* `BlockingRepository.alike_call`: calls keep sessions over mirroring backends alike;
* `AsyncRepository.call_eq`: an asynchronous repository does what a blocking one does over the
  backend as the signal lets it be seen;
* `Backend.mirrors_recorded`: writing down changes nothing;
* `runAll_async`: any sequence of calls goes alike on a blocking repository and on an asynchronous
  one whose signal is never set.
-/

namespace FilterSql

variable {σ σ' τ α β : Type}

/-- Two sessions correspond: the states of the databases do, and the rest is equal. -/
structure Session.Alike (R : σ → σ' → Prop) (s : Session σ) (s' : Session σ') : Prop where
  /-- The states of the databases correspond. -/
  backend : R s.backend s'.backend
  /-- The same things are remembered. -/
  caches : s.caches = s'.caches
  /-- The same stages have been reached. -/
  stages : s.stages = s'.stages

/-- Two actions do the same, and keep sessions alike. -/
def Action.Alike (R : σ → σ' → Prop) (m : Action σ α) (m' : Action σ' α) : Prop :=
  ∀ ⦃s : Session σ⦄ ⦃s' : Session σ'⦄, s.Alike R s' →
    (m.run.run s).1 = (m'.run.run s').1 ∧ ((m.run.run s).2).Alike R (m'.run.run s').2

/-- Whether sessions correspond does not depend on the stages and the type chain that they share. -/
theorem Session.alike_tolerant (R : σ → σ' → Prop) :
    Session.Tolerant fun (s : Session σ) (s' : Session σ') => s.Alike R s' where
  types _ _ h := congrArg Caches.types h.caches
  start _ _ h := ⟨h.backend, h.caches, rfl⟩
  advance _ _ stage h := ⟨h.backend, h.caches, congrArg (· ++ [stage]) h.stages⟩
  retype _ _ types h :=
    ⟨h.backend, congrArg (fun caches : Caches => { caches with types }) h.caches, h.stages⟩

namespace Action.Alike

variable {R : σ → σ' → Prop}

/-- Looking for remembered key columns. -/
theorem recallKeys (table : TableName) :
    Alike R (Action.recallKeys table : Action σ _) (Action.recallKeys table : Action σ' _) := by
  intro s s' h
  simp only [run_recallKeys, h.caches]
  exact ⟨trivial, h⟩

/-- Remembering key columns. -/
theorem rememberKeys (table : TableName) (keys : List String) :
    Alike R (Action.rememberKeys table keys : Action σ Unit)
      (Action.rememberKeys table keys : Action σ' Unit) := by
  intro s s' h
  simp only [run_rememberKeys, h.caches]
  exact ⟨trivial, h.backend, rfl, h.stages⟩

/-- Asking databases that answer alike. -/
theorem ask {call : StateM σ (Except ExecutionError α)} {call' : StateM σ' (Except ExecutionError α)}
    (hcall : ∀ ⦃x x'⦄, R x x' → (call.run x).1 = (call'.run x').1 ∧
      R (call.run x).2 (call'.run x').2) :
    Alike R (Action.ask call) (Action.ask call') := by
  intro s s' h
  obtain ⟨hreply, hstate⟩ := hcall h.backend
  exact ⟨congrArg (Except.mapError QueryError.execution) hreply, hstate, h.caches, h.stages⟩

/-- Whole operations. -/
theorem perform {m : Action σ α} {m' : Action σ' α} (hm : Alike R m m') {s : Session σ}
    {s' : Session σ'} (h : s.Alike R s') :
    (m.perform s).1 = (m'.perform s').1 ∧ ((m.perform s).2).Alike R (m'.perform s').2 :=
  Action.Matches.perform (Session.alike_tolerant R) hm h

end Action.Alike

/-- A backend answers as another one does, for as long as their states correspond. -/
structure Backend.Mirrors (R : σ → σ' → Prop) (b : Backend σ τ) (b' : Backend σ' τ) : Prop where
  /-- Both speak one dialect. -/
  dialect : b.dialect = b'.dialect
  /-- Statements are answered alike, and leave states that correspond. -/
  fetch : ∀ ⦃x x'⦄, R x x' → ∀ s tx, ((b.fetch s tx).run x).1 = ((b'.fetch s tx).run x').1 ∧
    R ((b.fetch s tx).run x).2 ((b'.fetch s tx).run x').2
  /-- Questions for key columns are answered alike, and leave states that correspond. -/
  keyColumns : ∀ ⦃x x'⦄, R x x' → ∀ table,
    ((b.keyColumns table).run x).1 = ((b'.keyColumns table).run x').1 ∧
    R ((b.keyColumns table).run x).2 ((b'.keyColumns table).run x').2

namespace BlockingRepository

variable {R : σ → σ' → Prop} {r : BlockingRepository σ τ} {r' : BlockingRepository σ' τ}

/-- Repositories with the same policies over one dialect plan alike. -/
theorem planner_congr (h : r.backend.Mirrors R r'.backend) (ho : r.options = r'.options) :
    r.planner = r'.planner := by
  simp only [planner, h.dialect, ho]

/-- Key columns are looked up and remembered alike. -/
theorem alike_keyColumns (h : r.backend.Mirrors R r'.backend) (table : TableName) :
    Action.Alike R (r.keyColumns table) (r'.keyColumns table) := by
  refine Action.Matches.bind (Action.Alike.recallKeys table) fun remembered => ?_
  cases remembered with
  | some keys => exact .pure keys
  | none =>
    refine Action.Matches.bind (Action.Alike.ask fun _ _ hx => h.keyColumns hx table) fun keys => ?_
    exact Action.Matches.bind (Action.Alike.rememberKeys table keys) fun _ => .pure keys

/-- A call does the same over backends that mirror each other. -/
theorem alike_call (h : r.backend.Mirrors R r'.backend) (ho : r.options = r'.options)
    (c : Call τ α) : Action.Alike R (r.call c) (r'.call c) := by
  rw [call_eq_callBy, call_eq_callBy]
  exact matches_callBy (Session.alike_tolerant R) (planner_congr h ho)
    (fun s tx => Action.Alike.ask fun _ _ hx => h.fetch hx s tx) (alike_keyColumns h) c

end BlockingRepository

/-- An asynchronous backend as it is seen under a signal that stays as it is. -/
def AsyncBackend.observed (a : AsyncBackend σ τ) (cancelled : Bool) : Backend σ τ where
  dialect := a.dialect
  fetch s tx := a.fetch s tx cancelled
  keyColumns := a.keyColumns

/-- A signal that is not set does not change what is seen of a backend. -/
@[simp]
theorem Backend.observed_async (b : Backend σ τ) : b.async.observed false = b := rfl

/-- An asynchronous repository does what a blocking one does over the backend as its signal lets it
be seen. -/
theorem AsyncRepository.call_eq (r : AsyncRepository σ τ) (c : Call τ α) :
    r.call c =
      BlockingRepository.call
        { backend := r.backend.observed r.cancelled, options := r.options } c := by
  cases c <;> rfl

/-! ### Recording -/

/-- A question to a database, with the answer. -/
inductive Event (τ : Type) where
  /-- A statement was run. -/
  | fetch (s : Statement) (tx : Option τ) (reply : Except ExecutionError (List Record))
  /-- The key columns of a table were asked for. -/
  | lookup (table : TableName) (reply : Except ExecutionError (List String))

/-- The state of a database together with what it has been asked so far. -/
structure Recording (σ τ : Type) where
  /-- The state of the database. -/
  state : σ
  /-- What it has been asked, the latest question last. -/
  events : List (Event τ) := []

/-- The same database, writing down what it is asked and what it answers. -/
def Backend.recorded (b : Backend σ τ) : Backend (Recording σ τ) τ where
  dialect := b.dialect
  fetch s tx := fun r =>
    let (reply, state) := b.fetch s tx r.state
    (reply, { state, events := r.events ++ [.fetch s tx reply] })
  keyColumns table := fun r =>
    let (reply, state) := b.keyColumns table r.state
    (reply, { state, events := r.events ++ [.lookup table reply] })

/-- The same database, writing down what it is asked and what it answers. -/
def AsyncBackend.recorded (a : AsyncBackend σ τ) : AsyncBackend (Recording σ τ) τ where
  dialect := a.dialect
  fetch s tx cancelled := (a.observed cancelled).recorded.fetch s tx
  keyColumns := (a.observed false).recorded.keyColumns

/-- Writing down and looking at the signal do not interfere. -/
@[simp]
theorem AsyncBackend.observed_recorded (a : AsyncBackend σ τ) (cancelled : Bool) :
    a.recorded.observed cancelled = (a.observed cancelled).recorded := rfl

/-- A statement that is run is written down with its rows or its error. -/
theorem Backend.run_fetch_recorded (b : Backend σ τ) (s : Statement) (tx : Option τ)
    (r : Recording σ τ) :
    (b.recorded.fetch s tx).run r =
      (((b.fetch s tx).run r.state).1,
        { state := ((b.fetch s tx).run r.state).2
          events := r.events ++ [.fetch s tx ((b.fetch s tx).run r.state).1] }) := rfl

/-- A question for key columns is written down with its answer. -/
theorem Backend.run_keyColumns_recorded (b : Backend σ τ) (table : TableName) (r : Recording σ τ) :
    (b.recorded.keyColumns table).run r =
      (((b.keyColumns table).run r.state).1,
        { state := ((b.keyColumns table).run r.state).2
          events := r.events ++ [.lookup table ((b.keyColumns table).run r.state).1] }) := rfl

/-- A backend mirrors itself. -/
theorem Backend.Mirrors.refl (b : Backend σ τ) : b.Mirrors Eq b where
  dialect := rfl
  fetch := by
    rintro x _ rfl s tx
    exact ⟨rfl, rfl⟩
  keyColumns := by
    rintro x _ rfl table
    exact ⟨rfl, rfl⟩

/-- Writing down changes nothing. -/
theorem Backend.mirrors_recorded (b : Backend σ τ) :
    b.Mirrors (fun x r => r.state = x) b.recorded where
  dialect := rfl
  fetch := by
    rintro _ r rfl s tx
    exact ⟨rfl, rfl⟩
  keyColumns := by
    rintro _ r rfl table
    exact ⟨rfl, rfl⟩

/-- Two recordings correspond: the states of the databases do, and both were asked the same. -/
structure Recording.Alike (R : σ → σ' → Prop) (r : Recording σ τ) (r' : Recording σ' τ) :
    Prop where
  /-- The states of the databases correspond. -/
  state : R r.state r'.state
  /-- The same questions were asked in the same order, and got the same answers. -/
  events : r.events = r'.events

/-- Backends that mirror each other write the same down. -/
theorem Backend.Mirrors.recorded {R : σ → σ' → Prop} {b : Backend σ τ} {b' : Backend σ' τ}
    (h : b.Mirrors R b') : b.recorded.Mirrors (Recording.Alike R) b'.recorded where
  dialect := h.dialect
  fetch := by
    intro r r' hr s tx
    obtain ⟨hreply, hstate⟩ := h.fetch hr.state s tx
    rw [run_fetch_recorded, run_fetch_recorded, hreply, hr.events]
    exact ⟨rfl, hstate, rfl⟩
  keyColumns := by
    intro r r' hr table
    obtain ⟨hreply, hstate⟩ := h.keyColumns hr.state table
    rw [run_keyColumns_recorded, run_keyColumns_recorded, hreply, hr.events]
    exact ⟨rfl, hstate, rfl⟩

/-! ### Sequences of calls -/

/-- What a call gives back, and the session that it leaves. -/
structure Outcome (σ : Type) where
  /-- The result, or why there is none. -/
  result : Σ α : Type, Except QueryError α
  /-- The session after the call, with the stages that it went through. -/
  after : Session σ

/-- Two outcomes correspond: the results are equal, and the sessions correspond. -/
structure Outcome.Alike (R : σ → σ' → Prop) (o : Outcome σ) (o' : Outcome σ') : Prop where
  /-- The results are equal. -/
  result : o.result = o'.result
  /-- The sessions correspond. -/
  after : o.after.Alike R o'.after

/-- Make calls one after another, each in the session that the one before it leaves. -/
def runAll (operation : ∀ {α : Type}, Call τ α → Action σ α) :
    List (Σ α : Type, Call τ α) → Session σ → List (Outcome σ)
  | [], _ => []
  | ⟨α, c⟩ :: rest, s =>
    let (result, after) := (operation c).perform s
    { result := ⟨α, result⟩, after } :: runAll operation rest after

/-- Calls that go alike one by one go alike in sequence. -/
theorem alike_runAll {R : σ → σ' → Prop} {f : ∀ {α : Type}, Call τ α → Action σ α}
    {f' : ∀ {α : Type}, Call τ α → Action σ' α}
    (h : ∀ {α : Type} (c : Call τ α), Action.Alike R (f c) (f' c))
    (calls : List (Σ α : Type, Call τ α)) {s : Session σ} {s' : Session σ'} (hs : s.Alike R s') :
    List.Forall₂ (Outcome.Alike R) (runAll f calls s) (runAll f' calls s') := by
  induction calls generalizing s s' with
  | nil => exact .nil
  | cons call rest ih =>
    obtain ⟨α, c⟩ := call
    obtain ⟨hresult, hafter⟩ := (h c).perform hs
    refine .cons ⟨?_, hafter⟩ (ih hafter)
    exact congrArg (Sigma.mk α) hresult

/-- Any sequence of calls goes alike on a blocking repository and on an asynchronous one whose
signal is never set, when their databases answer alike: call by call, both give the same result, go
through the same stages, have asked the same questions in the same order with the same answers, and
remember the same. -/
theorem runAll_async {R : σ → σ' → Prop} {b : Backend σ τ} {a : AsyncBackend σ' τ}
    (h : b.Mirrors R (a.observed false)) (o : RepositoryOptions)
    (calls : List (Σ α : Type, Call τ α)) (caches : Caches) {x : σ} {x' : σ'} (hx : R x x') :
    List.Forall₂ (Outcome.Alike (Recording.Alike R))
      (runAll (BlockingRepository.call { backend := b.recorded, options := o }) calls
        { backend := { state := x }, caches })
      (runAll (AsyncRepository.call { backend := a.recorded, options := o, cancelled := false })
        calls { backend := { state := x' }, caches }) := by
  refine alike_runAll (fun c => ?_) calls ⟨⟨hx, rfl⟩, rfl, rfl⟩
  rw [AsyncRepository.call_eq]
  apply BlockingRepository.alike_call
  · exact h.recorded
  · rfl

/-- A merge that has to ask for the key columns, one that remembers them, and a count whose statement
fails, on a scripted database. -/
theorem runAll_async_scripted :
    let e : Entity := { name := "Item", table := { name := "item" }, properties := [] }
    let record : Record := ⟨[("Id", .int 7)]⟩
    let b := Scripted.backend .sqlite (some [("item", ["Id"])])
    let calls : List (Σ α : Type, Call String α) :=
      [⟨_, .merge e record [] none⟩, ⟨_, .merge e record [] none⟩,
        ⟨_, .count e none none (some "t")⟩]
    let log : Scripted.Log := { replies := [.ok [record], .ok [], .error .cancelled] }
    List.Forall₂ (Outcome.Alike (Recording.Alike Eq))
      (runAll (BlockingRepository.call { backend := b.recorded }) calls
        { backend := { state := log }, caches := {} })
      (runAll (AsyncRepository.call { backend := b.async.recorded }) calls
        { backend := { state := log }, caches := {} }) := by
  intro e record b calls log
  exact runAll_async (Backend.Mirrors.refl b) {} calls {} rfl

end FilterSql
