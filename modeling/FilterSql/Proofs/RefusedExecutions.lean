import FilterSql.Proofs.Idempotence
import FilterSql.Proofs.Offences
import FilterSql.Proofs.Operations
import FilterSql.Proofs.Refreshing
import FilterSql.Repository.Handles

/-!
# Executions that are refused

A statement is run only after everything that could be refused has been looked at: the signal of the
handle, the owner of the transaction, the statement itself, and its parameters one after another. What
is refused leaves every connection as it is, with its tables and its open transaction. A handle whose
signal is set therefore changes nothing, and other handles do not notice what it was asked to do.

All of this holds of any engine, however it prepares statements. That the parameters of a statement that
was built are not refused can only be said of an engine that finds the placeholders of the statement. It
does so without a hint; but the comment of a hint can hide the placeholders behind it.

## Main definitions

* `Parameter.Misfit`: why a parameter cannot be sent with its statement;
* `Call.Halts`: the end of an operation that sends no statement;
* `Handles.Unnoticed`: handles that were used and cannot be told from what they were;
* `Store.Finds`: an engine finds the placeholders of a statement.

## Main results

* `Statement.cells_eq_error_iff`: the first parameter that cannot be sent is reported;
* `Builder.placed_run`: a statement that was built has a placeholder for each parameter;
* `Call.halts_effect`: an operation behind a signal that is set sends nothing;
* `Handles.unnoticed_runCalls`: whatever is started through such a handle is not noticed;
* `Store.Server.refused_execution`: executions that are refused leave all connections as they are;
* `Store.Server.hidden_placeholder`: a hint can hide the placeholder of a parameter.
-/

namespace FilterSql

variable {σ τ α : Type}

/-! ### Parameters that cannot be sent -/

/-- Why a parameter at a position cannot be sent with a statement in which the given placeholders are
found: its own is not among them, or it is and the value is a list. -/
inductive Parameter.Misfit (d : Dialect) (placeholders : List String) :
    Parameter × Nat → ExecutionError → Prop
  | unplaced {p : Parameter} {index : Nat} (unplaced : d.placeholder p.name index ∉ placeholders) :
    Misfit d placeholders (p, index) (.unboundParameter p.name)
  | list {p : Parameter} {index : Nat} {vs : List Value}
    (placed : d.placeholder p.name index ∈ placeholders) (value : p.value = .list vs) :
    Misfit d placeholders (p, index) (.unsupportedValue p.name)

/-- A parameter is refused for being a misfit. -/
theorem Parameter.bind_eq_error_iff {p : Parameter} {d : Dialect} (hd : d ≠ .mysql)
    {placeholders : List String} {index : Nat} {fault : ExecutionError} :
    p.bind d placeholders index = .error fault ↔ Misfit d placeholders (p, index) fault := by
  by_cases hplaced : d.placeholder p.name index ∈ placeholders
  · have hfound : p.Placed d placeholders index := by rwa [Placed, if_neg hd]
    cases hvalue : p.value with
    | list vs =>
      rw [bind_of_placed hfound, cell_of_list hvalue]
      constructor
      · intro h
        obtain rfl := Except.error.inj h
        exact .list hplaced hvalue
      · intro h
        cases h with
        | unplaced unplaced => exact absurd hplaced unplaced
        | list placed value => rfl
    | _ =>
      -- a scalar is sent
      rw [bind_eq_ok hfound (by rw [hvalue]; rfl)]
      constructor
      · intro h
        cases h
      · intro h
        cases h with
        | unplaced unplaced => exact absurd hplaced unplaced
        | list placed value => rw [hvalue] at value; cases value
  · rw [bind, if_neg hd, if_neg hplaced]
    constructor
    · intro h
      obtain rfl := Except.error.inj h
      exact .unplaced hplaced
    · intro h
      cases h with
      | unplaced unplaced => rfl
      | list placed value => exact absurd placed hplaced

/-- The parameters of a statement are refused with the fault of the first one that cannot be sent. -/
theorem Statement.cells_eq_error_iff {st : Statement} (hd : st.dialect ≠ .mysql)
    {placeholders : List String} {fault : ExecutionError} :
    st.cells placeholders = .error fault ↔
      ∃ q, FirstWith (fun q => ∃ fault, Parameter.Misfit st.dialect placeholders q fault)
          st.parameters.zipIdx q ∧
        Parameter.Misfit st.dialect placeholders q fault := by
  simp only [cells, mapM_eq_error_iff, Parameter.bind_eq_error_iff hd]

/-- Errors that report a parameter which cannot be sent. -/
inductive ExecutionError.ReportsParameter : ExecutionError → Prop
  | unbound (name : String) : ReportsParameter (.unboundParameter name)
  | unsupported (name : String) : ReportsParameter (.unsupportedValue name)

/-! ### Statements that were built -/

namespace Builder

variable {b : Builder} {r : Request} {types types' : TypeChain} {st : Statement}

/-- A statement that was built, or refreshed with other values, has a placeholder for each of its
parameters. -/
theorem placed_run (h : b.run r types = (.ok st, types')) {st' : Statement}
    (hrefreshed : st' = st ∨ ∃ values, st.withValues values = .ok st') :
    ∀ q ∈ st'.parameters.zipIdx, q.1.Placed st'.dialect (st'.placeholders .whole) q.2 := by
  -- refreshing keeps the text and the names
  obtain ⟨htokens, hnames⟩ : st'.tokens = st.tokens ∧
      st'.parameters.map (·.name) = st.parameters.map (·.name) := by
    rcases hrefreshed with rfl | ⟨values, hvalues⟩
    · exact ⟨rfl, rfl⟩
    · obtain ⟨-, hdialect, hhint, hcommand, htypes, -⟩ := Statement.withValues_eq_ok_iff.1 hvalues
      refine ⟨by rw [Statement.tokens, Statement.tokens, hdialect, hhint, hcommand], ?_⟩
      simpa [Function.comp_def] using congrArg (List.map Prod.fst) htypes
  have hlength : st'.parameters.length = st.parameters.length := by
    simpa using congrArg List.length hnames
  rintro ⟨p, i⟩ hp
  apply Statement.placed_of_mem _ _ hp
  · rw [htokens, hlength]
    exact placeholders_run h
  · rw [hnames, hlength]
    exact map_name_run h

end Builder

/-! ### Signals that are set -/

/-- How an operation ends that sends no statement: with the error of the lookup of its key columns, with
the one of the request, or for being cancelled. -/
inductive Call.Halts (c : Call τ α) (p : Planner) (b : Backend σ τ) (caches : Caches) (x : σ) :
    Except QueryError α → Prop
  /-- The key columns cannot be had. -/
  | unreported {fault : ExecutionError}
    (unreported : ((c.settleKeys p b caches.keys).run x).1 = .error fault) :
    Halts c p b caches x (.error (.execution fault))
  /-- No statement can be built. -/
  | refused {reported : List String} {e : QueryError}
    (settled : ((c.settleKeys p b caches.keys).run x).1 = .ok reported)
    (refused : c.plan p caches.types reported = .error e) : Halts c p b caches x (.error e)
  /-- A statement is built and not run. -/
  | cancelled {reported : List String} {st : Statement}
    (settled : ((c.settleKeys p b caches.keys).run x).1 = .ok reported)
    (planned : c.plan p caches.types reported = .ok st) :
    Halts c p b caches x (.error (.execution .cancelled))

/-- Once the signal is set, no statement is run. -/
theorem Backend.run_fetch_cancelled (b : Backend σ τ) (st : Statement) (tx : Option τ) (x : σ) :
    ((b.through (.async true)).fetch st tx).run x = (.error .cancelled, x) := rfl

namespace Call

variable {b : Backend σ τ}

/-- Settling key columns does not change the state of a quiet backend. -/
theorem settleKeys_snd (hquiet : b.Quiet) (c : Call τ α) (p : Planner)
    (keys : Assoc TableName (List String)) (x : σ) :
    ((c.settleKeys p b keys).run x).2 = x := by
  cases htable : c.keyTable? p with
  | none => rw [c.settleKeys_of_none p b htable]; rfl
  | some table =>
    cases hkeys : keys.get? table with
    | some known => rw [c.settleKeys_of_known p b htable hkeys]; rfl
    | none =>
      rw [c.settleKeys_of_unknown p b htable hkeys]
      exact hquiet table x

/-- Behind a signal that is set, key columns are settled as before. -/
theorem settleKeys_through (c : Call τ α) (p : Planner) (a : Access)
    (keys : Assoc TableName (List String)) :
    c.settleKeys p (b.through a) keys = c.settleKeys p b keys := by
  simp only [settleKeys, Backend.keyColumns_through]

/-- An operation behind a signal that is set sends no statement and changes nothing. -/
theorem halts_effect (hquiet : b.Quiet) (c : Call τ α) (p : Planner) (caches : Caches) (x : σ) :
    c.Halts p b caches x ((c.effect p (b.through (.async true)) caches).run x).1 ∧
      ((c.effect p (b.through (.async true)) caches).run x).2 = x := by
  have hstate := c.settleKeys_snd hquiet p caches.keys x
  rw [run_effect, settleKeys_through]
  rcases hsettled : (c.settleKeys p b caches.keys).run x with ⟨fault | reported, y⟩
  · rw [hsettled] at hstate
    exact ⟨.unreported (by rw [hsettled]), hstate⟩
  · rw [hsettled] at hstate
    obtain rfl : y = x := hstate
    dsimp only
    cases hplan : c.plan p caches.types reported with
    | error e =>
      rw [c.runPlan_of_error _ _ _ _ _ hplan]
      exact ⟨.refused (by rw [hsettled]) hplan, rfl⟩
    | ok st =>
      rw [c.runPlan_of_ok _ _ _ _ _ hplan, Backend.run_fetch_cancelled]
      exact ⟨.cancelled (by rw [hsettled]) hplan, rfl⟩

end Call

/-- An operation of a repository whose signal is set sends no statement and leaves the database as it
is. -/
theorem Repository.halts_perform (r : Repository σ τ) (hquiet : r.backend.Quiet)
    (hset : r.access = .async true) (c : Call τ α) (s : Session σ) :
    c.Halts r.planner r.backend s.caches s.backend ((r.call c).perform s).1 ∧
      ((r.call c).perform s).2.backend = s.backend := by
  obtain ⟨hresult, hbackend, -⟩ := r.perform_call hquiet c s
  obtain ⟨hhalts, hstate⟩ := c.halts_effect hquiet r.planner s.caches s.backend
  rw [hset] at hresult hbackend
  rw [hresult, hbackend]
  exact ⟨hhalts, hstate⟩

/-! ### Other handles -/

namespace Handles

/-- Make calls through a handle, one after another. -/
def runCalls (r : Repository σ τ) (handle : Handle) :
    List (Σ α : Type, Call τ α) → Handles σ → Handles σ
  | [], h => h
  | ⟨_, c⟩ :: rest, h => runCalls r handle rest (h.run r handle fun r => r.call c).2.2

/-- The handles `h'` are what became of `h` without anything that an operation could notice: database
and signals are the same, and nothing was added to what is remembered but what the database would
answer again. -/
structure Unnoticed (b : Backend σ τ) (h h' : Handles σ) : Prop where
  /-- The database is in the same state. -/
  backend : h'.backend = h.backend
  /-- The same signals are set. -/
  cancelled : h'.cancelled = h.cancelled
  /-- What is remembered has only grown. -/
  caches (handle : Handle) : (h.caches handle).Grows b h.backend (h'.caches handle)

variable {b : Backend σ τ} {h h' h'' : Handles σ} {r : Repository σ τ} {handle : Handle}

/-- Two uses in a row that are not noticed are not noticed. -/
theorem Unnoticed.trans (hfirst : h.Unnoticed b h') (hsecond : h'.Unnoticed b h'') :
    h.Unnoticed b h'' where
  backend := hsecond.backend.trans hfirst.backend
  cancelled := hsecond.cancelled.trans hfirst.cancelled
  caches handle := by
    have hgrows := hsecond.caches handle
    rw [hfirst.backend] at hgrows
    exact (hfirst.caches handle).trans hgrows

/-- An operation that is run through a handle has the effect of its call, by what the handle
remembers. -/
theorem run_call (h : Handles σ) (handle : Handle) (hquiet : r.backend.Quiet) (c : Call τ α) :
    let effect := (c.effect r.planner (r.backend.through (h.access handle)) (h.caches handle)).run
      h.backend
    let after := (h.run r handle fun r => r.call c).2.2
    (h.run r handle fun r => r.call c).1 = effect.1 ∧ after.backend = effect.2 ∧
      after.cancelled = h.cancelled ∧ ∀ other,
        (h.caches other).Grows r.backend h.backend (after.caches other) := by
  obtain ⟨hresult, hbackend, hgrows⟩ :=
    Repository.perform_call { r with access := h.access handle } hquiet c
      { backend := h.backend, caches := h.caches handle }
  refine ⟨hresult, hbackend, ?_, fun other => ?_⟩
  · cases handle <;> rfl
  · -- the asynchronous handles share their caches, and the blocking one has its own
    cases handle <;> cases other
    exacts [hgrows, .refl _, .refl _, hgrows]

/-- An operation through a handle whose signal is set is not noticed. -/
theorem unnoticed_run (hquiet : r.backend.Quiet) (hset : h.access handle = .async true)
    (c : Call τ α) : h.Unnoticed r.backend (h.run r handle fun r => r.call c).2.2 := by
  obtain ⟨-, hbackend, hcancelled, hgrows⟩ := h.run_call handle hquiet c
  rw [hset] at hbackend
  exact ⟨hbackend.trans (c.halts_effect hquiet _ _ _).2, hcancelled, hgrows⟩

/-- Any number of operations through a handle whose signal is set is not noticed. -/
theorem unnoticed_runCalls (hquiet : r.backend.Quiet) (hset : h.access handle = .async true)
    (calls : List (Σ α : Type, Call τ α)) : h.Unnoticed r.backend (h.runCalls r handle calls) := by
  induction calls generalizing h with
  | nil => exact ⟨rfl, rfl, fun _ => .refl _⟩
  | cons call rest ih =>
    obtain ⟨α, c⟩ := call
    have hfirst := unnoticed_run hquiet hset c
    -- the signal is still set
    have hset' : ((h.run r handle fun r => r.call c).2.2).access handle = .async true := by
      cases handle with
      | blocking => cases hset
      | async signal => simpa only [access, hfirst.cancelled] using hset
    exact hfirst.trans (ih hset')

/-- Handles that were used without being noticed serve an operation as they did before. -/
theorem run_of_unnoticed (hquiet : r.backend.Quiet) (hunnoticed : h.Unnoticed r.backend h')
    (hopen : h.access handle ≠ .async true) (c : Call τ α) :
    (h'.run r handle fun r => r.call c).1 = (h.run r handle fun r => r.call c).1 ∧
      (h'.run r handle fun r => r.call c).2.2.backend =
        (h.run r handle fun r => r.call c).2.2.backend := by
  have haccess : h'.access handle = h.access handle := by
    cases handle with
    | blocking => rfl
    | async signal => simp only [access, hunnoticed.cancelled]
  obtain ⟨hresult, hbackend, -⟩ := h.run_call handle hquiet c
  obtain ⟨hresult', hbackend', -⟩ := h'.run_call handle hquiet c
  have hsame := c.effect_of_grows r.planner (hunnoticed.caches handle)
  rw [Backend.through_of_ne _ hopen, hsame] at hresult hbackend
  rw [haccess, Backend.through_of_ne _ hopen, hunnoticed.backend] at hresult' hbackend'
  exact ⟨hresult'.trans hresult.symm, hbackend'.trans hbackend.symm⟩

end Handles

/-! ### Engines -/

/-- A parameter that has its placeholder is refused for being a list alone. -/
theorem Parameter.exists_list_of_placed {p : Parameter} {d : Dialect} {placeholders : List String}
    {index : Nat} (hplaced : p.Placed d placeholders index) {fault : ExecutionError}
    (h : p.bind d placeholders index = .error fault) :
    fault = .unsupportedValue p.name ∧ ∃ vs, p.value = .list vs := by
  cases hvalue : p.value with
  | list vs =>
    rw [Parameter.bind_of_placed hplaced, cell_of_list hvalue] at h
    exact ⟨(Except.error.inj h).symm, vs, rfl⟩
  | _ =>
    rw [bind_eq_ok hplaced (by rw [hvalue]; rfl)] at h
    cases h

namespace Store

variable {engine : Engine}

/-- If an engine prepares a statement, it finds all placeholders that were written. -/
def Finds (engine : Engine) (db : Database) (st : Statement) : Prop :=
  ∀ prepared, engine db st = .ok prepared → prepared.placeholders = st.placeholders .whole

/-- The engine for statements of the library finds the placeholders of a statement that it reads as a
whole. -/
theorem finds_prepare {db : Database} {st : Statement} (hextent : st.extent? = some .whole) :
    Finds prepare db st := by
  intro prepared hprepare
  rw [prepare_of_whole hextent] at hprepare
  obtain ⟨execute, -, rfl⟩ := map_eq_ok_iff.1 hprepare
  rfl

/-- Once a statement is prepared, the first of its parameters that cannot be sent is reported. -/
theorem runBy_of_cells_eq_error {db : Database} {st : Statement} {fault : ExecutionError}
    {prepared : Prepared} (hprepare : engine db st = .ok prepared)
    (hcells : st.cells prepared.placeholders = .error fault) : runBy engine db st = .error fault := by
  unfold runBy
  rw [hprepare]
  show (st.cells prepared.placeholders >>= _) = _
  rw [hcells]
  rfl

/-- A statement fails for the engine, or for a parameter that cannot be sent. -/
theorem runBy_eq_error {db : Database} {st : Statement} {e : ExecutionError}
    (h : runBy engine db st = .error e) :
    (∃ fault, e = .engine fault) ∨
      ∃ prepared, engine db st = .ok prepared ∧ st.cells prepared.placeholders = .error e := by
  unfold runBy at h
  cases hprepare : engine db st with
  | error fault =>
    rw [hprepare] at h
    exact .inl ⟨fault, (Except.error.inj h).symm⟩
  | ok prepared =>
    rw [hprepare] at h
    change (st.cells prepared.placeholders >>= fun cells =>
      (prepared.execute fun i => cells.getD i .null).mapError .engine) = .error e at h
    cases hcells : st.cells prepared.placeholders with
    | error fault =>
      rw [hcells] at h
      obtain rfl := Except.error.inj h
      exact .inr ⟨prepared, rfl, hcells⟩
    | ok cells =>
      rw [hcells] at h
      change (prepared.execute fun i => cells.getD i .null).mapError .engine = .error e at h
      cases hexecute : prepared.execute fun i => cells.getD i .null with
      | error fault =>
        rw [hexecute] at h
        exact .inl ⟨fault, (Except.error.inj h).symm⟩
      | ok result =>
        rw [hexecute] at h
        cases h

/-- Of a statement that was built, or refreshed with other values, an engine that finds the placeholders
reports a parameter only for being a list. -/
theorem exists_list_of_reports {b : Builder} {r : Request} {types types' : TypeChain}
    {st st' : Statement} (hrun : b.run r types = (.ok st, types'))
    (hrefreshed : st' = st ∨ ∃ values, st.withValues values = .ok st') {db : Database}
    (hfinds : Finds engine db st') {e : ExecutionError} (hfailed : runBy engine db st' = .error e)
    (hreports : e.ReportsParameter) :
    ∃ p ∈ st'.parameters, e = .unsupportedValue p.name ∧ ∃ vs, p.value = .list vs := by
  rcases runBy_eq_error hfailed with ⟨fault, rfl⟩ | ⟨prepared, hprepare, hcells⟩
  · -- a fault of the engine reports no parameter
    cases hreports
  · rw [hfinds prepared hprepare, Statement.cells, mapM_eq_error_iff] at hcells
    obtain ⟨⟨p, i⟩, ⟨-, before, after, hsplit, -⟩, hbind⟩ := hcells
    have hmem : (p, i) ∈ st'.parameters.zipIdx := by simp [hsplit]
    obtain ⟨he, hlist⟩ :=
      Parameter.exists_list_of_placed (Builder.placed_run hrun hrefreshed _ hmem) hbind
    exact ⟨p, (List.mem_zipIdx' hmem).2 ▸ List.getElem_mem _, he, hlist⟩

/-! ### Connections -/

namespace Server

variable {engine : Engine} {name : String} {st : Statement} {tx : Option Transaction} {s : Server}

/-- The lookup of key columns changes no connection. -/
theorem quiet_backendBy (engine : Engine) (name : String) : (backendBy engine name).Quiet :=
  fun _ _ => rfl

/-- A transaction of another connection is refused. -/
theorem run_fetchBy_of_foreign (engine : Engine) {tx : Transaction} (st : Statement)
    (h : tx.owner ≠ name) (s : Server) :
    (fetchBy engine name st (some tx)).run s = (.error .foreignTransaction, s) := by
  show fetchBy engine name st (some tx) s = _
  unfold fetchBy
  rw [if_pos (by simpa using h)]

/-- A statement that fails leaves all connections as they are. -/
theorem run_fetchBy_of_error (howner : ¬ tx.any fun t => t.owner ≠ name) {e : ExecutionError}
    (h : runBy engine (s.connection name).current st = .error e) :
    (fetchBy engine name st tx).run s = (.error e, s) := by
  show fetchBy engine name st tx s = _
  unfold fetchBy
  rw [if_neg howner]
  simp only [h]

/-- A statement that is prepared fails for the first of its parameters that cannot be sent. -/
theorem run_fetchBy_of_cells_eq_error (howner : ¬ tx.any fun t => t.owner ≠ name)
    {prepared : Prepared} {e : ExecutionError}
    (hprepare : engine (s.connection name).current st = .ok prepared)
    (hcells : st.cells prepared.placeholders = .error e) :
    (fetchBy engine name st tx).run s = (.error e, s) := by
  apply run_fetchBy_of_error howner
  exact runBy_of_cells_eq_error hprepare hcells

/-- A statement fails for its transaction, for a signal that is set, or as it does on the tables of the
connection. -/
theorem run_fetchBy_eq_error {a : Access} {e : ExecutionError} {s' : Server}
    (h : (((backendBy engine name).through a).fetch st tx).run s = (.error e, s')) :
    e = .cancelled ∨ e = .foreignTransaction ∨
      runBy engine (s.connection name).current st = .error e := by
  by_cases hset : a = .async true
  · subst hset
    rw [Backend.run_fetch_cancelled] at h
    exact .inl (Except.error.inj (Prod.mk.inj h).1).symm
  · rw [Backend.through_of_ne _ hset] at h
    change fetchBy engine name st tx s = _ at h
    unfold fetchBy at h
    split_ifs at h with hforeign
    · exact .inr (.inl (Except.error.inj (Prod.mk.inj h).1).symm)
    · dsimp only at h
      split at h
      · cases h
      · next hrun =>
        obtain ⟨hresult, -⟩ := Prod.mk.inj h
        exact .inr (.inr (hrun.trans (congrArg Except.error (Except.error.inj hresult))))

/-- Executions that are refused leave all connections as they are, with their tables and their open
transactions, however the engine prepares statements.

A transaction of another connection is refused whatever the statement. A statement that prepares, built
or refreshed, is refused for the first of its parameters that has no placeholder or is a list. Once the
signal of a handle is set, every statement is refused, and every operation ends with the error of its
key columns, with that of its request, or as cancelled. Any number of such operations is not noticed by
an operation through another handle to the connection. An engine that finds the placeholders of a
statement reports none of its parameters if the statement was built, and only lists if it was then
refreshed; the engine for statements of the library finds them if there is no hint, or a hint that does
not hide what stands behind it. -/
theorem refused_execution (engine : Engine) (name : String) :
    (∀ (a : Access) (st : Statement) (tx : Transaction) (s : Server), a ≠ .async true →
      tx.owner ≠ name →
      (((backendBy engine name).through a).fetch st (some tx)).run s =
        (.error .foreignTransaction, s)) ∧
    (∀ (a : Access) (st : Statement) (tx : Option Transaction) (s : Server) prepared q fault,
      a ≠ .async true → st.dialect ≠ .mysql → (∀ t, tx = some t → t.owner = name) →
      engine (s.connection name).current st = .ok prepared →
      FirstWith (fun q => ∃ fault, Parameter.Misfit st.dialect prepared.placeholders q fault)
        st.parameters.zipIdx q →
      Parameter.Misfit st.dialect prepared.placeholders q fault →
      (((backendBy engine name).through a).fetch st tx).run s = (.error fault, s)) ∧
    (∀ (st : Statement) (tx : Option Transaction) (s : Server),
      (((backendBy engine name).through (.async true)).fetch st tx).run s =
        (.error .cancelled, s)) ∧
    (∀ {α : Type} (r : Repository Server Transaction) (c : Call Transaction α) (s : Session Server),
      r.backend = backendBy engine name → r.access = .async true →
      c.Halts r.planner r.backend s.caches s.backend ((r.call c).perform s).1 ∧
        ((r.call c).perform s).2.backend = s.backend) ∧
    (∀ {α : Type} (r r' : Repository Server Transaction) (cancelled handle : Handle)
      (calls : List (Σ α : Type, Call Transaction α)) (c : Call Transaction α) (h : Handles Server),
      r.backend = backendBy engine name → r'.backend = backendBy engine name →
      h.access cancelled = .async true → h.access handle ≠ .async true →
      let h' := h.runCalls r cancelled calls
      h'.backend = h.backend ∧
        (h'.run r' handle fun r => r.call c).1 = (h.run r' handle fun r => r.call c).1 ∧
        (h'.run r' handle fun r => r.call c).2.2.backend =
          (h.run r' handle fun r => r.call c).2.2.backend) ∧
    (∀ (b : Builder) (r : Request) (types types' : TypeChain) (st : Statement) (a : Access)
      (tx : Option Transaction) (s : Server), b.run r types = (.ok st, types') →
      (Finds engine (s.connection name).current st → ∀ e s',
        (((backendBy engine name).through a).fetch st tx).run s = (.error e, s') →
        ¬ e.ReportsParameter) ∧
      ∀ values st', st.withValues values = .ok st' → Finds engine (s.connection name).current st' →
        ∀ e s', (((backendBy engine name).through a).fetch st' tx).run s = (.error e, s') →
          e.ReportsParameter →
          ∃ p ∈ st'.parameters, e = .unsupportedValue p.name ∧ ∃ vs, p.value = .list vs) ∧
    ∀ db st, st.hint = none ∨ st.extent? = some .whole → Finds prepare db st := by
  refine ⟨fun a st tx s ha howner => ?_, fun a st tx s prepared q fault ha hd howner hprepare hfirst
    hmisfit => ?_, fun st tx s => rfl, fun r c s hbackend hset => ?_,
    fun r r' cancelled handle calls c h hbackend hbackend' hset hopen => ?_,
    fun b r types types' st a tx s hrun => ⟨fun hfinds e s' hfetch hreports => ?_,
      fun values st' hvalues hfinds e s' hfetch hreports => ?_⟩,
    fun db st hread => finds_prepare (hread.elim Statement.extent?_of_hint_eq_none id)⟩
  · rw [Backend.through_of_ne _ ha]
    exact run_fetchBy_of_foreign engine st howner s
  · -- the transaction, if there is one, is of this connection
    rw [Backend.through_of_ne _ ha]
    have hown : ¬ tx.any fun t => t.owner ≠ name := by
      cases tx with
      | none => simp
      | some t => simpa using howner t rfl
    apply run_fetchBy_of_cells_eq_error hown hprepare
    exact (Statement.cells_eq_error_iff hd).2 ⟨q, hfirst, hmisfit⟩
  · exact r.halts_perform (hbackend ▸ quiet_backendBy engine name) hset c s
  · -- both repositories are over the same connection
    have hunnoticed := Handles.unnoticed_runCalls (hbackend ▸ quiet_backendBy engine name) hset calls
    rw [hbackend, ← hbackend'] at hunnoticed
    exact ⟨hunnoticed.backend,
      Handles.run_of_unnoticed (hbackend' ▸ quiet_backendBy engine name) hunnoticed hopen c⟩
  · -- neither a signal nor an owner reports a parameter, and a list is not built
    rcases run_fetchBy_eq_error hfetch with rfl | rfl | hfailed
    · cases hreports
    · cases hreports
    · obtain ⟨p, hp, -, vs, hvs⟩ := exists_list_of_reports hrun (.inl rfl) hfinds hfailed hreports
      have hscalar := Builder.isList_run hrun p hp
      rw [hvs] at hscalar
      cases hscalar
  · rcases run_fetchBy_eq_error hfetch with rfl | rfl | hfailed
    · cases hreports
    · cases hreports
    · exact exists_list_of_reports hrun (.inr ⟨values, hvalues⟩) hfinds hfailed hreports

/-- A count that is given a transaction of the other connection, then a list, and then started through
a handle whose signal is set, beside an open transaction. -/
theorem refused_execution_count :
    let t : Table := { schema := { name := "t", columns := ["Id"] }, rows := [[.integer 1]] }
    let s : Server :=
      { connections := [("a", { current := [t], saved := some [] }), ("b", { current := [] })] }
    let e := Entity.ofTable { name := "t" }
    let request : Request :=
      { entity := e, operation := .count
        filter := { children := [.leaf (.eq { name := "Id" } (.int 1))] } }
    let r : Repository Server Transaction := { backend := backend "a", access := .async true }
    let c : Call Transaction Nat := .count e none none none
    let h : Handles Server := { backend := s, blocking := {}, async := {}, cancelled := [none] }
    ∃ st st' types', ({ dialect := .sqlite } : Builder).run request {} = (.ok st, types') ∧
      st.withValues [.list []] = .ok st' ∧
      ((backend "a").fetch st (some { owner := "b" })).run s = (.error .foreignTransaction, s) ∧
      ((backend "a").fetch st' none).run s = (.error (.unsupportedValue "p0"), s) ∧
      (((backend "a").through (.async true)).fetch st none).run s = (.error .cancelled, s) ∧
      ((r.call c).perform { backend := s, caches := {} }).2.backend = s ∧
      ((h.runCalls r (.async none) [⟨Nat, c⟩]).run r (.async (some "fresh")) fun r => r.call c).1 =
        (h.run r (.async (some "fresh")) fun r => r.call c).1 ∧
      ∀ e s', ((backend "a").fetch st none).run s = (.error e, s') → ¬ e.ReportsParameter := by
  intro t s e request r c h
  let p : Parameter := { name := "p0", value := .list [], dbType := none }
  let st : Statement :=
    { dialect := .sqlite, hint := none
      command := .count { table := { name := "t" }
                          filter := { children := [.leaf ⟨"Id", .compare .eq 0⟩] } }
      parameters := [{ p with value := .int 1 }] }
  let st' : Statement := { st with parameters := [p] }
  have hrun : ∃ types', ({ dialect := .sqlite } : Builder).run request {} = (.ok st, types') :=
    ⟨_, rfl⟩
  obtain ⟨types', hrun⟩ := hrun
  have hst' : st.withValues [.list []] = .ok st' := rfl
  have htable : target (s.connection "a").current { name := "t" } = .ok t := by
    show target [t] _ = _
    simp [target, Database.table?, sameName, t]
  obtain ⟨execute, hprepare⟩ : ∃ execute, prepare (s.connection "a").current st' =
      .ok { placeholders := ["@p0"], execute } := by
    rw [prepare_of_whole rfl]
    unfold check
    dsimp only [st', st]
    rw [htable]
    exact ⟨_, rfl⟩
  have hmisfit : Parameter.Misfit .sqlite ["@p0"] (p, 0) (.unsupportedValue "p0") :=
    .list (by decide) rfl
  obtain ⟨hforeign, hmisfits, hcancelled, hhalts, hothers, hbuilt, hfinds⟩ :=
    refused_execution prepare "a"
  refine ⟨st, st', types', hrun, hst', hforeign .blocking st _ s (by decide) (by decide),
    hmisfits .blocking st' none s _ (p, 0) _ (by decide) (by decide) (by simp) hprepare ?_
      hmisfit,
    hcancelled st none s, (hhalts r c { backend := s, caches := {} } rfl rfl).2, ?_,
    (hbuilt _ _ _ _ st .blocking none s hrun).1 (hfinds _ st (.inl rfl))⟩
  · exact firstWith_cons_iff.2 (.inl ⟨⟨_, hmisfit⟩, rfl⟩)
  · exact (hothers r r (.async none) (.async (some "fresh")) [⟨Nat, c⟩] c h rfl rfl rfl
      (by decide)).2.1

/-- A hint that opens a comment hides the condition of a count behind it. The statement was built, it
prepares, and then its parameter has no placeholder. -/
theorem hidden_placeholder :
    let t : Table := { schema := { name := "t", columns := ["Id"] }, rows := [[.integer 1]] }
    let s : Server := { connections := [("a", { current := [t] })] }
    let request : Request :=
      { entity := Entity.ofTable { name := "t" }, operation := .count, hint := some "--"
        filter := { children := [.leaf (.eq { name := "Id" } (.int 1))] } }
    ∃ st types', ({ dialect := .sqlite } : Builder).run request {} = (.ok st, types') ∧
      (∃ prepared, prepare (s.connection "a").current st = .ok prepared) ∧
      ((backend "a").fetch st none).run s = (.error (.unboundParameter "p0"), s) := by
  intro t s request
  let st : Statement :=
    { dialect := .sqlite, hint := some "--"
      command := .count { table := { name := "t" }
                          filter := { children := [.leaf ⟨"Id", .compare .eq 0⟩] } }
      parameters := [{ name := "p0", value := .int 1, dbType := none }] }
  have hrun : ∃ types', ({ dialect := .sqlite } : Builder).run request {} = (.ok st, types') :=
    ⟨_, rfl⟩
  obtain ⟨types', hrun⟩ := hrun
  -- of the statement, only what stands in front of the hint is read
  have hextent : st.extent? = some .front := by decide +kernel
  have hnone : st.placeholders .front = [] := by decide +kernel
  let front : Command := .count { table := { name := "t" }, filter := {} }
  obtain ⟨execute, hcheck⟩ : ∃ execute, check [t] .sqlite front = .ok execute := by
    have htable : target [t] { name := "t" } = .ok t := by
      simp [target, Database.table?, sameName, t]
    unfold check
    dsimp only [front]
    rw [htable]
    exact ⟨_, rfl⟩
  have hprepare : prepare (s.connection "a").current st = .ok { placeholders := [], execute } := by
    show prepare [t] st = _
    rw [prepare_of_visible hextent (c := front) rfl, hnone]
    show (check [t] .sqlite front).map _ = _
    rw [hcheck]
    rfl
  have hcells : st.cells [] = .error (.unboundParameter "p0") := rfl
  have hfetch : ∀ st s, ((backend "a").fetch st none).run s = (fetchBy prepare "a" st none).run s :=
    fun _ _ => rfl
  refine ⟨st, types', hrun, ⟨_, hprepare⟩, ?_⟩
  rw [hfetch]
  exact run_fetchBy_of_cells_eq_error (by simp) hprepare hcells

end Server

end Store

end FilterSql
