import FilterSql.Proofs.RefusedExecutions

/-!
# Transactions are all or nothing

While a transaction is open on a connection, operations go on as they would on the tables alone: each
one finds what the earlier ones left. Giving the handle up restores the tables as they were at the
beginning, and committing keeps them as they are. A handle ends its transaction once. Handles that are
held belong to transactions that are open, one for each, so no step that concerns another handle ends
the transaction.

## Main definitions

* `Store.tables`: the tables of a connection as a database without transactions;
* `Server.Step`, `Server.stepAll`: what a program does on a server, one thing after another;
* `Server.Sound`: every handle that is held belongs to an open transaction of its own;
* `Step.inside`: what a step is while a transaction is open, as far as the tables are concerned.

## Main results

* `Server.mirrors_backend`: operations on a connection go as on its tables alone;
* `Server.Sound.stepAll`: handles stay sound along every run;
* `Server.Inside.stepAll`: a transaction stays open along a run, and what is done in it is done to the
  tables;
* `Server.transaction_ends`: a transaction keeps all of what was done in it, or nothing.
-/

namespace FilterSql

variable {σ σ' : Type}

/-- Databases that answer alike do so behind a signal too. -/
theorem Backend.Mirrors.through {τ : Type} {R : σ → σ' → Prop} {b : Backend σ τ} {b' : Backend σ' τ}
    (h : b.Mirrors R b') (a : Access) : (b.through a).Mirrors R (b'.through a) := by
  cases a with
  | blocking => exact h
  | async cancelled =>
    cases cancelled with
    | false => exact h
    | true =>
      exact
        { dialect := h.dialect
          fetch := fun _ _ hx _ _ => ⟨rfl, hx⟩
          keyColumns := h.keyColumns }

namespace Store

/-- The tables of a connection as a database of their own. Statements change the tables, and nothing
begins or ends. -/
def tables (name : String) : Backend Database Transaction where
  dialect := .sqlite
  fetch st tx := fun db =>
    if tx.any fun tx => tx.owner ≠ name then (.error .foreignTransaction, db)
    else
      match run db st with
      | .ok (db, rows) => (.ok rows, db)
      | .error e => (.error e, db)
  keyColumns table := fun db => (keyColumns db table, db)

/-- Run an operation on a backend: its result, and the state that it leaves. -/
def operate {α : Type} (b : Backend σ Transaction) (options : RepositoryOptions) (access : Access)
    (caches : Caches) (c : Call Transaction α) (x : σ) : Except QueryError α × σ :=
  let (result, s) := (Repository.call { backend := b, options, access } c).perform
    { backend := x, caches }
  (result, s.backend)

/-- Operations go alike on databases that answer alike. -/
theorem operate_alike {α : Type} {R : σ → σ' → Prop} {b : Backend σ Transaction}
    {b' : Backend σ' Transaction} (h : b.Mirrors R b') (options : RepositoryOptions) (access : Access)
    (caches : Caches) (c : Call Transaction α) {x : σ} {x' : σ'} (hx : R x x') :
    (operate b options access caches c x).1 = (operate b' options access caches c x').1 ∧
      R (operate b options access caches c x).2 (operate b' options access caches c x').2 := by
  have halike : Action.Alike R (Repository.call { backend := b, options, access } c)
      (Repository.call { backend := b', options, access } c) := by
    rw [Repository.call_eq, Repository.call_eq]
    apply BlockingRepository.alike_call
    · exact h.through access
    · rfl
  have hstart : Session.Alike R { backend := x, caches } { backend := x', caches } :=
    ⟨hx, rfl, rfl⟩
  obtain ⟨hresult, hafter⟩ := halike.perform hstart
  exact ⟨hresult, hafter.backend⟩

namespace Server

/-! ### Connections one by one -/

/-- Replacing a connection leaves the other ones. -/
theorem connection_setConnection_of_ne (s : Server) {name other : String} (h : other ≠ name)
    (c : Connection) : (s.setConnection name c).connection other = s.connection other := by
  simp [connection, setConnection, Assoc.get?_insert, h]

/-- The server `s` is what `s₀` is with the tables `db` on a connection. -/
structure Holds (name : String) (s₀ s : Server) (db : Database) : Prop where
  /-- The connection has these tables. -/
  connection : s.connection name = { s₀.connection name with current := db }
  /-- The other connections are the same. -/
  others : ∀ other, other ≠ name → s.connection other = s₀.connection other
  /-- The same handles are held. -/
  handles : s.handles = s₀.handles

/-- Every server is what it is itself with the tables that it has. -/
theorem Holds.refl (name : String) (s : Server) : Holds name s s (s.connection name).current :=
  ⟨rfl, fun _ _ => rfl, rfl⟩

/-- Operations on a connection go as on its tables alone, and change nothing else. -/
theorem mirrors_backend (name : String) (s₀ : Server) :
    (backend name).Mirrors (Holds name s₀) (tables name) where
  dialect := rfl
  fetch := by
    intro s db h st tx
    have hcurrent : (s.connection name).current = db := by rw [h.connection]
    show (fetch name st tx s).1 = ((tables name).fetch st tx db).1 ∧
      Holds name s₀ (fetch name st tx s).2 ((tables name).fetch st tx db).2
    unfold fetch fetchBy tables run
    dsimp only
    rw [hcurrent]
    by_cases hforeign : tx.any fun tx => tx.owner ≠ name
    · rw [if_pos hforeign, if_pos hforeign]
      exact ⟨rfl, h⟩
    · rw [if_neg hforeign, if_neg hforeign]
      cases runBy prepare db st with
      | error e => exact ⟨rfl, h⟩
      | ok result =>
        refine ⟨rfl, ?_, fun other hother => ?_, h.handles⟩
        · rw [connection_setConnection, h.connection]
        · rw [connection_setConnection_of_ne _ hother]
          exact h.others other hother
  keyColumns := by
    intro s db h table
    have hcurrent : (s.connection name).current = db := by rw [h.connection]
    exact ⟨congrArg (keyColumns · table) hcurrent, h⟩

/-! ### Steps -/

/-- What a program does on a server. -/
inductive Step : Type 1 where
  /-- An operation on a connection, run in some way and with something remembered. -/
  | call {α : Type} (name : String) (options : RepositoryOptions) (access : Access)
    (caches : Caches) (c : Call Transaction α)
  /-- An attempt to open a transaction on a connection and to hold its handle under a label. -/
  | begin (name label : String)
  | commit (label : String)
  | rollback (label : String)
  | drop (label : String)

/-- What a step gives back. -/
inductive Reply : Type 1 where
  /-- The result of an operation. -/
  | result {α : Type} (result : Except QueryError α)
  /-- The outcome of beginning or ending a transaction. -/
  | outcome (outcome : Except ExecutionError Unit)

/-- Take a step. -/
def step (s : Server) : Step → Reply × Server
  | .call name options access caches c =>
    let (result, s) := operate (backend name) options access caches c s
    (.result result, s)
  | .begin name label => let (outcome, s) := s.begin name label; (.outcome outcome, s)
  | .commit label => let (outcome, s) := s.commit label; (.outcome outcome, s)
  | .rollback label => let (outcome, s) := s.rollback label; (.outcome outcome, s)
  | .drop label => (.outcome (.ok ()), s.drop label)

/-- Take steps one after another. -/
def stepAll (s : Server) : List Step → List Reply × Server
  | [] => ([], s)
  | t :: rest =>
    let (reply, s) := s.step t
    let (replies, s) := s.stepAll rest
    (reply :: replies, s)

/-! ### Handles -/

/-- Every handle that is held belongs to an open transaction of its own. -/
structure Sound (s : Server) : Prop where
  /-- A handle that is held is not finished. -/
  unfinished {label : String} {tx : Transaction} : s.handles.get? label = some tx →
    tx.finished = false
  /-- Its transaction is open. -/
  opened {label : String} {tx : Transaction} : s.handles.get? label = some tx →
    (s.connection tx.owner).saved ≠ none
  /-- No other handle belongs to that connection. -/
  unique {label label' : String} {tx tx' : Transaction} : s.handles.get? label = some tx →
    s.handles.get? label' = some tx' → tx.owner = tx'.owner → label = label'

/-- The server `s'` is what `s` becomes when the transaction ends whose handle `tx` is held under a
label, and leaves the tables `db`. -/
structure Ended (s s' : Server) (label : String) (tx : Transaction) (db : Database) : Prop where
  /-- The connection has these tables, and no transaction is open on it. -/
  connection : s'.connection tx.owner = { current := db }
  /-- The other connections are the same. -/
  others : ∀ name, name ≠ tx.owner → s'.connection name = s.connection name
  /-- The handle is not held any more. -/
  handles : s'.handles = s.handles.erase label

/-- A finished handle is given up without consequences. -/
theorem release_of_finished (s : Server) {tx : Transaction} (h : tx.finished = true) :
    s.release tx = s := by
  rw [release, if_pos h]

/-- Giving a handle up does not look at the handles that are held. -/
theorem release_handles (s : Server) (handles : Assoc String Transaction) (tx : Transaction) :
    ({ s with handles } : Server).release tx = { s.release tx with handles } := by
  have hconnection :
      ({ s with handles } : Server).connection tx.owner = s.connection tx.owner := rfl
  unfold release change
  rw [hconnection]
  by_cases hfinished : tx.finished = true
  · rw [if_pos hfinished, if_pos hfinished]
  · rw [if_neg hfinished, if_neg hfinished]
    cases Connection.rollback (s.connection tx.owner) <;> rfl

/-- Giving a handle up does not change which ones are held. -/
theorem handles_release (s : Server) (tx : Transaction) : (s.release tx).handles = s.handles := by
  have hrelease := congrArg Server.handles (s.release_handles s.handles tx)
  exact hrelease

/-- A label without a handle has nothing to give up. -/
theorem drop_of_none {s : Server} {label : String} (h : s.handles.get? label = none) :
    s.drop label = s := by
  simp only [drop, take, h, Assoc.erase_of_get?_eq_none h]

/-- A label without a handle has nothing to finish. -/
theorem finish_of_none {s : Server} {label : String} (h : s.handles.get? label = none)
    (f : Connection → Except EngineFault Connection) : s.finish label f = (.ok (), s) := by
  simp only [finish, take, h, Assoc.erase_of_get?_eq_none h]

/-- A transaction is finished by what its connection becomes, and its handle is not asked again. -/
theorem ended_finish {s : Server} {label : String} {tx : Transaction} {db : Database}
    {f : Connection → Except EngineFault Connection} (hheld : s.handles.get? label = some tx)
    (hf : f (s.connection tx.owner) = .ok { current := db }) :
    (s.finish label f).1 = .ok () ∧ s.Ended (s.finish label f).2 label tx db := by
  have hfinish : s.finish label f = (.ok (),
      ({ s with handles := s.handles.erase label } : Server).setConnection tx.owner
        { current := db }) := by
    have hchange : f (({ s with handles := s.handles.erase label } : Server).connection tx.owner) =
        .ok { current := db } := hf
    simp only [finish, take, hheld, change, hchange]
    rw [release_of_finished _ rfl]
  rw [hfinish]
  exact ⟨rfl, connection_setConnection _ _ _, fun _ h => connection_setConnection_of_ne _ h _, rfl⟩

/-- A transaction that is rolled back leaves the tables as they were at the beginning. -/
theorem ended_rollback {s : Server} {label : String} {tx : Transaction} {before : Database}
    (hheld : s.handles.get? label = some tx)
    (hsaved : (s.connection tx.owner).saved = some before) :
    (s.rollback label).1 = .ok () ∧ s.Ended (s.rollback label).2 label tx before := by
  apply ended_finish hheld
  rw [Connection.rollback, hsaved]

/-- A transaction that is committed leaves the tables as they are. -/
theorem ended_commit {s : Server} {label : String} {tx : Transaction}
    (hheld : s.handles.get? label = some tx) (hopened : (s.connection tx.owner).saved ≠ none) :
    (s.commit label).1 = .ok () ∧
      s.Ended (s.commit label).2 label tx (s.connection tx.owner).current := by
  apply ended_finish hheld
  obtain ⟨before, hsaved⟩ := Option.ne_none_iff_exists'.1 hopened
  rw [Connection.commit, hsaved]

/-- A transaction whose handle is given up is rolled back. -/
theorem ended_drop {s : Server} {label : String} {tx : Transaction} {before : Database}
    (hheld : s.handles.get? label = some tx) (hunfinished : tx.finished = false)
    (hsaved : (s.connection tx.owner).saved = some before) :
    s.Ended (s.drop label) label tx before := by
  have hdrop : s.drop label =
      ({ s with handles := s.handles.erase label } : Server).setConnection tx.owner
        { current := before } := by
    have hrollback : Connection.rollback
        (({ s with handles := s.handles.erase label } : Server).connection tx.owner) =
          .ok { current := before } := by
      show Connection.rollback (s.connection tx.owner) = _
      rw [Connection.rollback, hsaved]
    simp only [drop, take, hheld, release, hunfinished, Bool.false_eq_true, if_false, change,
      hrollback]
  rw [hdrop]
  exact ⟨connection_setConnection _ _ _, fun _ h => connection_setConnection_of_ne _ h _, rfl⟩

/-- A second transaction on a connection is refused, and the first one goes on. -/
theorem begin_of_opened {s : Server} {name : String} (h : (s.connection name).saved ≠ none)
    (label : String) : s.begin name label = (.error (.engine .transactionOpen), s) := by
  obtain ⟨before, hsaved⟩ := Option.ne_none_iff_exists'.1 h
  simp only [begin, change, Connection.begin, hsaved]

/-- A transaction is opened with the tables as they are, and a handle that was held under its label is
given up. -/
theorem begin_of_closed {s : Server} {name : String} (h : (s.connection name).saved = none)
    (label : String) :
    let current := (s.connection name).current
    let last := (s.setConnection name { current, saved := some current }).drop label
    s.begin name label =
      (.ok (), { last with handles := last.handles.insert label { owner := name } }) := by
  intro current last
  have hbegin : Connection.begin (s.connection name) = .ok { current, saved := some current } := by
    rw [Connection.begin, h]
  have hhandles : (s.setConnection name { current, saved := some current }).handles = s.handles := rfl
  simp only [begin, change, hbegin, hhandles]
  cases hheld : s.handles.get? label with
  | none =>
    have hlast : last = s.setConnection name { current, saved := some current } := drop_of_none hheld
    rw [hlast]
  | some old =>
    -- the old handle is taken out before it is given up, which makes no difference to the new one
    have hlast : last =
        { (s.setConnection name { current, saved := some current }).release old with
          handles := s.handles.erase label } := by
      simp only [last, drop, take, hhandles, hheld]
      exact release_handles _ _ _
    rw [hlast]
    simp only [handles_release, hhandles, Assoc.insert_erase]

namespace Sound

variable {s s' : Server}

/-- Handles stay sound when the same ones are held and no transaction has ended. -/
theorem of_handles_eq (h : s.Sound) (hhandles : s'.handles = s.handles)
    (hsaved : ∀ name, (s.connection name).saved ≠ none → (s'.connection name).saved ≠ none) :
    s'.Sound where
  unfinished hheld := h.unfinished (hhandles ▸ hheld)
  opened hheld := hsaved _ (h.opened (hhandles ▸ hheld))
  unique hheld hheld' := h.unique (hhandles ▸ hheld) (hhandles ▸ hheld')

/-- Handles stay sound when a transaction ends. -/
theorem ended (h : s.Sound) {label : String} {tx : Transaction} {db : Database}
    (hheld : s.handles.get? label = some tx) (hended : s.Ended s' label tx db) : s'.Sound := by
  -- a handle that is still held was held before, under another label
  have hbefore {l : String} {t : Transaction} (hl : s'.handles.get? l = some t) :
      l ≠ label ∧ s.handles.get? l = some t := by
    rw [hended.handles, Assoc.get?_erase] at hl
    split_ifs at hl with hlabel
    exact ⟨hlabel, hl⟩
  refine ⟨fun hl => h.unfinished (hbefore hl).2, fun {l t} hl => ?_,
    fun hl hl' => h.unique (hbefore hl).2 (hbefore hl').2⟩
  obtain ⟨hlabel, hl⟩ := hbefore hl
  have hother : t.owner ≠ tx.owner := fun howner => hlabel (h.unique hl hheld howner)
  rw [hended.others _ hother]
  exact h.opened hl

/-- Handles stay sound when the one under a label is given up, and the other connections stay as they
are. -/
theorem drop (h : s.Sound) (label : String) :
    (s.drop label).Sound ∧ (s.drop label).handles = s.handles.erase label ∧
      ∀ name, (∀ tx, s.handles.get? label = some tx → name ≠ tx.owner) →
        (s.drop label).connection name = s.connection name := by
  cases hheld : s.handles.get? label with
  | none =>
    rw [drop_of_none hheld]
    exact ⟨h, (Assoc.erase_of_get?_eq_none hheld).symm, fun _ _ => rfl⟩
  | some tx =>
    obtain ⟨before, hsaved⟩ := Option.ne_none_iff_exists'.1 (h.opened hheld)
    have hended := ended_drop hheld (h.unfinished hheld) hsaved
    exact ⟨h.ended hheld hended, hended.handles, fun name hname => hended.others name (hname tx rfl)⟩

/-- Handles stay sound when a transaction is opened on a connection: a handle that was held under its
label belongs to another connection. -/
theorem opens (h : s.Sound) {name : String} (hclosed : (s.connection name).saved = none)
    (label : String) :
    let current := (s.connection name).current
    (s.begin name label).1 = .ok () ∧ (s.begin name label).2.Sound ∧
      (s.begin name label).2.connection name = { current, saved := some current } ∧
      (s.begin name label).2.handles = s.handles.insert label { owner := name } ∧
      ∀ other, other ≠ name → (∀ tx, s.handles.get? label = some tx → other ≠ tx.owner) →
        (s.begin name label).2.connection other = s.connection other := by
  intro current
  have hother {l : String} {t : Transaction} (hl : s.handles.get? l = some t) : t.owner ≠ name :=
    fun howner => h.opened hl (howner ▸ hclosed)
  -- the transaction is opened first, and then the handle under the label is given up
  let middle := s.setConnection name { current, saved := some current }
  have hmiddle : middle.Sound := h.of_handles_eq rfl fun other hsaved => by
    by_cases hname : other = name
    · rw [hname, connection_setConnection]
      simp
    · rwa [connection_setConnection_of_ne _ hname]
  obtain ⟨hdrop, hhandles, hothers⟩ := hmiddle.drop label
  have hconnection : (middle.drop label).connection name = { current, saved := some current } := by
    rw [hothers name fun tx hheld => (hother hheld).symm]
    exact connection_setConnection _ _ _
  rw [begin_of_closed hclosed]
  refine ⟨rfl, ?_, hconnection, ?_, fun other hname hheld => ?_⟩
  · -- the new handle is the only one that belongs to the connection
    have hinserted {l : String} {t : Transaction}
        (hl : (((middle.drop label).handles.insert label { owner := name }).get? l) = some t) :
        l = label ∧ t = { owner := name } ∨ (middle.drop label).handles.get? l = some t ∧
          t.owner ≠ name := by
      rw [Assoc.get?_insert] at hl
      split_ifs at hl with hlabel
      · exact .inl ⟨hlabel, (Option.some.inj hl).symm⟩
      · refine .inr ⟨hl, ?_⟩
        rw [hhandles, Assoc.get?_erase, if_neg hlabel] at hl
        exact hother hl
    constructor
    · intro l t hl
      rcases hinserted hl with ⟨-, rfl⟩ | ⟨hl, -⟩
      · rfl
      · exact hdrop.unfinished hl
    · intro l t hl
      rcases hinserted hl with ⟨-, rfl⟩ | ⟨hl, -⟩
      · show ((middle.drop label).connection name).saved ≠ none
        rw [hconnection]
        simp
      · exact hdrop.opened hl
    · intro l l' t t' hl hl' howner
      rcases hinserted hl with ⟨rfl, rfl⟩ | ⟨hl, hne⟩ <;>
        rcases hinserted hl' with ⟨rfl, rfl⟩ | ⟨hl', hne'⟩
      · rfl
      · exact absurd howner.symm hne'
      · exact absurd howner hne
      · exact hdrop.unique hl hl' howner
  · show (middle.drop label).handles.insert label _ = _
    rw [hhandles]
    exact Assoc.insert_erase _ _ _
  · show (middle.drop label).connection other = _
    rw [hothers other hheld]
    exact connection_setConnection_of_ne _ hname _

/-- Handles stay sound when a transaction is finished in one way or the other. -/
theorem finish {f : Connection → Except EngineFault Connection} (h : s.Sound) (label : String)
    (hf : ∀ c, c.saved ≠ none → ∃ db, f c = .ok { current := db }) :
    (s.finish label f).2.Sound ∧
      (s.finish label f).2.handles = s.handles.erase label ∧
      ∀ name, (∀ tx, s.handles.get? label = some tx → name ≠ tx.owner) →
        (s.finish label f).2.connection name = s.connection name := by
  cases hheld : s.handles.get? label with
  | none =>
    rw [finish_of_none hheld]
    exact ⟨h, (Assoc.erase_of_get?_eq_none hheld).symm, fun _ _ => rfl⟩
  | some tx =>
    obtain ⟨db, hdb⟩ := hf _ (h.opened hheld)
    obtain ⟨-, hended⟩ := ended_finish hheld hdb
    exact ⟨h.ended hheld hended, hended.handles, fun name hname => hended.others name (hname tx rfl)⟩

end Sound

/-- Committing an open transaction closes it. -/
theorem commit_eq_ok (c : Connection) (h : c.saved ≠ none) :
    ∃ db, c.commit = .ok { current := db } := by
  obtain ⟨before, hsaved⟩ := Option.ne_none_iff_exists'.1 h
  exact ⟨c.current, by rw [Connection.commit, hsaved]⟩

/-- Rolling an open transaction back closes it. -/
theorem rollback_eq_ok (c : Connection) (h : c.saved ≠ none) :
    ∃ db, c.rollback = .ok { current := db } := by
  obtain ⟨before, hsaved⟩ := Option.ne_none_iff_exists'.1 h
  exact ⟨before, by rw [Connection.rollback, hsaved]⟩

/-- An operation on a connection has the result that it has on the tables alone, and changes nothing but
these. -/
theorem holds_operate {α : Type} (s : Server) (name : String) (options : RepositoryOptions)
    (access : Access) (caches : Caches) (c : Call Transaction α) :
    (operate (backend name) options access caches c s).1 =
        (operate (tables name) options access caches c (s.connection name).current).1 ∧
      Holds name s (operate (backend name) options access caches c s).2
        (operate (tables name) options access caches c (s.connection name).current).2 :=
  operate_alike (mirrors_backend name s) options access caches c (Holds.refl name s)

/-- Handles stay sound in every step. -/
theorem Sound.step {s : Server} (h : s.Sound) (t : Step) : (s.step t).2.Sound := by
  cases t with
  | call name options access caches c =>
    obtain ⟨-, hholds⟩ := s.holds_operate name options access caches c
    refine h.of_handles_eq hholds.handles fun other hsaved => ?_
    by_cases hother : other = name
    · subst hother
      show ((operate (backend other) options access caches c s).2.connection other).saved ≠ none
      rwa [hholds.connection]
    · show ((operate (backend name) options access caches c s).2.connection other).saved ≠ none
      rwa [hholds.others other hother]
  | begin name label =>
    by_cases hclosed : (s.connection name).saved = none
    · exact (h.opens hclosed label).2.1
    · show (s.begin name label).2.Sound
      rwa [begin_of_opened hclosed]
  | commit label => exact (h.finish label commit_eq_ok).1
  | rollback label => exact (h.finish label rollback_eq_ok).1
  | drop label => exact (h.drop label).1

/-- Handles stay sound along every run. -/
theorem Sound.stepAll {s : Server} (h : s.Sound) (steps : List Step) : (s.stepAll steps).2.Sound := by
  induction steps generalizing s with
  | nil => exact h
  | cons t rest ih => exact ih (h.step t)

/-- A server without handles is sound. -/
theorem sound_of_handles_eq_nil {s : Server} (h : s.handles = []) : s.Sound := by
  constructor <;> simp [h]

/-! ### Inside a transaction -/

/-- What a step does to the tables of a connection while a transaction is open on it, and what it gives
back if it is a step on this connection. An operation acts on the tables; an attempt to open another
transaction is refused. -/
def Step.inside (name : String) : Step → Database → Option Reply × Database
  | .call other options access caches c, db =>
    if other = name then
      let (result, db) := operate (tables name) options access caches c db
      (some (.result result), db)
    else (none, db)
  | .begin other _, db =>
    (if other = name then some (.outcome (.error (.engine .transactionOpen))) else none, db)
  | .commit _, db | .rollback _, db | .drop _, db => (none, db)

/-- An operation on the connection is one on its tables. -/
theorem Step.inside_call {α : Type} (name : String) (options : RepositoryOptions) (access : Access)
    (caches : Caches) (c : Call Transaction α) (db : Database) :
    (Step.call name options access caches c).inside name db =
      (some (.result (operate (tables name) options access caches c db).1),
        (operate (tables name) options access caches c db).2) :=
  if_pos rfl

/-- An operation on another connection is none on the tables. -/
theorem Step.inside_call_of_ne {α : Type} {name other : String} (h : other ≠ name)
    (options : RepositoryOptions) (access : Access) (caches : Caches) (c : Call Transaction α)
    (db : Database) : (Step.call other options access caches c).inside name db = (none, db) :=
  if_neg h

/-- What steps do to the tables of a connection while a transaction is open on it, one after another. -/
def insideAll (name : String) : List Step → Database → List (Option Reply) × Database
  | [], db => ([], db)
  | t :: rest, db =>
    let (reply, db) := t.inside name db
    let (replies, db) := insideAll name rest db
    (reply :: replies, db)

/-- A step does not end the transaction on a connection whose handle is held under a label: it neither
commits it, nor rolls it back, nor gives its handle up, be it for the one of another connection. -/
def Step.Spares (name label : String) : Step → Prop
  | .call .. => True
  | .begin other l => other = name ∨ l ≠ label
  | .commit l | .rollback l | .drop l => l ≠ label

/-- A transaction is open on a connection that began with the tables `before` and has come to the tables
`db`, and its handle is held under a label. -/
structure Inside (name label : String) (before : Database) (s : Server) (db : Database) : Prop where
  /-- The handles are sound. -/
  sound : s.Sound
  /-- The connection has these tables, and would go back to those of the beginning. -/
  connection : s.connection name = { current := db, saved := some before }
  /-- The handle is held. -/
  held : s.handles.get? label = some { owner := name }

namespace Inside

variable {name label : String} {before db : Database} {s s' : Server}

/-- A transaction stays open when its connection and its handle stay as they are. -/
theorem of_eq (h : Inside name label before s db) (hsound : s'.Sound)
    (hconnection : s'.connection name = s.connection name)
    (hheld : s'.handles.get? label = s.handles.get? label) : Inside name label before s' db :=
  ⟨hsound, hconnection.trans h.connection, hheld.trans h.held⟩

/-- No other handle belongs to the connection. -/
theorem owner_ne (h : Inside name label before s db) {l : String} (hl : l ≠ label) {tx : Transaction}
    (hheld : s.handles.get? l = some tx) : name ≠ tx.owner :=
  fun howner => hl (h.sound.unique hheld h.held howner.symm)

/-- A transaction stays open when another handle is taken out, and the connections of the others stay
as they are. -/
theorem of_erase (h : Inside name label before s db) {l : String} (hl : l ≠ label)
    (hsound : s'.Sound) (hhandles : s'.handles = s.handles.erase l)
    (hothers : ∀ name, (∀ tx, s.handles.get? l = some tx → name ≠ tx.owner) →
      s'.connection name = s.connection name) : Inside name label before s' db := by
  refine h.of_eq hsound (hothers name fun tx hheld => h.owner_ne hl hheld) ?_
  rw [hhandles, Assoc.get?_erase, if_neg hl.symm]

/-- A step that spares the transaction leaves it open. A step on its connection gives back what it gives
back on the tables alone, and changes them as it does there. -/
theorem step (h : Inside name label before s db) {t : Step} (hspares : t.Spares name label) :
    (∀ reply, (t.inside name db).1 = some reply → (s.step t).1 = reply) ∧
      Inside name label before (s.step t).2 (t.inside name db).2 := by
  have hsound := h.sound.step t
  cases t with
  | call other options access caches c =>
    obtain ⟨hresult, hholds⟩ := s.holds_operate other options access caches c
    by_cases hother : other = name
    · subst hother
      rw [Step.inside_call]
      rw [h.connection] at hresult hholds
      refine ⟨?_, hsound, ?_, ?_⟩
      · rintro reply hreply
        obtain rfl := Option.some.inj hreply
        exact congrArg Reply.result hresult
      · exact hholds.connection.trans (by rw [h.connection])
      · exact (congrArg (Assoc.get? · label) hholds.handles).trans h.held
    · rw [Step.inside_call_of_ne hother]
      refine ⟨nofun, h.of_eq hsound (hholds.others name (Ne.symm hother)) ?_⟩
      exact congrArg (Assoc.get? · label) hholds.handles
  | begin other l =>
    by_cases hclosed : (s.connection other).saved = none
    · -- no transaction is open there, so it is another connection
      have hother : other ≠ name := by
        rintro rfl
        rw [h.connection] at hclosed
        cases hclosed
      have hl : l ≠ label := hspares.resolve_left hother
      obtain ⟨-, -, -, hhandles, hothers⟩ := h.sound.opens hclosed l
      refine ⟨by simp [Step.inside, hother], h.of_eq hsound ?_ ?_⟩
      · exact hothers name hother.symm fun tx hheld => h.owner_ne hl hheld
      · show (s.begin other l).2.handles.get? label = _
        rw [hhandles, Assoc.get?_insert, if_neg hl.symm]
    · have hrefused := begin_of_opened hclosed l
      refine ⟨fun reply hreply => ?_, h.of_eq hsound ?_ ?_⟩
      · simp only [Step.inside] at hreply
        split_ifs at hreply
        obtain rfl := Option.some.inj hreply
        exact congrArg (fun r => Reply.outcome r.1) hrefused
      · exact congrArg (fun r => r.2.connection name) hrefused
      · exact congrArg (fun r => r.2.handles.get? label) hrefused
  | commit l =>
    obtain ⟨hsound, hhandles, hothers⟩ := h.sound.finish l commit_eq_ok
    exact ⟨nofun, h.of_erase hspares hsound hhandles hothers⟩
  | rollback l =>
    obtain ⟨hsound, hhandles, hothers⟩ := h.sound.finish l rollback_eq_ok
    exact ⟨nofun, h.of_erase hspares hsound hhandles hothers⟩
  | drop l =>
    obtain ⟨hsound, hhandles, hothers⟩ := h.sound.drop l
    exact ⟨nofun, h.of_erase hspares hsound hhandles hothers⟩

/-- Steps that spare the transaction leave it open. Those on its connection give back what they give back
on the tables alone, each finding what the earlier ones left. -/
theorem stepAll (h : Inside name label before s db) {steps : List Step}
    (hspares : ∀ t ∈ steps, t.Spares name label) :
    List.Forall₂ (fun reply expected => ∀ r, expected = some r → reply = r)
        (s.stepAll steps).1 (insideAll name steps db).1 ∧
      Inside name label before (s.stepAll steps).2 (insideAll name steps db).2 := by
  induction steps generalizing s db with
  | nil => exact ⟨.nil, h⟩
  | cons t rest ih =>
    obtain ⟨ht, hrest⟩ := List.forall_mem_cons.1 hspares
    obtain ⟨hreply, hnext⟩ := h.step ht
    obtain ⟨hreplies, hlast⟩ := ih hnext hrest
    exact ⟨.cons hreply hreplies, hlast⟩

end Inside

/-! ### The end of a transaction -/

/-- A label holds no handle, and ending its transaction does nothing. -/
def IsFree (s : Server) (label : String) : Prop :=
  s.handles.get? label = none ∧ s.drop label = s ∧ s.rollback label = (.ok (), s) ∧
    s.commit label = (.ok (), s)

/-- Once its handle has ended a transaction, a label is free. -/
theorem Ended.isFree {s s' : Server} {label : String} {tx : Transaction} {db : Database}
    (h : s.Ended s' label tx db) : s'.IsFree label := by
  have hnone : s'.handles.get? label = none := by
    rw [h.handles, Assoc.get?_erase, if_pos rfl]
  exact ⟨hnone, drop_of_none hnone, finish_of_none hnone _, finish_of_none hnone _⟩

/-- A transaction keeps all of what was done in it, or nothing.

On a server that held no handle at first, whatever was done on it since, a transaction can be opened on
every connection that has none. From then on any steps are taken that do not end it: operations that
succeed or fail, with the handle or without it, attempts to open another transaction, and anything on
other connections or with other handles, ended ones included. The steps on the connection go as on its
tables alone, and attempts to open another transaction fail. If the handle is then given up or rolled
back, the connection is as it was before; if it is committed, the tables are as the steps left them. In
each case the handle is gone, and its label ends nothing any more. -/
theorem transaction_ends {start : Server} (hstart : start.handles = []) (earlier : List Step)
    (name label : String) :
    let s := (start.stepAll earlier).2
    (s.connection name).saved = none →
    (s.begin name label).1 = .ok () ∧
      ∀ steps, (∀ t ∈ steps, Step.Spares name label t) →
        let run := (s.begin name label).2.stepAll steps
        let alone := insideAll name steps (s.connection name).current
        let last := run.2
        List.Forall₂ (fun reply expected => ∀ r, expected = some r → reply = r) run.1 alone.1 ∧
          (last.connection name).current = alone.2 ∧
          ((last.drop label).connection name = s.connection name ∧ (last.drop label).IsFree label) ∧
          ((last.rollback label).1 = .ok () ∧
            (last.rollback label).2.connection name = s.connection name ∧
            (last.rollback label).2.IsFree label) ∧
          (last.commit label).1 = .ok () ∧
          (last.commit label).2.connection name = { current := alone.2 } ∧
          (last.commit label).2.IsFree label := by
  intro s hclosed
  have hsound : s.Sound := (sound_of_handles_eq_nil hstart).stepAll earlier
  obtain ⟨hopened, hsound', hconnection, hhandles, -⟩ := hsound.opens hclosed label
  refine ⟨hopened, fun steps hspares => ?_⟩
  have hinside : Inside name label (s.connection name).current (s.begin name label).2
      (s.connection name).current :=
    ⟨hsound', hconnection, by rw [hhandles, Assoc.get?_insert, if_pos rfl]⟩
  obtain ⟨hreplies, hlast⟩ := hinside.stepAll hspares
  -- nothing was open before, so the connection is no more than its tables
  have hbefore : s.connection name = { current := (s.connection name).current } := by
    rw [← hclosed]
  have hsaved := congrArg Connection.saved hlast.connection
  have hdropped := ended_drop hlast.held rfl hsaved
  obtain ⟨hrolledBack, hrollback⟩ := ended_rollback hlast.held hsaved
  obtain ⟨hcommitted, hcommit⟩ := ended_commit hlast.held (by simp [hlast.connection])
  have hcurrent := congrArg Connection.current hlast.connection
  refine ⟨hreplies, hcurrent, ⟨hdropped.connection.trans hbefore.symm, hdropped.isFree⟩,
    ⟨hrolledBack, hrollback.connection.trans hbefore.symm, hrollback.isFree⟩, hcommitted, ?_,
    hcommit.isFree⟩
  exact hcommit.connection.trans (by rw [hcurrent])

/-- A record is merged inside a transaction, another one is refused there, and an old handle is given
up: rolled back, the table is empty again, and committed, it has the row. -/
theorem transaction_ends_merge :
    let t : Table := { schema := { name := "t", columns := ["Id"], unique := ["Id"] } }
    let e : Entity :=
      { name := "E", table := { name := "t" }
        properties := [{ name := "Id", kind := .int, primary := true }] }
    let start : Server := { connections := [("a", { current := [t] })] }
    let merge : Call Transaction Value := .merge e ⟨[("Id", .int 1)]⟩ [] (some { owner := "a" })
    let steps : List Step :=
      [.call "a" {} .blocking {} merge, .begin "a" "second", .drop "ended"]
    let last := ((start.begin "a" "first").2.stepAll steps).2
    (start.connection "a").saved = none ∧ (∀ t ∈ steps, Step.Spares "a" "first" t) ∧
      (last.drop "first").connection "a" = start.connection "a" ∧
      (last.rollback "first").2.connection "a" = start.connection "a" ∧
      ((last.commit "first").2.connection "a").current.map (·.rows) = [[[.integer 1]]] ∧
      (last.commit "first").2.IsFree "first" := by
  intro t e start merge steps last
  have hspares : ∀ t ∈ steps, Step.Spares "a" "first" t := by simp [steps, Step.Spares]
  obtain ⟨-, hrun⟩ := transaction_ends (show start.handles = [] from rfl) [] "a" "first" rfl
  obtain ⟨-, -, ⟨hdrop, -⟩, ⟨-, hrollback, -⟩, -, hcommit, hfree⟩ := hrun steps hspares
  have hrows : (insideAll "a" steps (start.connection "a").current).2.map (·.rows) =
      [[[.integer 1]]] := by
    simp only [steps, merge, start, e, t]
    rfl
  refine ⟨rfl, hspares, hdrop, hrollback, ?_, hfree⟩
  rw [← hrows]
  exact congrArg (fun c => c.current.map (·.rows)) hcommit

end Server

end Store

end FilterSql
