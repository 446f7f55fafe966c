import FilterSql.Proofs.Acceptance
import FilterSql.Proofs.KeyColumns
import FilterSql.Proofs.Sharing

/-!
# What an operation comes to

The result of an operation is settled by its inputs, by the key columns that it goes by, and by what
the database answers to its statement. Key columns that cannot be had and a statement that fails give
the error of the database. A request that is refused gives the error of the refusal. Rows are read, and
for a merge this always succeeds.

## Main definitions

* `Session.Spares`: a part of an operation leaves the database and what is remembered alone;
* `Call.plan`: the statement that a call is planned to, or why there is none;
* `Planner.Identifies`: the value that a merge returns for the rows of its statement;
* `Call.Reads`: the result that a call makes of the rows of its statement;
* `Call.Ends`: the ways in which an operation ends, with its result and what the database is asked.

## Main results

* `Call.ends_perform`: the operations of blocking and asynchronous repositories end in these ways;
* `Call.concludes_perform`: a merge whose statement gave rows returns the value that identifies the
  merged row.
-/

namespace FilterSql

variable {σ τ α : Type}

/-- A part of an operation that began in the session `s` and ended in `s'` spares the database: its
state and the remembered key columns are the same, and the type chain gives the same answers. -/
structure Session.Spares (s s' : Session σ) : Prop where
  /-- The database is in the same state. -/
  backend : s'.backend = s.backend
  /-- The same key columns are remembered. -/
  keys : s'.caches.keys = s.caches.keys
  /-- The type chain gives the same answers. -/
  types : s.caches.types.Agree s'.caches.types

/-- What spares the database up to some session and from there on spares it altogether. -/
theorem Session.Spares.trans {s₁ s₂ s₃ : Session σ} (h : s₁.Spares s₂) (h' : s₂.Spares s₃) :
    s₁.Spares s₃ :=
  ⟨h'.backend.trans h.backend, h'.keys.trans h.keys, h.types.trans h'.types⟩

/-! ### Planning -/

namespace Planner

variable {p : Planner} {e : Entity}

/-- What a filter is normalized to; without a filter, the empty tree. -/
def condition (p : Planner) (e : Entity) (f : Option Filter) : Except QueryError (Group Condition) :=
  match f with
  | some f => f.normalize e p.builder.fieldCase
  | none => .ok {}

/-- Normalizing a filter comes to what it is normalized to, and asks the database nothing. -/
theorem run_normalize (p : Planner) (e : Entity) (f : Option Filter) (s : Session σ) :
    (p.normalize e f).run.run s =
      (p.condition e f, { s with stages := s.stages ++ [.normalizing] }) := by
  unfold normalize
  rw [Action.run_bind_ok (Action.run_advance s .normalizing)]
  cases f <;> rfl

/-- Building a statement keeps everything but the type chain and the stages. -/
theorem run_build (p : Planner) (request : Request) (s : Session σ) :
    (p.build request).run.run s =
      ((p.builder.run request s.caches.types).1,
        { s with caches := { s.caches with types := (p.builder.run request s.caches.types).2 }
                 stages := s.stages ++ [.building] }) := by
  unfold build
  rw [Action.run_bind_ok (Action.run_advance s .building)]
  rfl

end Planner

namespace Call

/-- The request that a call makes when the key columns `reported` are known. -/
def request (p : Planner) (reported : List String) : Call τ α → Except QueryError Request
  | query e f options _ _ => (p.condition e f).map fun filter => {
      entity := e, operation := .query, filter, columns := options.columns
      order := options.order, top := options.top, hint := options.hint }
  | page e index rows order f hint _ _ =>
    (Page.of index rows).mapError .invalidPageArgument >>= fun page =>
      (p.condition e f).map fun filter =>
        { entity := e, operation := .page page, filter, order, hint }
  | count e f hint _ => (p.condition e f).map fun filter =>
      { entity := e, operation := .count, filter, hint }
  | merge e record qualifiers _ =>
    .ok { entity := e, operation := .merge { record, qualifiers, keyColumns := reported } }

/-- The statement that a call is planned to under the types of a chain when the key columns `reported`
are known, or why there is none. -/
def plan (c : Call τ α) (p : Planner) (types : TypeChain) (reported : List String) :
    Except QueryError Statement :=
  c.request p reported >>= fun request => (p.builder.run request types).1

/-- The action that plans the statement of a call when the key columns `reported` are known. -/
def prepare (p : Planner) (reported : List String) : Call τ α → Action σ Statement
  | query e f options _ _ => p.query e f options
  | page e index rows order f hint _ _ => p.page e index rows order f hint
  | count e f hint _ => p.count e f hint
  | merge e record qualifiers _ => p.merge e { record, qualifiers, keyColumns := reported }

/-- The action that reads the rows of the statement of a call. -/
def finish (p : Planner) (reported : List String) : Call τ α → List Record → Action σ α
  | query _ _ _ _ read, rows => Action.ofExcept (Planner.mapRows read rows)
  | page _ _ _ _ _ _ _ read, rows => Action.ofExcept (Planner.mapRows read rows)
  | count .., rows => Action.ofExcept (Planner.countOf rows)
  | merge e record qualifiers _, rows =>
    p.mergeResult e { record, qualifiers, keyColumns := reported } rows

variable {c : Call τ α} {p : Planner} {reported : List String}

/-- A condition that is normalized is put into a request, and the statement of the request is built. -/
theorem run_normalize_build (p : Planner) (e : Entity) (f : Option Filter)
    (make : Group Condition → Request) (s : Session σ) :
    ∃ s', (p.normalize e f >>= fun g => p.build (make g)).run.run s =
        ((p.condition e f).map make >>= fun r => (p.builder.run r s.caches.types).1, s') ∧
      s.Spares s' := by
  have hnormalized := p.run_normalize e f s
  cases hg : p.condition e f with
  | error error =>
    rw [hg] at hnormalized
    exact ⟨_, Action.run_bind_error hnormalized _, rfl, rfl, .rfl⟩
  | ok g =>
    rw [hg] at hnormalized
    rw [Action.run_bind_ok hnormalized, Planner.run_build]
    exact ⟨_, rfl, rfl, rfl, (p.builder.invisible_build _).agree _⟩

/-- Planning a statement comes to the plan of the call, and asks the database nothing. -/
theorem run_prepare (c : Call τ α) (p : Planner) (reported : List String) (s : Session σ) :
    ∃ s', (c.prepare p reported).run.run s = (c.plan p s.caches.types reported, s') ∧
      s.Spares s' := by
  cases c with
  | query e f options tx read => exact run_normalize_build p e f _ s
  | count e f hint tx => exact run_normalize_build p e f _ s
  | merge e record qualifiers tx =>
    exact ⟨_, p.run_build _ s, rfl, rfl, (p.builder.invisible_build _).agree _⟩
  | page e index rows order f hint tx read =>
    simp only [prepare, plan, request, Planner.page]
    cases Page.of index rows with
    | error fault => exact ⟨s, rfl, rfl, rfl, .rfl⟩
    | ok page => exact run_normalize_build p e f _ s

end Call

/-! ### Reading rows -/

/-- The first column of the first row, unless it is null. -/
inductive Returns : List Record → Value → Prop
  | first {name : String} {v : Value} {columns : List (String × Value)} {rest : List Record}
    (given : v.isNull = false) : Returns (⟨(name, v) :: columns⟩ :: rest) v

/-- What a record holds for a column: the value of the first member that is written to it, else null. -/
inductive Planner.Supplies (p : Planner) (e : Entity) (record : Record) :
    Option String → Value → Prop
  /-- Some member is written to the column. -/
  | held {column name : String} {v : Value}
    (first : FirstWith (fun entry => e.columnOf p.builder.fieldCase entry.1 = column)
      record.entries (name, v)) : Supplies p e record (some column) v
  /-- There is no such column, or no member is written to it. -/
  | missing {column : Option String}
    (none : ∀ name ∈ record.names, column ≠ some (e.columnOf p.builder.fieldCase name)) :
    Supplies p e record column .null

/-- The value that a merge returns: what the database returned, else what the record holds for the
column that identifies a row: the identity, else the first key column, else the first one that is
reported. -/
inductive Planner.Identifies (p : Planner) (e : Entity) (record : Record) (reported : List String)
    (rows : List Record) : Value → Prop
  /-- The database returned a value. -/
  | returned {v : Value} (returns : Returns rows v) : Identifies p e record reported rows v
  /-- It returned none, and the record is asked. -/
  | supplied {v : Value} (unreturned : ∀ v, ¬ Returns rows v)
    (supplies : p.Supplies e record (e.resultColumn? reported) v) :
    Identifies p e record reported rows v

/-- The database returned a value when the first row has one that is not null. -/
theorem returns_iff {rows : List Record} {v : Value} :
    Returns rows v ↔ ((rows.head?.bind Record.first?).filter fun v => !v.isNull) = some v := by
  rw [Option.filter_eq_some_iff]
  constructor
  · rintro ⟨given⟩
    simp [Record.first?, Record.values, given]
  · rintro ⟨hfirst, hgiven⟩
    match rows with
    | [] | ⟨[]⟩ :: _ => cases hfirst
    | ⟨(name, w) :: columns⟩ :: rest =>
      obtain rfl : w = v := Option.some.inj hfirst
      exact .first (by simpa using hgiven)

namespace Planner

variable {p : Planner} {e : Entity} {spec : MergeSpec}

/-- The value that is taken from the record is that of the first member that is written to the result
column. -/
theorem supplied_some (p : Planner) (e : Entity) (spec : MergeSpec) (column : String) :
    p.supplied e spec (some column) =
      ((spec.record.entries.find? fun entry =>
        e.columnOf p.builder.fieldCase entry.1 = column).map (·.2)).getD .null := rfl

/-- The value that is taken from the record is the one that it holds for the result column. -/
theorem supplies_supplied (p : Planner) (e : Entity) (spec : MergeSpec) (result : Option String) :
    p.Supplies e spec.record result (p.supplied e spec result) := by
  cases result with
  | none => exact .missing fun _ _ => nofun
  | some column =>
    rw [supplied_some]
    cases hfind : spec.record.entries.find? fun entry =>
        e.columnOf p.builder.fieldCase entry.1 = column with
    | some entry =>
      exact .held ((find?_eq_some_iff_firstWith fun _ => decide_eq_true_iff).1 hfind)
    | none =>
      refine .missing fun name hname => ?_
      obtain ⟨entry, hentry, rfl⟩ := List.mem_map.1 hname
      have hother := List.find?_eq_none.1 hfind entry hentry
      rw [decide_eq_true_iff] at hother
      exact fun hcolumn => hother (Option.some.inj hcolumn).symm

/-- What the record holds for a column is one value. -/
theorem Supplies.eq_supplied {result : Option String} {v : Value}
    (h : p.Supplies e spec.record result v) : v = p.supplied e spec result := by
  cases h with
  | held first =>
    rw [supplied_some, (find?_eq_some_iff_firstWith fun _ => decide_eq_true_iff).2 first]
    rfl
  | missing none =>
    cases result with
    | none => rfl
    | some column =>
      have hnone : spec.record.entries.find? (fun entry =>
          e.columnOf p.builder.fieldCase entry.1 = column) = Option.none := by
        refine List.find?_eq_none.2 fun entry hentry => ?_
        rw [decide_eq_true_iff]
        exact fun hcolumn => none entry.1 (List.mem_map_of_mem hentry) (congrArg some hcolumn.symm)
      rw [supplied_some, hnone]
      rfl

/-- The value that identifies a merged row is what the database returned, or else it is taken from the
record once the columns of the merge are resolved. -/
theorem mergeResult_fst (p : Planner) (e : Entity) (spec : MergeSpec) (rows : List Record)
    (s : Session σ) :
    ((p.mergeResult e spec rows).run.run s).1 =
      match (rows.head?.bind Record.first?).filter fun v => !v.isNull with
      | some v => .ok v
      | none => ((spec.resolveKeys (p.builder.scope e)).run.run s.caches.types).1.map fun keys =>
          p.supplied e spec keys.result := by
  unfold mergeResult
  cases (rows.head?.bind Record.first?).filter fun v => !v.isNull with
  | some v => rfl
  | none =>
    have hresolved := Action.run_resolve s (spec.resolveKeys (p.builder.scope e))
    dsimp only
    cases hkeys : ((spec.resolveKeys (p.builder.scope e)).run.run s.caches.types).1 with
    | error error =>
      rw [hkeys] at hresolved
      rw [Action.run_bind_error hresolved]
      rfl
    | ok keys =>
      rw [hkeys] at hresolved
      rw [Action.run_bind_ok hresolved]
      rfl

/-- Behind a merge that is as it should be, the value that identifies the row is always found. -/
theorem mergeResult_of_accepted {d : Dialect} (h : spec.Accepted d (p.builder.scope e))
    (rows : List Record) (s : Session σ) :
    ∃ v, ((p.mergeResult e spec rows).run.run s).1 = .ok v ∧
      p.Identifies e spec.record spec.keyColumns rows v := by
  rw [mergeResult_fst]
  cases hreturned : (rows.head?.bind Record.first?).filter fun v => !v.isNull with
  | some v => exact ⟨v, rfl, .returned (returns_iff.2 hreturned)⟩
  | none =>
    -- the columns are resolved for a second time, which cannot fail where the first did not
    dsimp only
    rw [h.resolveKeys_fst]
    refine ⟨_, rfl, .supplied (fun v hreturns => ?_) (supplies_supplied p e spec _)⟩
    rw [returns_iff.1 hreturns] at hreturned
    cases hreturned

end Planner

/-! ### The end of an operation -/

namespace Call

/-- A result is what a call makes of the rows of its statement. -/
def Reads (p : Planner) (reported : List String) :
    Call τ α → List Record → Except QueryError α → Prop
  | query _ _ _ _ read, rows, result => result = Planner.mapRows read rows
  | page _ _ _ _ _ _ _ read, rows, result => result = Planner.mapRows read rows
  | count .., rows, result => result = Planner.countOf rows
  | merge e record _ _, rows, result =>
    ∃ v, result = .ok v ∧ p.Identifies e record reported rows v

/-- The ways in which an operation ends: its result, and what the database is asked and answers. -/
inductive Ends (c : Call τ α) (p : Planner) (caches : Caches) :
    Except QueryError α → List (Event τ) → Prop
  /-- The key columns cannot be had. -/
  | unreported {table : TableName} {fault : ExecutionError} (needed : c.keyTable? p = some table)
    (unknown : caches.keys.get? table = none) :
    Ends c p caches (.error (.execution fault)) [.lookup table (.error fault)]
  /-- The request is refused. -/
  | refused {e : QueryError} {lookups : List (Event τ)} {reported : List String}
    (looks : c.Looks p caches.keys lookups reported)
    (refused : c.plan p caches.types reported = .error e) : Ends c p caches (.error e) lookups
  /-- The statement fails. -/
  | failed {st : Statement} {fault : ExecutionError} {lookups : List (Event τ)}
    {reported : List String} (looks : c.Looks p caches.keys lookups reported)
    (planned : c.plan p caches.types reported = .ok st) :
    Ends c p caches (.error (.execution fault))
      (lookups ++ [.fetch st c.transaction (.error fault)])
  /-- The rows are read. -/
  | fetched {st : Statement} {rows : List Record} {result : Except QueryError α}
    {lookups : List (Event τ)} {reported : List String}
    (looks : c.Looks p caches.keys lookups reported)
    (planned : c.plan p caches.types reported = .ok st) (reads : c.Reads p reported rows result) :
    Ends c p caches result (lookups ++ [.fetch st c.transaction (.ok rows)])

/-- The rows of a statement that was planned for a call are read. -/
theorem reads_finish {c : Call τ α} {p : Planner} {types : TypeChain} {reported : List String}
    {st : Statement} (h : c.plan p types reported = .ok st) (rows : List Record) (s : Session σ) :
    c.Reads p reported rows ((c.finish p reported rows).run.run s).1 ∧
      ((c.finish p reported rows).run.run s).2.backend = s.backend := by
  cases c with
  | query | page | count => exact ⟨rfl, rfl⟩
  | merge e record qualifiers tx =>
    refine ⟨?_, (p.run_mergeResult e _ rows s).2⟩
    -- there is a statement, so the merge is as it should be
    have haccepted := (Builder.exists_run_merge_iff rfl).1 ⟨st, h⟩
    exact Planner.mergeResult_of_accepted haccepted rows s

end Call

namespace BlockingRepository

variable {b : Backend σ τ} {o : RepositoryOptions} {c : Call τ α}

/-- Behind the lookup of its key columns, a call plans its statement, runs it and reads the rows. -/
theorem callBy_pure (r : BlockingRepository σ τ) (c : Call τ α) {reported : List String}
    (h : c.keyTable? r.planner = none → reported = []) :
    r.callBy (fun _ => pure reported) c = c.prepare r.planner reported >>= fun st =>
      r.execute st c.transaction >>= c.finish r.planner reported := by
  cases c with
  | query | page | count => rfl
  | merge e record qualifiers tx =>
    have hpure : (if r.planner.needsKeyColumns e qualifiers then pure reported else pure []) =
        (pure reported : Action σ (List String)) := by
      split
      · rfl
      · next hneeds => rw [h (if_neg hneeds)]
    simp only [callBy, mergeBy, hpure, pure_bind]
    rfl

/-- Behind the lookup of its key columns, a call on a recording database ends in one of its ways. -/
theorem ends_planned {s s₁ : Session (Recording σ τ)} {lookups : List (Event τ)}
    {reported : List String} (b : Backend σ τ) (o : RepositoryOptions)
    (hlooks : c.Looks (o.planner b.dialect) s.caches.keys lookups reported)
    (htypes : s₁.caches.types = s.caches.types)
    (hevents : s₁.backend.events = s.backend.events ++ lookups) :
    ∃ events result s', (callBy { backend := b.recorded, options := o } (fun _ => pure reported)
        c).run.run s₁ = (result, s') ∧
      s'.backend.events = s.backend.events ++ events ∧
      c.Ends (o.planner b.dialect) s.caches result events := by
  -- without a table to ask about, the key columns are taken to be none
  have hnothing : c.keyTable? (o.planner b.dialect) = none → reported = [] := by
    intro hnone
    rw [Call.Looks, hnone] at hlooks
    exact hlooks.2
  have hplanner : planner { backend := b.recorded, options := o } = o.planner b.dialect := rfl
  rw [callBy_pure { backend := b.recorded, options := o } c hnothing, hplanner]
  obtain ⟨s₂, hplanned, hspares⟩ := c.run_prepare (o.planner b.dialect) reported s₁
  rw [htypes] at hplanned
  rw [← hspares.backend] at hevents
  cases hplan : c.plan (o.planner b.dialect) s.caches.types reported with
  | error error =>
    rw [hplan] at hplanned
    exact ⟨_, _, _, Action.run_bind_error hplanned _, hevents, .refused hlooks hplan⟩
  | ok st =>
    rw [hplan] at hplanned
    rw [Action.run_bind_ok hplanned]
    obtain ⟨reply, s₃, hexecuted, hasked, -⟩ := run_execute b o st c.transaction s₂
    rw [hevents, List.append_assoc] at hasked
    cases reply with
    | error fault =>
      exact ⟨_, _, _, Action.run_bind_error hexecuted _, hasked, .failed hlooks hplan⟩
    | ok rows =>
      rw [Action.run_bind_ok hexecuted]
      obtain ⟨hreads, hread⟩ := Call.reads_finish hplan rows s₃
      rw [← hread] at hasked
      exact ⟨_, _, _, rfl, hasked, .fetched hlooks hplan hreads⟩

/-- Every call on a recording database ends in one of its ways. -/
theorem ends_call (b : Backend σ τ) (o : RepositoryOptions) (c : Call τ α)
    (s : Session (Recording σ τ)) :
    ∃ events result s', (call { backend := b.recorded, options := o } c).run.run s = (result, s') ∧
      s'.backend.events = s.backend.events ++ events ∧
      c.Ends (o.planner b.dialect) s.caches result events := by
  rw [call_eq_callBy]
  cases htable : c.keyTable? (o.planner b.dialect) with
  | none =>
    rw [callBy_of_keyTable?_eq_none { backend := b.recorded, options := o } htable _
      fun _ => pure []]
    exact ends_planned b o (.nothing htable) rfl (List.append_nil _).symm
  | some table =>
    rw [callBy_of_keyTable?_eq_some { backend := b.recorded, options := o } htable]
    rcases run_keyColumns b o table s with ⟨remembered, hkeys, hrun⟩ |
      ⟨hkeys, reply, s₁, hrun, -, htypes, hevents⟩
    · rw [Action.run_bind_ok hrun]
      exact ends_planned b o (.remembered htable hkeys) rfl (List.append_nil _).symm
    · cases reply with
      | error fault =>
        exact ⟨_, _, _, Action.run_bind_error hrun _, hevents, .unreported htable hkeys⟩
      | ok keys =>
        rw [Action.run_bind_ok hrun]
        exact ends_planned b o (.asked htable hkeys) htypes hevents

/-- The operations of a blocking repository end in the ways of their calls. -/
theorem ends_asked (r : BlockingRepository σ τ) (c : Call τ α) (s : Session σ) :
    c.Ends r.planner s.caches ((r.call c).perform s).1 (r.asked c s) := by
  -- the operation goes alike when the database writes down what it is asked
  have halike : Action.Alike (fun x r => r.state = x) (r.call c)
      (call { backend := r.backend.recorded, options := r.options } c) := by
    apply alike_call
    · exact r.backend.mirrors_recorded
    · rfl
  let s₀ : Session (Recording σ τ) := { backend := { state := s.backend }, caches := s.caches }
  obtain ⟨hresult, -⟩ := @halike { s with stages := [.requested] }
    { s₀ with stages := [.requested] } ⟨rfl, rfl, rfl⟩
  obtain ⟨events, result, s', hrun, hevents, hends⟩ :=
    ends_call r.backend r.options c { s₀ with stages := [.requested] }
  rw [asked, Action.perform_eq, Action.perform_eq, hresult, hrun, hevents]
  exact hends

end BlockingRepository

/-- The operations of blocking and of asynchronous repositories end in the ways of their calls, whatever
the database answers, whatever is remembered, and whether or not the signal is set. -/
theorem Call.ends_perform (c : Call τ α) (s : Session σ) :
    (∀ r : BlockingRepository σ τ,
      c.Ends r.planner s.caches ((r.call c).perform s).1 (r.asked c s)) ∧
    (∀ r : AsyncRepository σ τ,
      c.Ends r.planner s.caches ((r.call c).perform s).1 (r.asked c s)) := by
  refine ⟨fun r => r.ends_asked c s, fun r => ?_⟩
  -- an asynchronous repository blocks on what its signal lets it see
  have hends := BlockingRepository.ends_asked
    { backend := r.backend.observed r.cancelled, options := r.options } c s
  rw [AsyncRepository.asked, AsyncRepository.call_eq, AsyncRepository.call_eq]
  exact hends

/-! ### The result of a merge -/

namespace MergeKeys

variable (keys : MergeKeys) (style : UpsertStyle) (table : TableName) (members : List Member)

/-- An upsert matches on the columns that the merge is to match on. -/
theorem qualifiers_plan : (keys.plan style table members).1.qualifiers = keys.qualifiers := by
  unfold plan
  split <;> rfl

/-- The column that an upsert reports is the one that identifies the row. -/
theorem result_plan : (keys.plan style table members).1.result = keys.result := by
  unfold plan
  split <;> rfl

end MergeKeys

namespace Call

/-- The result of a merge is what the reply to its statement says. An error is the error of the merge.
Rows give a value, which identifies the merged row by the column that the statement reports. -/
def Concludes (p : Planner) (keys : Assoc TableName (List String)) (e : Entity) (record : Record)
    (qualifiers : List Field) (tx : Option τ) (result : Except QueryError Value)
    (events : List (Event τ)) : Prop :=
  ∀ st tx' reply, .fetch st tx' reply ∈ events →
    match reply with
    | .error fault => result = .error (.execution fault)
    | .ok rows => ∃ lookups reported u v,
        (merge e record qualifiers tx).Looks p keys lookups reported ∧
        events = lookups ++ [.fetch st tx (.ok rows)] ∧
        st.command = .upsert u ∧ u.result = e.resultColumn? reported ∧
        result = .ok v ∧ p.Identifies e record reported rows v

/-- The statement that is planned for a merge reports the column that identifies the row. -/
theorem exists_upsert_of_plan {e : Entity} {record : Record} {qualifiers : List Field}
    {tx : Option τ} {p : Planner} {types : TypeChain} {reported : List String} {st : Statement}
    (h : (merge e record qualifiers tx).plan p types reported = .ok st) :
    ∃ u, st.command = .upsert u ∧ u.result = e.resultColumn? reported := by
  obtain ⟨u, hcommand, hplan⟩ := Builder.run_merge (Prod.ext h rfl) rfl
  obtain ⟨-, -, -, -, hplanned⟩ := MergeSpec.plan_eq_ok hplan
  refine ⟨u, hcommand, ?_⟩
  rw [← congrArg (·.1.result) hplanned]
  exact MergeKeys.result_plan _ _ _ _

/-- A merge that ends in one of its ways has the result that the reply to its statement says. -/
theorem Ends.concludes {e : Entity} {record : Record} {qualifiers : List Field} {tx : Option τ}
    {p : Planner} {caches : Caches} {result : Except QueryError Value} {events : List (Event τ)}
    (h : (merge e record qualifiers tx).Ends p caches result events) :
    Concludes p caches.keys e record qualifiers tx result events := by
  intro st tx' reply hasked
  -- no lookup sends a statement, so the reply is that of the last event
  cases h with
  | unreported => simp at hasked
  | refused looks => exact absurd hasked (looks.fetch_not_mem st tx' reply)
  | failed looks planned =>
    have hreply := (List.mem_append.1 hasked).resolve_left (looks.fetch_not_mem st tx' reply)
    obtain ⟨-, -, rfl⟩ := Event.fetch.inj (List.mem_singleton.1 hreply)
    rfl
  | fetched looks planned reads =>
    have hreply := (List.mem_append.1 hasked).resolve_left (looks.fetch_not_mem st tx' reply)
    obtain ⟨rfl, -, rfl⟩ := Event.fetch.inj (List.mem_singleton.1 hreply)
    obtain ⟨u, hcommand, hresult⟩ := exists_upsert_of_plan planned
    obtain ⟨v, hv, hidentifies⟩ := reads
    exact ⟨_, _, u, v, looks, rfl, hcommand, hresult, hv, hidentifies⟩

/-- A merge whose statement was run fails only if the database did. When it gave rows, blocking and
asynchronous repositories return the first column of the first row, or else what the record holds for
the column that identifies the row. -/
theorem concludes_perform (e : Entity) (record : Record) (qualifiers : List Field) (tx : Option τ)
    (s : Session σ) :
    (∀ r : BlockingRepository σ τ, Concludes r.planner s.caches.keys e record qualifiers tx
      ((r.merge e record qualifiers tx).perform s).1 (r.asked (merge e record qualifiers tx) s)) ∧
    (∀ r : AsyncRepository σ τ, Concludes r.planner s.caches.keys e record qualifiers tx
      ((r.merge e record qualifiers tx).perform s).1 (r.asked (merge e record qualifiers tx) s)) := by
  obtain ⟨hblocking, hasync⟩ := (merge e record qualifiers tx).ends_perform s
  exact ⟨fun r => (hblocking r).concludes, fun r => (hasync r).concludes⟩

/-- A merge into a table that is known by name returns the key of the record where the database has
returned no row. -/
theorem concludes_perform_scripted :
    let r : BlockingRepository Scripted.Log String :=
      { backend := Scripted.backend .mysql (some [("item", ["Id"])]) }
    let e := Entity.ofTable { name := "item" }
    let record : Record := ⟨[("Name", .text "x"), ("Id", .int 7)]⟩
    let s : Session Scripted.Log := { backend := { replies := [] }, caches := {} }
    (∃ st, .fetch st none (.ok []) ∈ r.asked (merge e record [] none) s) ∧
      ((r.merge e record [] none).perform s).1 = .ok (.int 7) := by
  intro r e record s
  have hasked : ∃ st, r.asked (merge e record [] none) s =
      [.lookup e.table (.ok ["Id"]), .fetch st none (.ok [])] := ⟨_, rfl⟩
  obtain ⟨st, hasked⟩ := hasked
  have hfetched : .fetch st none (.ok []) ∈ r.asked (merge e record [] none) s := by simp [hasked]
  obtain ⟨lookups, reported, u, v, hlooks, hevents, -, -, hv, hidentifies⟩ :=
    (concludes_perform e record [] none s).1 r st none (.ok []) hfetched
  refine ⟨⟨st, hfetched⟩, hv.trans ?_⟩
  -- the key columns are asked for, and the answer tells which column to look at
  replace hlooks : lookups = [.lookup e.table (.ok reported)] := hlooks
  rw [hlooks, hasked] at hevents
  obtain rfl : ["Id"] = reported := by simpa using hevents
  cases hidentifies with
  | returned returns => cases returns
  | supplied unreturned supplies =>
    replace supplies : r.planner.Supplies e record (some "Id") v := supplies
    cases supplies with
    | held first =>
      have hfound := (find?_eq_some_iff_firstWith fun _ => decide_eq_true_iff).2 first
      obtain ⟨-, rfl⟩ := Prod.mk.inj (Option.some.inj hfound)
      rfl
    | missing none => exact absurd rfl (none "Id" (by decide))

end Call

end FilterSql
