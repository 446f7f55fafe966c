import FilterSql.Proofs.Protocol

/-!
# Asking for key columns

A merge into a table without declared keys depends on the key columns that the database reports. A
repository asks for them once and remembers the answer, also between operations and for all handles
that share its caches.

## Main definitions

* `Event.lookup?`, `Event.report?`: what was asked about key columns, and what was reported;
* `Action.asked`: what an action asks when it is run as a whole operation;
* `Call.Asks`: what a call asks about key columns, and what is remembered behind it.

## Main results

* `BlockingRepository.asks_call`: a call asks for key columns at most once, and only if it depends on
  them and they are not remembered.
-/

namespace FilterSql

variable {σ τ α : Type}

namespace Event

/-- The table whose key columns were asked for, with the answer. -/
def lookup? : Event τ → Option (TableName × Except ExecutionError (List String))
  | fetch _ _ _ => none
  | lookup table reply => some (table, reply)

/-- Running a statement asks for no key columns. -/
@[simp]
theorem lookups_fetch (s : Statement) (tx : Option τ) (reply : Except ExecutionError (List Record)) :
    [fetch s tx reply].filterMap lookup? = [] := rfl

/-- Asking for key columns does. -/
@[simp]
theorem lookups_lookup (table : TableName) (reply : Except ExecutionError (List String)) :
    [(lookup table reply : Event τ)].filterMap lookup? = [(table, reply)] := rfl

/-- Asking for key columns runs no statement. -/
@[simp]
theorem fetches_lookup (table : TableName) (reply : Except ExecutionError (List String)) :
    [(lookup table reply : Event τ)].filterMap fetch? = [] := rfl

/-- A question for key columns is one of the questions. -/
theorem mem_lookups_iff {events : List (Event τ)} {table : TableName}
    {reply : Except ExecutionError (List String)} :
    (table, reply) ∈ events.filterMap lookup? ↔ lookup table reply ∈ events := by
  rw [List.mem_filterMap]
  constructor
  · rintro ⟨event, hevent, hlookup⟩
    cases event with
    | fetch => cases hlookup
    | lookup asked answer =>
      obtain ⟨rfl, rfl⟩ := Prod.mk.inj (Option.some.inj hlookup)
      exact hevent
  · intro hevent
    exact ⟨_, hevent, rfl⟩

/-- The key columns that were reported for a table. -/
def report? (table : TableName) (event : Event τ) : Option (List String) :=
  event.lookup?.bind fun (asked, reply) => if asked = table then reply.toOption else none

end Event

/-- What an action on a recording database asks when it is run as a whole operation. -/
def Action.asked (m : Action (Recording σ τ) α) (s : Session (Recording σ τ)) : List (Event τ) :=
  (m.perform s).2.backend.events.drop s.backend.events.length

/-- Without keys, neither a primary property nor an identity is declared. -/
theorem Entity.undeclared_of_keys_eq_nil {e : Entity} (h : e.keys = []) :
    ∀ p ∈ e.properties, p.primary = false ∧ p.identity = false := by
  intro p hp
  simp only [keys, List.isEmpty_iff] at h
  split at h
  case isTrue hprimary =>
    have hidentity : e.properties.find? (·.identity) = none := Option.toList_eq_nil_iff.1 h
    exact ⟨Bool.eq_false_iff.2 (List.filter_eq_nil_iff.1 hprimary p hp),
      Bool.eq_false_iff.2 (List.find?_eq_none.1 hidentity p hp)⟩
  case isFalse hprimary => exact absurd h hprimary

namespace Call

/-- The entity that a call merges a record into. -/
def merged? : Call τ α → Option Entity
  | merge e _ _ _ => some e
  | _ => none

/-- Only merges into tables without declared keys depend on key columns that are reported. -/
theorem exists_merged_of_keyTable? {c : Call τ α} {p : Planner} {table : TableName}
    (h : c.keyTable? p = some table) :
    ∃ e, c.merged? = some e ∧ e.table = table ∧
      ∀ property ∈ e.properties, property.primary = false ∧ property.identity = false := by
  cases c with
  | query | page | count => cases h
  | merge e record qualifiers tx =>
    obtain ⟨hneeds, hentity⟩ := Option.ite_none_right_eq_some.1 h
    refine ⟨e, rfl, Option.some.inj hentity, fun property hproperty => ?_⟩
    simp only [Planner.needsKeyColumns, Bool.and_eq_true, List.isEmpty_iff] at hneeds
    exact Entity.undeclared_of_keys_eq_nil hneeds.1 property hproperty

/-- What a call asks about key columns, when those in `keys` are remembered before it, with the
answers, and what is remembered behind it. -/
inductive Asks (c : Call τ α) (p : Planner) (keys : Assoc TableName (List String)) :
    List (TableName × Except ExecutionError (List String)) → Assoc TableName (List String) → Prop
  /-- Nothing is asked, and nothing changes. -/
  | nothing : Asks c p keys [] keys
  /-- The key columns cannot be had, and nothing changes. -/
  | failed {table : TableName} {e : ExecutionError} (needed : c.keyTable? p = some table)
    (unknown : keys.get? table = none) : Asks c p keys [(table, .error e)] keys
  /-- The key columns are reported, and remembered. -/
  | reported {table : TableName} {columns : List String} (needed : c.keyTable? p = some table)
    (unknown : keys.get? table = none) :
    Asks c p keys [(table, .ok columns)] (keys.insert table columns)

/-- After a call, what is remembered for a table is what was remembered for it before, or else what
was reported meanwhile. -/
theorem Asks.toList_get? {c : Call τ α} {p : Planner} {keys keys' : Assoc TableName (List String)}
    {asked : List (Event τ)} (h : c.Asks p keys (asked.filterMap Event.lookup?) keys')
    (table : TableName) :
    (keys'.get? table).toList =
      (keys.get? table).toList ++ asked.filterMap (Event.report? table) := by
  have hreports : asked.filterMap (Event.report? table) =
      (asked.filterMap Event.lookup?).filterMap fun question =>
        if question.1 = table then question.2.toOption else none := by
    rw [List.filterMap_filterMap]
    rfl
  rw [hreports]
  generalize asked.filterMap Event.lookup? = lookups at h
  cases h with
  | nothing => exact (List.append_nil _).symm
  | failed => simp [Except.toOption]
  | @reported asked columns _ unknown =>
    rw [Assoc.get?_insert]
    by_cases htable : table = asked
    · rw [htable, if_pos rfl, unknown]
      simp [Except.toOption]
    · rw [if_neg htable]
      simp [Ne.symm htable]

/-- A call that cannot have key columns leaves what is remembered. -/
theorem Asks.keys_eq_of_error {c : Call τ α} {p : Planner}
    {keys keys' : Assoc TableName (List String)}
    {lookups : List (TableName × Except ExecutionError (List String))}
    (h : c.Asks p keys lookups keys') {table : TableName} {e : ExecutionError}
    (hmem : (table, .error e) ∈ lookups) : keys' = keys := by
  cases h with
  | nothing | failed => rfl
  | reported => simp at hmem

/-- A call asks for the key columns of no other table than the one it depends on. -/
theorem Asks.keyTable?_eq_some {c : Call τ α} {p : Planner}
    {keys keys' : Assoc TableName (List String)}
    {lookups : List (TableName × Except ExecutionError (List String))}
    (h : c.Asks p keys lookups keys') {table : TableName}
    {reply : Except ExecutionError (List String)} (hmem : (table, reply) ∈ lookups) :
    c.keyTable? p = some table := by
  cases h with
  | nothing => cases hmem
  | failed needed | reported needed =>
    obtain ⟨rfl, -⟩ := Prod.mk.inj (List.mem_singleton.1 hmem)
    exact needed

end Call

/-! ### What a call asks about key columns -/

/-- One session, looked at twice, in which `keys` are remembered, and in which all that was asked
behind `events` is of a given sort. -/
structure Session.Adds (P : Event τ → Prop) (events : List (Event τ))
    (keys : Assoc TableName (List String)) (s s' : Session (Recording σ τ)) : Prop where
  /-- It is one session. -/
  same : s = s'
  /-- The key columns remembered. -/
  keys : s.caches.keys = keys
  /-- What was asked. -/
  added : ∃ added, s.backend.events = events ++ added ∧ ∀ event ∈ added, P event

section

variable {P : Event τ → Prop} {events : List (Event τ)} {keys : Assoc TableName (List String)}

/-- Stages and type chains are not asked for. -/
theorem Session.adds_tolerant : Session.Tolerant (Session.Adds (σ := σ) P events keys) where
  types _ _ h := congrArg (·.caches.types) h.same
  start := by
    rintro s _ ⟨rfl, hkeys, hadded⟩
    exact ⟨rfl, hkeys, hadded⟩
  advance := by
    rintro s _ stage ⟨rfl, hkeys, hadded⟩
    exact ⟨rfl, hkeys, hadded⟩
  retype := by
    rintro s _ types ⟨rfl, hkeys, hadded⟩
    exact ⟨rfl, hkeys, hadded⟩

/-- A question that is written down is added. -/
theorem Session.Adds.append {s s' : Session (Recording σ τ)} (h : s.Adds P events keys s')
    (x : σ) {event : Event τ} (hP : P event) :
    Session.Adds P events keys
      { s with backend := { state := x, events := s.backend.events ++ [event] } }
      { s' with backend := { state := x, events := s'.backend.events ++ [event] } } := by
  obtain ⟨rfl, hkeys, added, hevents, hadded⟩ := h
  refine ⟨rfl, hkeys, added ++ [event], ?_, ?_⟩
  · rw [← List.append_assoc, ← hevents]
  · intro e he
    rcases List.mem_append.1 he with he | he
    · exact hadded e he
    · rwa [List.mem_singleton.1 he]

/-- Statements are asked for. -/
theorem Backend.adds_fetch (b : Backend σ τ) (hP : ∀ st tx reply, P (.fetch st tx reply))
    (st : Statement) (tx : Option τ) :
    Action.Matches (Session.Adds P events keys) (.ask (b.recorded.fetch st tx))
      (.ask (b.recorded.fetch st tx)) := by
  intro s s' h
  have hadds := h.append ((b.fetch st tx).run s.backend.state).2
    (hP st tx ((b.fetch st tx).run s.backend.state).1)
  obtain rfl := h.same
  rw [Action.run_ask, run_fetch_recorded]
  exact ⟨rfl, hadds⟩

end

namespace BlockingRepository

/-- A call that does not depend on key columns does not look for any. -/
theorem callBy_of_keyTable?_eq_none (r : BlockingRepository σ τ) {c : Call τ α}
    (h : c.keyTable? r.planner = none) (lookup lookup' : TableName → Action σ (List String)) :
    r.callBy lookup c = r.callBy lookup' c := by
  cases c with
  | query | page | count => rfl
  | merge e record qualifiers tx =>
    have hneeds : ¬ r.planner.needsKeyColumns e qualifiers = true := by
      intro hneeds
      rw [Call.keyTable?, if_pos hneeds] at h
      cases h
    simp only [callBy, mergeBy, if_neg hneeds]

/-- A call that depends on the key columns of a table looks for these first. -/
theorem callBy_of_keyTable?_eq_some (r : BlockingRepository σ τ) {c : Call τ α} {table : TableName}
    (h : c.keyTable? r.planner = some table) (lookup : TableName → Action σ (List String)) :
    r.callBy lookup c = lookup table >>= fun reported => r.callBy (fun _ => pure reported) c := by
  cases c with
  | query | page | count => cases h
  | merge e record qualifiers tx =>
    obtain ⟨hneeds, htable⟩ := Option.ite_none_right_eq_some.1 h
    obtain rfl := Option.some.inj htable
    simp only [callBy, mergeBy, if_pos hneeds, pure_bind]

/-- A call whose lookup remembers nothing remembers nothing, and what it asks is written down behind
what was asked before. -/
theorem adds_callBy (b : Backend σ τ) (o : RepositoryOptions) {P : Event τ → Prop}
    (hfetch : ∀ st tx reply, P (.fetch st tx reply))
    {lookup : TableName → Action (Recording σ τ) (List String)}
    (hlookup : ∀ events keys table,
      Action.Matches (Session.Adds P events keys) (lookup table) (lookup table))
    (c : Call τ α) (s : Session (Recording σ τ)) :
    let s' := ((callBy { backend := b.recorded, options := o } lookup c).run.run s).2
    s'.caches.keys = s.caches.keys ∧ ∃ added,
      s'.backend.events = s.backend.events ++ added ∧ ∀ event ∈ added, P event := by
  let r : BlockingRepository (Recording σ τ) τ := { backend := b.recorded, options := o }
  have hmatches : Action.Matches (Session.Adds P s.backend.events s.caches.keys)
      (r.callBy lookup c) (r.callBy lookup c) :=
    matches_callBy Session.adds_tolerant rfl (b.adds_fetch hfetch) (hlookup _ _) c
  obtain ⟨-, -, hkeys, hadded⟩ := @hmatches s s ⟨rfl, rfl, [], (List.append_nil _).symm, by simp⟩
  exact ⟨hkeys, hadded⟩

/-- Behind the lookup, a call asks nothing about key columns, and remembers none. -/
theorem unasked_callBy (b : Backend σ τ) (o : RepositoryOptions) (c : Call τ α)
    (reported : List String) (s : Session (Recording σ τ)) :
    let s' := ((callBy { backend := b.recorded, options := o } (fun _ => pure reported) c).run.run
      s).2
    s'.caches.keys = s.caches.keys ∧ ∃ fetched,
      s'.backend.events = s.backend.events ++ fetched ∧ fetched.filterMap Event.lookup? = [] := by
  obtain ⟨hkeys, fetched, hevents, hfetched⟩ := adds_callBy b o
    (P := fun event => event.lookup? = none) (fun _ _ _ => rfl) (fun _ _ _ => .pure reported) c s
  exact ⟨hkeys, fetched, hevents, List.filterMap_eq_nil_iff.2 hfetched⟩

/-- A call asks for key columns at most once, and only if it depends on them and they are not
remembered. What is reported is remembered, and nothing else. -/
theorem asks_call (b : Backend σ τ) (o : RepositoryOptions) (c : Call τ α)
    (s : Session (Recording σ τ)) :
    ∃ asked,
      ((call { backend := b.recorded, options := o } c).run.run s).2.backend.events =
        s.backend.events ++ asked ∧
      c.Asks (o.planner b.dialect) s.caches.keys (asked.filterMap Event.lookup?)
        ((call { backend := b.recorded, options := o } c).run.run s).2.caches.keys := by
  have hunasked := unasked_callBy b o c
  have hplanner : planner { backend := b.recorded, options := o } = o.planner b.dialect := rfl
  rw [call_eq_callBy, ← hplanner]
  cases htable : c.keyTable? (planner { backend := b.recorded, options := o }) with
  | none =>
    rw [callBy_of_keyTable?_eq_none _ htable _ fun _ => pure []]
    obtain ⟨hkeys, fetched, hevents, hlookups⟩ := hunasked [] s
    refine ⟨fetched, hevents, ?_⟩
    rw [hkeys, hlookups]
    exact .nothing
  | some table =>
    rw [callBy_of_keyTable?_eq_some _ htable]
    cases hkeys : s.caches.keys.get? table with
    | some known =>
      -- what is remembered is taken without asking
      rw [Action.run_bind_ok (run_keyColumns_of_known _ hkeys)]
      obtain ⟨hkeys, fetched, hevents, hlookups⟩ := hunasked known s
      refine ⟨fetched, hevents, ?_⟩
      rw [hkeys, hlookups]
      exact .nothing
    | none =>
      have hreply := b.run_keyColumns_recorded table s.backend
      cases hcolumns : ((b.keyColumns table).run s.backend.state).1 with
      | error e =>
        -- the call ends here, before any statement is run
        rw [hcolumns] at hreply
        rw [Action.run_bind_error (run_keyColumns_of_error _ hkeys hreply)]
        exact ⟨_, rfl, .failed htable hkeys⟩
      | ok columns =>
        rw [hcolumns] at hreply
        rw [Action.run_bind_ok (run_keyColumns_of_ok _ hkeys hreply)]
        obtain ⟨hremembered, fetched, hevents, hlookups⟩ := hunasked columns _
        refine ⟨.lookup table (.ok columns) :: fetched, ?_, ?_⟩
        · rw [hevents, List.append_assoc, List.singleton_append]
        · have hasked : (Event.lookup table (.ok columns) :: fetched).filterMap Event.lookup? =
              [(table, .ok columns)] := by
            rw [List.filterMap_cons, hlookups]
            rfl
          rw [hremembered, hasked]
          exact .reported htable hkeys

end BlockingRepository

end FilterSql
