import FilterSql.Proofs.Outcomes

/-!
# Refusals and the database

Most errors of a request show in its inputs alone, without the key columns of the table: filters and
arguments that have no meaning, pages without an order, and lists in a merged record. An operation that
fails with one of these gives this error and asks the database nothing, with one exception. A merge that
depends on key columns which are not remembered asks for them before it looks at the record. It then
asks one question in vain, and where this one is not answered, it is the database's error that is
reported.

## Main definitions

* `QueryError.ShowsInInputs`: the errors that show in the inputs alone;
* `Call.HasToAsk`: a call depends on key columns that are not remembered;
* `Call.Refuses`: the result of a call that its inputs make fail, and what the database is asked.

## Main results

* `Call.plan_eq_error_of_inputs`: the key columns make no difference to such an error;
* `Call.refuses_perform`: the operations that fail by their inputs, on blocking and asynchronous
  repositories.
-/

namespace FilterSql

variable {σ τ α : Type}

/-- An error that shows in the inputs of an operation, without the key columns of its table. -/
inductive QueryError.ShowsInInputs : QueryError → Prop
  | unsupportedFilterShape (fault : ShapeFault) : ShowsInInputs (.unsupportedFilterShape fault)
  | unsupportedExpression (fault : ExpressionFault) : ShowsInInputs (.unsupportedExpression fault)
  | invalidOperatorArgument (field : String) (operator : Operator) (fault : ArgumentFault) :
    ShowsInInputs (.invalidOperatorArgument field operator fault)
  | emptyInClause (field : String) : ShowsInInputs (.emptyInClause field)
  | invalidPageArgument (fault : PageFault) : ShowsInInputs (.invalidPageArgument fault)
  | missingOrderForPaging (dialect : Dialect) : ShowsInInputs (.missingOrderForPaging dialect)
  | mergeListValue (field : String) : ShowsInInputs (.mergeListValue field)

/-- Of the reasons to refuse a merge, a list in its record is the only one that shows in the inputs. -/
theorem MergeSpec.Refused.exists_list {spec : MergeSpec} {d : Dialect} {s : Scope} {e : QueryError}
    (h : spec.Refused d s e) (hinputs : e.ShowsInInputs) :
    ∃ name v, e = .mergeListValue name ∧
      FirstWith (fun entry => entry.2.isList = true) spec.record.entries (name, v) := by
  cases h with
  | listValue first => exact ⟨_, _, rfl, first⟩
  | unmatched _ unmatched => cases unmatched <;> cases hinputs
  | notKey => cases hinputs

namespace Call

variable {c : Call τ α} {p : Planner} {keys : Assoc TableName (List String)}

/-- Inputs that make a call fail without key columns make it fail alike whatever they are. -/
theorem plan_eq_error_of_inputs {types : TypeChain} {e : QueryError} (hinputs : e.ShowsInInputs)
    (h : c.plan p types [] = .error e) (reported : List String) :
    c.plan p types reported = .error e := by
  cases c with
  | query | page | count => exact h
  | merge entity record qualifiers tx =>
    obtain ⟨name, v, rfl, hfirst⟩ :=
      ((Builder.run_merge_eq_error_iff rfl).1 h).exists_list hinputs
    have hrefused : MergeSpec.Refused { record, qualifiers, keyColumns := reported }
        p.builder.dialect (p.builder.scope entity) (.mergeListValue name) := .listValue hfirst
    exact (Builder.run_merge_eq_error_iff rfl).2 hrefused

/-- A call depends on key columns that are not remembered. -/
def HasToAsk (c : Call τ α) (p : Planner) (keys : Assoc TableName (List String)) : Prop :=
  ∃ table, c.keyTable? p = some table ∧ keys.get? table = none

/-- The result of a call whose inputs make it fail with an error, and what the database is asked. -/
structure Refuses (c : Call τ α) (p : Planner) (keys : Assoc TableName (List String))
    (e : QueryError) (result : Except QueryError α) (events : List (Event τ)) : Prop where
  /-- Unless key columns have to be asked for, the error is given and nothing is asked. -/
  untouched : ¬ c.HasToAsk p keys → result = .error e ∧ events = []
  /-- Otherwise they are asked for, and nothing else. The error is given when they are reported, and
  the error of the database when they are not. -/
  asked : ∀ table, c.keyTable? p = some table → keys.get? table = none →
    ∃ reply, events = [.lookup table reply] ∧
      result = match reply with
        | .ok _ => .error e
        | .error fault => .error (.execution fault)

/-- Nothing is asked for the sake of key columns that are not needed or remembered. -/
theorem Looks.eq_nil {lookups : List (Event τ)} {reported : List String}
    (h : c.Looks p keys lookups reported) (hknown : ¬ c.HasToAsk p keys) : lookups = [] := by
  unfold Looks at h
  split at h
  · exact h.1
  · next table htable =>
    split at h
    · exact h.1
    · next hkeys => exact absurd ⟨table, htable, hkeys⟩ hknown

/-- Key columns that are needed and not remembered are asked for. -/
theorem Looks.eq_singleton {lookups : List (Event τ)} {reported : List String}
    (h : c.Looks p keys lookups reported) {table : TableName} (htable : c.keyTable? p = some table)
    (hkeys : keys.get? table = none) : lookups = [.lookup table (.ok reported)] := by
  unfold Looks at h
  rw [htable] at h
  dsimp only at h
  rwa [hkeys] at h

/-- A call whose inputs make it fail ends with the error, if need be behind one question. -/
theorem Ends.refuses {caches : Caches} {result : Except QueryError α} {events : List (Event τ)}
    (h : c.Ends p caches result events) {e : QueryError} (hinputs : e.ShowsInInputs)
    (hplan : c.plan p caches.types [] = .error e) :
    c.Refuses p caches.keys e result events := by
  have hrefused := plan_eq_error_of_inputs hinputs hplan
  cases h with
  | @unreported table fault needed unknown =>
    refine ⟨fun hknown => absurd ⟨table, needed, unknown⟩ hknown, ?_⟩
    intro asked hasked _
    obtain rfl : table = asked := Option.some.inj (needed.symm.trans hasked)
    exact ⟨.error fault, rfl, rfl⟩
  | @refused _ _ reported looks refused =>
    obtain rfl := Except.error.inj ((hrefused reported).symm.trans refused)
    refine ⟨fun hknown => ⟨rfl, looks.eq_nil hknown⟩, ?_⟩
    intro table htable hkeys
    exact ⟨.ok reported, looks.eq_singleton htable hkeys, rfl⟩
  | failed _ planned | fetched _ planned =>
    -- no statement is built whatever key columns are reported
    rw [hrefused] at planned
    cases planned

/-- An operation whose inputs make it fail gives their error, on blocking and on asynchronous
repositories. Unless it is a merge that has to ask for key columns, it asks the database nothing. -/
theorem refuses_perform (c : Call τ α) (s : Session σ) {e : QueryError} (hinputs : e.ShowsInInputs) :
    (∀ r : BlockingRepository σ τ, c.plan r.planner s.caches.types [] = .error e →
      c.Refuses r.planner s.caches.keys e ((r.call c).perform s).1 (r.asked c s)) ∧
    (∀ r : AsyncRepository σ τ, c.plan r.planner s.caches.types [] = .error e →
      c.Refuses r.planner s.caches.keys e ((r.call c).perform s).1 (r.asked c s)) := by
  obtain ⟨hblocking, hasync⟩ := c.ends_perform s
  exact ⟨fun r => (hblocking r).refuses hinputs, fun r => (hasync r).refuses hinputs⟩

/-- An empty membership test is refused without a question, on a database that would answer none. -/
theorem refuses_perform_empty_membership :
    let r : BlockingRepository Unit Unit :=
      { backend :=
          { dialect := .sqlite, fetch := fun _ _ => pure (.error .poisoned)
            keyColumns := fun _ => pure (.error .poisoned) } }
    let c : Call Unit Nat :=
      .count (.ofTable { name := "item" }) (some (.dynamic ⟨[("Id", .list [])]⟩)) none none
    let s : Session Unit := { backend := (), caches := {} }
    ((r.call c).perform s).1 = .error (.emptyInClause "Id") ∧ r.asked c s = [] := by
  intro r c s
  have hplan : c.plan r.planner s.caches.types [] = .error (.emptyInClause "Id") := rfl
  exact ((refuses_perform c s (.emptyInClause "Id")).1 r hplan).untouched fun ⟨_, h, _⟩ => nomatch h

/-- A list in a record that is merged into a table known by name is not noticed before the key columns
of the table have been asked for. When they cannot be had, it is not reported at all. -/
theorem list_value_behind_lookup :
    let c : Call String Value :=
      .merge (.ofTable { name := "item" }) ⟨[("Id", .list [.int 1])]⟩ [] none
    let s : Session Scripted.Log := { backend := { replies := [] }, caches := {} }
    let described := Scripted.backend .sqlite (some [("item", ["Id"])])
    let r : BlockingRepository Scripted.Log String := { backend := described }
    let poisoned : BlockingRepository Scripted.Log String :=
      { backend := { described with keyColumns := fun _ => pure (.error .poisoned) } }
    c.plan r.planner {} [] = .error (.mergeListValue "Id") ∧
      c.plan poisoned.planner {} [] = .error (.mergeListValue "Id") ∧
      ((r.call c).perform s).1 = .error (.mergeListValue "Id") ∧
      r.asked c s = [.lookup { name := "item" } (.ok ["Id"])] ∧
      ((poisoned.call c).perform s).1 = .error (.execution .poisoned) :=
  ⟨rfl, rfl, rfl, rfl, rfl⟩

end Call

end FilterSql
