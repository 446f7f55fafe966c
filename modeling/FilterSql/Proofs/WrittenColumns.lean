import FilterSql.Proofs.Clauses

/-!
# Which columns an upsert writes

A merged record names columns by property names and by column names, and the upsert keeps account of
them in several clauses. A new row gets every column of the record but those that are left to the
database, an existing row those that may be overwritten, and nothing is taken from the record that it
does not hold. Names are not compared beyond that: two members that are names of one column are two
entries of each list that they belong to.

## Main definitions

* `MergeSpec.LeavesOut`: a new row gets no value for a member of the record;
* `MergeSpec.Accounts`: a statement accounts for the columns of a merged record.

## Main results

* `Builder.accounts_run`: a built merge accounts for the columns of its record;
* `Builder.nodup_columns_iff`: the columns that a built merge writes are distinct as far as no two
  members of the record are names of one column.
-/

namespace FilterSql

/-- A new row gets no value for a member of the record: in a `MERGE` none for the identity column, and
in each style no null for the identity or the result column. -/
def MergeSpec.LeavesOut (spec : MergeSpec) (style : UpsertStyle) (s : Scope)
    (entry : String × Value) : Prop :=
  let column := s.entity.columnOf s.fieldCase entry.1
  (style = .merge ∧ s.entity.identityColumn? = some column) ∨
    ((s.entity.identityColumn? = some column ∨
        s.entity.resultColumn? spec.keyColumns = some column) ∧ entry.2.isNull = true)

instance (spec : MergeSpec) (style : UpsertStyle) (s : Scope) :
    DecidablePred (spec.LeavesOut style s) :=
  fun _ => inferInstanceAs (Decidable (_ ∨ _))

/-- What a function makes of the names of a record. -/
theorem Record.map_names {α : Type} (r : Record) (f : String → α) :
    r.names.map f = r.entries.map fun entry => f entry.1 :=
  List.map_map

namespace MergeSpec

variable (spec : MergeSpec) (s : Scope) (types : TypeChain) (style : UpsertStyle)
  (table : TableName)

/-- Rows are matched on the columns that the merge is to match on. -/
theorem qualifiers_plan :
    ((spec.keys s).plan style table (spec.located s types)).1.qualifiers = spec.matchColumns s := by
  unfold MergeKeys.plan
  split <;> rfl

/-- The columns of a new row are those of the members that are not left out. -/
theorem inserted_plan :
    ((spec.keys s).plan style table (spec.located s types)).1.inserted =
      (spec.record.entries.filter fun entry => ¬ spec.LeavesOut style s entry).map fun entry =>
        s.entity.columnOf s.fieldCase entry.1 := by
  have hplan : ((spec.keys s).plan style table (spec.located s types)).1.inserted =
      ((spec.keys s).insertable style (spec.located s types)).map (·.column.name) := by
    unfold MergeKeys.plan
    split <;> rfl
  rw [hplan, MergeKeys.insertable, located, List.filter_map, List.map_map]
  have hcolumn : (fun m : Member => m.column.name) ∘ (fun entry : String × Value =>
      { column := ((s.column entry.1 entry.2.kind).run types).1, value := entry.2 : Member }) =
      fun entry => s.entity.columnOf s.fieldCase entry.1 :=
    funext fun entry => s.column_name _ _ _
  rw [hcolumn]
  refine congrArg _ (List.filter_congr fun entry _ => ?_)
  simp [MergeKeys.isGenerated, LeavesOut, keys, s.column_name]

/-- A `MERGE` binds values for the columns of all members. -/
theorem bound_plan_of_merge (hstyle : style = .merge) :
    ((spec.keys s).plan style table (spec.located s types)).1.bound =
      spec.record.entries.map fun entry => s.entity.columnOf s.fieldCase entry.1 := by
  have hbound : ((spec.keys s).plan style table (spec.located s types)).1.bound =
      (spec.located s types).map (·.column.name) := by
    rw [MergeKeys.plan, hstyle]
    rfl
  rw [hbound, map_column_located, spec.record.map_names]

/-- The columns of an existing row that get a value are those of the members that are in such a
column. -/
theorem updated_plan :
    let column := fun entry : String × Value => s.entity.columnOf s.fieldCase entry.1
    let updated := ((spec.keys s).plan style table (spec.located s types)).1.updated
    updated = (spec.record.entries.filter fun entry => column entry ∈ updated).map column := by
  intro column updated
  have hcolumns : (spec.located s types).map (·.column.name) = spec.record.entries.map column := by
    rw [map_column_located, spec.record.map_names]
  -- whether a member counts depends on its column alone
  obtain ⟨kept, hkept⟩ : ∃ kept, updated = (spec.record.entries.map column).filter kept := by
    simp only [updated, MergeKeys.plan, MergeKeys.updatable, hcolumns]
    split
    · exact ⟨_, rfl⟩
    · exact ⟨_, List.filter_filter⟩
  have hfilter : spec.record.entries.filter (fun entry => column entry ∈ updated) =
      spec.record.entries.filter (kept ∘ column) := by
    refine List.filter_congr fun entry hentry => ?_
    have hmem : column entry ∈ spec.record.entries.map column := List.mem_map_of_mem hentry
    simp [hkept, hmem]
  rw [hfilter, ← List.filter_map]
  exact hkept

end MergeSpec

/-- A statement accounts for the columns of a merged record. -/
structure MergeSpec.Accounts (spec : MergeSpec) (b : Builder) (e : Entity) (st : Statement) :
    Prop where
  /-- A new row gets the columns of the members that are not left out. -/
  inserted : ∀ c, c ∈ st.insertList ↔ ∃ entry ∈ spec.record.entries,
    e.columnOf b.fieldCase entry.1 = c ∧
      ¬ spec.LeavesOut b.dialect.upsertStyle (b.scope e) entry
  /-- What is assigned to an existing row are values of the record. Only where MySQL has nothing else
  to assign for a row that it would insert, a single qualifier is assigned to itself, at the end. -/
  targets : if b.dialect.upsertStyle = .onDuplicateKey ∧ st.insertList ≠ [] ∧ st.assigned = [] then
      ∃ q ∈ spec.matchColumns (b.scope e), st.targets = [q] ∧
        Upsert.assignment q [.ident q] <:+ st.tokens
    else st.targets = st.assigned.map (·.1)
  /-- No value of the record is assigned to a qualifier or to the identity. -/
  guarded : ∀ c ∈ st.assigned.map (·.1),
    c ∉ spec.matchColumns (b.scope e) ∧ e.identityColumn? ≠ some c
  /-- Outside of a `MERGE`, all other inserted columns are assigned, and nothing else. -/
  assigned : b.dialect.upsertStyle ≠ .merge → ∀ c, c ∈ st.assigned.map (·.1) ↔
    c ∈ st.insertList ∧ c ∉ spec.matchColumns (b.scope e) ∧ e.identityColumn? ≠ some c
  /-- A column that is read from the bound values of a `MERGE` is one of them. -/
  source : ∀ c, Upsert.aliased Upsert.sourceAlias c <:+: st.tokens → c ∈ st.sourceList
  /-- A column of the row that was not inserted is one that was to be inserted. -/
  excluded : ∀ c, [.word .excluded, .mark .dot, .ident c] <:+: st.tokens → c ∈ st.insertList
  /-- So is a column whose value for the new row is asked for. -/
  values : ∀ c, .word .values :: Token.parenthesized [.ident c] <:+: st.tokens →
    c ∈ st.insertList
  /-- The qualifiers are columns of the record. -/
  qualifiers : ∀ q ∈ spec.matchColumns (b.scope e),
    q ∈ spec.record.names.map (e.columnOf b.fieldCase)

/-- Two members of a record are names of one column. -/
def Scope.SameColumn (s : Scope) (entry entry' : String × Value) : Prop :=
  s.entity.columnOf s.fieldCase entry.1 = s.entity.columnOf s.fieldCase entry'.1

instance (s : Scope) : DecidableRel s.SameColumn :=
  fun _ _ => inferInstanceAs (Decidable (_ = _))

/-- The columns of some members are distinct when no two members are names of one column. -/
theorem Scope.nodup_map_columnOf_iff (s : Scope) (entries : List (String × Value)) :
    (entries.map fun entry => s.entity.columnOf s.fieldCase entry.1).Nodup ↔
      entries.Pairwise fun entry entry' => ¬ s.SameColumn entry entry' := by
  rw [List.Nodup, List.pairwise_map]
  rfl

namespace Builder

variable {b : Builder} {r : Request} {spec : MergeSpec} {types types' : TypeChain} {st : Statement}

/-- A new row gets the columns of the members that are not left out. -/
theorem insertList_run (hop : r.operation = .merge spec) (h : b.run r types = (.ok st, types')) :
    st.insertList = (spec.record.entries.filter fun entry =>
      ¬ spec.LeavesOut b.dialect.upsertStyle (b.scope r.entity) entry).map fun entry =>
        r.entity.columnOf b.fieldCase entry.1 := by
  obtain ⟨u, hplan, htokens, -⟩ := exists_upsert_of_run hop h
  rw [st.insertList_eq htokens, ← hplan]
  exact spec.inserted_plan (b.scope r.entity) types b.dialect.upsertStyle r.entity.table

/-- A `MERGE` binds the columns of all members. -/
theorem sourceList_run (hop : r.operation = .merge spec) (h : b.run r types = (.ok st, types'))
    (hstyle : b.dialect.upsertStyle = .merge) :
    st.sourceList = spec.record.entries.map fun entry =>
      r.entity.columnOf b.fieldCase entry.1 := by
  obtain ⟨u, hplan, htokens, -⟩ := exists_upsert_of_run hop h
  rw [st.sourceList_eq htokens hstyle, ← hplan]
  exact spec.bound_plan_of_merge (b.scope r.entity) types b.dialect.upsertStyle r.entity.table hstyle

/-- An existing row gets values for the columns of some members, which depend on these columns
alone. -/
theorem map_assigned_run (hop : r.operation = .merge spec) (h : b.run r types = (.ok st, types')) :
    st.assigned.map (·.1) = (spec.record.entries.filter fun entry =>
      r.entity.columnOf b.fieldCase entry.1 ∈ st.assigned.map (·.1)).map fun entry =>
        r.entity.columnOf b.fieldCase entry.1 := by
  obtain ⟨u, hplan, htokens, hplace, -⟩ := exists_upsert_of_run hop h
  rw [st.map_assigned htokens hplace, ← hplan]
  exact spec.updated_plan (b.scope r.entity) types b.dialect.upsertStyle r.entity.table

/-- What is assigned to an existing row are values of the record, or else a qualifier is assigned to
itself at the end. -/
theorem targets_run (hop : r.operation = .merge spec) (h : b.run r types = (.ok st, types')) :
    if b.dialect.upsertStyle = .onDuplicateKey ∧ st.insertList ≠ [] ∧ st.assigned = [] then
      ∃ q ∈ spec.matchColumns (b.scope r.entity), st.targets = [q] ∧
        Upsert.assignment q [.ident q] <:+ st.tokens
    else st.targets = st.assigned.map (·.1) := by
  obtain ⟨u, hplan, htokens, hplace, hnonempty, -⟩ := exists_upsert_of_run hop h
  have hqualifiers : u.qualifiers = spec.matchColumns (b.scope r.entity) :=
    hplan ▸ spec.qualifiers_plan ..
  have hassigned := st.map_assigned htokens hplace
  have hnone : st.assigned = [] ↔ u.updated = [] := by
    rw [← hassigned, List.map_eq_nil_iff]
  simp only [st.targets_eq htokens hplace, hassigned, st.insertList_eq htokens, hnone]
  split
  · next hidle =>
    obtain ⟨hstyle, hsome, hnone⟩ := hidle
    obtain ⟨q, hq, htake, hsuffix⟩ := u.exists_idle_suffix hsome hnone (hqualifiers ▸ hnonempty)
    refine ⟨q, hqualifiers ▸ hq, htake, ?_⟩
    rw [htokens, Upsert.tokens, hstyle]
    exact hsuffix
  · rfl

/-- Which columns a new row gets. -/
theorem mem_insertList_iff (hop : r.operation = .merge spec) (h : b.run r types = (.ok st, types'))
    {c : String} :
    c ∈ st.insertList ↔ ∃ entry ∈ spec.record.entries, r.entity.columnOf b.fieldCase entry.1 = c ∧
      ¬ spec.LeavesOut b.dialect.upsertStyle (b.scope r.entity) entry := by
  rw [insertList_run hop h, List.mem_map]
  constructor
  · rintro ⟨entry, hentry, hcolumn⟩
    obtain ⟨hentry, hopen⟩ := List.mem_filter.1 hentry
    exact ⟨entry, hentry, hcolumn, of_decide_eq_true hopen⟩
  · rintro ⟨entry, hentry, hcolumn, hopen⟩
    exact ⟨entry, List.mem_filter.2 ⟨hentry, decide_eq_true hopen⟩, hcolumn⟩

/-- Outside of a `MERGE`, a column that is assigned a value of the record is inserted. -/
theorem map_assigned_subset_insertList (hop : r.operation = .merge spec)
    (h : b.run r types = (.ok st, types')) (hstyle : b.dialect.upsertStyle ≠ .merge) :
    st.assigned.map (·.1) ⊆ st.insertList := by
  obtain ⟨u, hplan, htokens, hplace, -⟩ := exists_upsert_of_run hop h
  rw [st.map_assigned htokens hplace, st.insertList_eq htokens, ← hplan]
  exact MergeKeys.updated_subset_inserted hstyle

/-- Outside of a `MERGE`, the columns that are assigned values of the record are the inserted ones but
for the qualifiers and the identity. -/
theorem mem_map_assigned_iff_mem_insertList (hop : r.operation = .merge spec)
    (h : b.run r types = (.ok st, types')) (hstyle : b.dialect.upsertStyle ≠ .merge) {c : String} :
    c ∈ st.assigned.map (·.1) ↔ c ∈ st.insertList ∧
      c ∉ spec.matchColumns (b.scope r.entity) ∧ r.entity.identityColumn? ≠ some c := by
  constructor
  · intro hc
    obtain ⟨⟨-, hmatch, hidentity⟩, -⟩ := (mem_map_assigned_iff hop h).1 hc
    exact ⟨map_assigned_subset_insertList hop h hstyle hc, hmatch, hidentity⟩
  · rintro ⟨hc, hmatch, hidentity⟩
    obtain ⟨entry, hentry, rfl, hopen⟩ := (mem_insertList_iff hop h).1 hc
    refine (mem_map_assigned_iff hop h).2
      ⟨⟨List.mem_map_of_mem (List.mem_map_of_mem hentry), hmatch, hidentity⟩, .inr ?_⟩
    rintro ⟨hresult, hnull⟩
    exact hopen (.inr ⟨.inr hresult, hnull entry hentry rfl⟩)

/-- A value that is taken from the record by name, in the form of a style, is that of a column that is
assigned, or in a `MERGE` of some column of the record. -/
theorem of_recordValue_infix_run (hop : r.operation = .merge spec)
    (h : b.run r types = (.ok st, types')) (style : UpsertStyle) {c : String}
    (hin : Upsert.recordValue style c <:+: st.tokens) :
    b.dialect.upsertStyle = style ∧ (c ∈ st.assigned.map (·.1) ∨ style = .merge ∧
      c ∈ spec.record.names.map (r.entity.columnOf b.fieldCase)) := by
  obtain ⟨u, hplan, htokens, hplace, -, hcarried⟩ := exists_upsert_of_run hop h
  have hqualifiers : u.qualifiers = spec.matchColumns (b.scope r.entity) :=
    hplan ▸ spec.qualifiers_plan ..
  rw [htokens] at hin
  obtain ⟨hstyle, hc⟩ :=
    u.of_infix_tokens b.dialect st.hint (Upsert.isRecordValue_recordValue style c) hin
  -- the form tells the style
  obtain rfl := Upsert.eq_of_recordValue_eq hstyle
  rw [st.map_assigned htokens hplace]
  refine ⟨rfl, hc.imp_right ?_⟩
  rintro ⟨hmerge, hc | hc⟩
  · exact ⟨hmerge, hcarried c (hqualifiers ▸ hc)⟩
  · rw [← st.insertList_eq htokens] at hc
    obtain ⟨entry, hentry, rfl, -⟩ := (mem_insertList_iff hop h).1 hc
    exact ⟨hmerge, List.mem_map_of_mem (List.mem_map_of_mem hentry)⟩

/-- A built merge accounts for the columns of its record. -/
theorem accounts_run (hop : r.operation = .merge spec) (h : b.run r types = (.ok st, types')) :
    spec.Accounts b r.entity st where
  inserted _ := mem_insertList_iff hop h
  targets := targets_run hop h
  guarded c hc := by
    obtain ⟨⟨-, hmatch, hidentity⟩, -⟩ := (mem_map_assigned_iff hop h).1 hc
    exact ⟨hmatch, hidentity⟩
  assigned hstyle _ := mem_map_assigned_iff_mem_insertList hop h hstyle
  source c hin := by
    obtain ⟨hstyle, hc⟩ := of_recordValue_infix_run hop h .merge hin
    rw [sourceList_run hop h hstyle, ← spec.record.map_names (r.entity.columnOf b.fieldCase)]
    rcases hc with hc | ⟨-, hc⟩
    · exact ((mem_map_assigned_iff hop h).1 hc).1.1
    · exact hc
  excluded c hin := by
    obtain ⟨hstyle, hc⟩ := of_recordValue_infix_run hop h .onConflict hin
    exact map_assigned_subset_insertList hop h (by simp [hstyle]) (hc.resolve_right (by simp))
  values c hin := by
    obtain ⟨hstyle, hc⟩ := of_recordValue_infix_run hop h .onDuplicateKey hin
    exact map_assigned_subset_insertList hop h (by simp [hstyle]) (hc.resolve_right (by simp))
  qualifiers := by
    obtain ⟨_, _, _, _, _, hcarried⟩ := exists_upsert_of_run hop h
    exact hcarried

/-- MySQL has only the key of a record to insert, so it assigns the key to itself. -/
theorem accounts_run_key_only :
    let e : Entity :=
      { name := "E", table := { name := "E" }
        properties := [{ name := "Id", kind := .int, primary := true },
          { name := "Name", kind := .text }] }
    let spec : MergeSpec := { record := ⟨[("Id", .int 7)]⟩ }
    ∃ st types, run { dialect := .mysql } { entity := e, operation := .merge spec } {} =
        (.ok st, types) ∧
      spec.Accounts { dialect := .mysql } e st ∧ st.insertList = ["Id"] ∧ st.assigned = [] ∧
      st.targets = ["Id"] := by
  intro e spec
  have hrun : run { dialect := .mysql } { entity := e, operation := .merge spec } {} =
      (.ok _, _) := rfl
  exact ⟨_, _, hrun, accounts_run rfl hrun, by decide, by decide, by decide⟩

/-- The columns that a built merge writes are distinct as far as no two members of the record are
names of one column: for a new row, no two that are not left out; among the values that a `MERGE`
binds, no two at all; and for an existing row, no two that are assigned. -/
theorem nodup_columns_iff (hop : r.operation = .merge spec)
    (h : b.run r types = (.ok st, types')) :
    let s := b.scope r.entity
    let entries := spec.record.entries
    (st.insertList.Nodup ↔
        (entries.filter fun entry => ¬ spec.LeavesOut b.dialect.upsertStyle s entry).Pairwise
          fun entry entry' => ¬ s.SameColumn entry entry') ∧
      (b.dialect.upsertStyle = .merge →
        (st.sourceList.Nodup ↔ entries.Pairwise fun entry entry' => ¬ s.SameColumn entry entry')) ∧
      (st.targets.Nodup ↔
        (entries.filter fun entry =>
          r.entity.columnOf b.fieldCase entry.1 ∈ st.assigned.map (·.1)).Pairwise
          fun entry entry' => ¬ s.SameColumn entry entry') ∧
      (entries.Pairwise (fun entry entry' => ¬ s.SameColumn entry entry') →
        st.insertList.Nodup ∧ (b.dialect.upsertStyle = .merge → st.sourceList.Nodup) ∧
          st.targets.Nodup) := by
  intro s entries
  have hinsert : st.insertList.Nodup ↔
      (entries.filter fun entry => ¬ spec.LeavesOut b.dialect.upsertStyle s entry).Pairwise
        fun entry entry' => ¬ s.SameColumn entry entry' := by
    rw [insertList_run hop h]
    exact s.nodup_map_columnOf_iff _
  have hsource (hstyle : b.dialect.upsertStyle = .merge) : st.sourceList.Nodup ↔
      entries.Pairwise fun entry entry' => ¬ s.SameColumn entry entry' := by
    rw [sourceList_run hop h hstyle]
    exact s.nodup_map_columnOf_iff _
  have htargets : st.targets.Nodup ↔
      (entries.filter fun entry =>
        r.entity.columnOf b.fieldCase entry.1 ∈ st.assigned.map (·.1)).Pairwise
        fun entry entry' => ¬ s.SameColumn entry entry' := by
    have hrun := targets_run hop h
    split at hrun
    · next hidle =>
      -- a single qualifier is assigned, and no value of the record
      obtain ⟨q, -, hq, -⟩ := hrun
      simp [hq, hidle.2.2]
    · rw [hrun, ← s.nodup_map_columnOf_iff]
      exact iff_of_eq (congrArg _ (map_assigned_run hop h))
  exact ⟨hinsert, hsource, htargets, fun hdistinct => ⟨hinsert.2 (hdistinct.filter _),
    fun hstyle => (hsource hstyle).2 hdistinct, htargets.2 (hdistinct.filter _)⟩⟩

/-- A property and a column of another one are given, so a `MERGE` writes distinct columns. -/
theorem nodup_columns_of_distinct :
    let e : Entity :=
      { name := "E", table := { name := "E" }
        properties := [{ name := "Id", kind := .int, primary := true },
          { name := "Name", kind := .text, column := some "full_name" },
          { name := "Email", kind := .text }] }
    let spec : MergeSpec :=
      { record := ⟨[("Id", .int 1), ("full_name", .text "x"), ("Email", .text "y")]⟩ }
    ∃ st types, run { dialect := .tsql } { entity := e, operation := .merge spec } {} =
        (.ok st, types) ∧
      st.insertList = ["Id", "full_name", "Email"] ∧ st.insertList.Nodup ∧ st.sourceList.Nodup ∧
      st.targets.Nodup := by
  intro e spec
  have hrun : run { dialect := .tsql } { entity := e, operation := .merge spec } {} =
      (.ok _, _) := rfl
  obtain ⟨-, -, -, hdistinct⟩ := nodup_columns_iff rfl hrun
  obtain ⟨hinsert, hsource, htargets⟩ := hdistinct (by decide)
  exact ⟨_, _, hrun, by decide, hinsert, hsource rfl, htargets⟩

/-- A record may hold a property by its name and by its column, and both are written: the column is
inserted twice, bound twice and assigned twice. -/
theorem columns_written_twice :
    let e : Entity :=
      { name := "E", table := { name := "E" }
        properties := [{ name := "Id", kind := .int, primary := true },
          { name := "Name", kind := .text, column := some "full_name" }] }
    let spec : MergeSpec :=
      { record := ⟨[("Id", .int 1), ("Name", .text "x"), ("full_name", .text "y")]⟩ }
    ∃ st types, run { dialect := .tsql } { entity := e, operation := .merge spec } {} =
        (.ok st, types) ∧
      st.insertList = ["Id", "full_name", "full_name"] ∧ ¬ st.insertList.Nodup ∧
      ¬ st.sourceList.Nodup ∧ st.targets = ["full_name", "full_name"] ∧ ¬ st.targets.Nodup :=
  ⟨_, _, rfl, by decide, by decide, by decide, by decide, by decide⟩

end Builder

end FilterSql
