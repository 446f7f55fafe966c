import FilterSql.Proofs.Acceptance
import FilterSql.Proofs.Coercion

/-!
# Merging a row that has been read

A row that is read and merged back should be written as it was written at first. What is sent for a
member depends on its value and on its declared type, and the value that is read back is often of
another kind than the one that was given: a text may have become a number, and a truth value an
integer.

## Main definitions

* `Statement.sentTo`: the columns that an upsert binds values for, with what is sent for them;
* `MergeSpec.ReadsBack`: a merge writes the row back that another one has written.

## Main results

* `Builder.sentTo_run`: what is sent for the members of a record;
* `MergeSpec.ReadsBack.accepted`: a row that is read back can be merged;
* `Builder.merge_read_back`: what is read back is sent again, unless a truth value was sent for a
  floating type.
-/

namespace FilterSql

/-- The columns that an upsert binds values for, each with what is sent for it. -/
def Statement.sentTo (st : Statement) : List (String × Option Cell) :=
  match st.command with
  | .upsert u => u.bound.zip (st.parameters.map fun p => p.value.coerce p.dbType)
  | _ => []

/-- For the columns that an upsert binds, another one sends the same. -/
def Statement.SentAgain (st st' : Statement) : Prop :=
  ∀ column c, (column, c) ∈ st.sentTo → ∀ c', (column, c') ∈ st'.sentTo ↔ c' = c

/-- The type that a member of a record is declared as under a chain. -/
def Scope.memberType (s : Scope) (types : TypeChain) (entry : String × Value) : Option DbType :=
  ((s.column entry.1 entry.2.kind).run types).1.dbType

/-- Chains that give the same answers declare the members of a record as the same types. -/
theorem Scope.memberType_congr (s : Scope) {types types' : TypeChain} (h : types.Agree types')
    (entry : String × Value) : s.memberType types entry = s.memberType types' entry := by
  rw [memberType, (s.invisible_column _ _).result h, memberType]

namespace MergeSpec

variable {spec spec' : MergeSpec} {d : Dialect} {s : Scope} {types : TypeChain}

/-- The bound members of a record with their columns. -/
def boundMembers (spec : MergeSpec) (d : Dialect) (s : Scope) (types : TypeChain) : List Member :=
  (spec.bound d s).map fun entry =>
    { column := ((s.column entry.1 entry.2.kind).run types).1, value := entry.2 }

/-- What is sent for the bound members of a record. -/
def sends (spec : MergeSpec) (d : Dialect) (s : Scope) (types : TypeChain) :
    List (String × Option Cell) :=
  (spec.bound d s).map fun entry =>
    (s.entity.columnOf s.fieldCase entry.1, entry.2.coerce (s.memberType types entry))

/-- Chains that give the same answers send the same. -/
theorem sends_congr (spec : MergeSpec) (d : Dialect) (s : Scope) {types types' : TypeChain}
    (h : types.Agree types') : spec.sends d s types = spec.sends d s types' := by
  simp only [sends, s.memberType_congr h]

/-- The columns and the parameters of a planned merge are those of the bound members. -/
theorem boundMembers_plan {u : Upsert} {ps : List Parameter}
    (h : (spec.keys s).plan d.upsertStyle s.entity.table (spec.located s types) = (u, ps)) :
    u.bound = (spec.boundMembers d s types).map (·.column.name) ∧
      ps = Parameter.ofMembers (spec.boundMembers d s types) := by
  have hbinds := funext (spec.binds_eq d s types)
  unfold MergeKeys.plan at h
  by_cases hstyle : d.upsertStyle = .merge
  · have hmembers : spec.boundMembers d s types = spec.located s types := by
      simp [boundMembers, bound, located, hbinds, hstyle]
    simp only [hstyle, if_true, Prod.mk.injEq] at h
    obtain ⟨rfl, rfl⟩ := h
    exact ⟨by rw [hmembers], by rw [hmembers]⟩
  · have hmembers : spec.boundMembers d s types =
        (spec.keys s).insertable d.upsertStyle (spec.located s types) := by
      simp [boundMembers, bound, located, hbinds, hstyle, MergeKeys.insertable, List.filter_map,
        Function.comp_def]
    simp only [hstyle, if_false, Prod.mk.injEq] at h
    obtain ⟨rfl, rfl⟩ := h
    exact ⟨by rw [hmembers], by rw [hmembers]⟩

end MergeSpec

namespace Builder

variable {b : Builder} {r : Request} {spec spec' : MergeSpec} {types types' : TypeChain}
  {st : Statement}

/-- The statement of a merge sends what is sent for the bound members of the record. -/
theorem sentTo_run (hop : r.operation = .merge spec) (h : b.run r types = (.ok st, types')) :
    st.sentTo = spec.sends b.dialect (b.scope r.entity) types := by
  obtain ⟨u, hu, hplanned⟩ := run_merge h hop
  obtain ⟨-, -, -, -, hplan⟩ := MergeSpec.plan_eq_ok hplanned
  obtain ⟨hbound, hps⟩ := MergeSpec.boundMembers_plan hplan
  rw [Statement.sentTo, hu]
  dsimp only
  rw [hbound, hps, Parameter.map_ofMembers Value.coerce, List.zip_map', MergeSpec.boundMembers,
    List.map_map]
  refine List.map_congr_left fun entry _ => ?_
  exact Prod.ext ((b.scope r.entity).column_name entry.1 entry.2.kind types) rfl

end Builder

/-- A merge writes the row back that another one has written: there is a member for each of its
members, and where it has bound a value, this is what is read back. What the database has generated
may be anything. -/
structure MergeSpec.ReadsBack (spec spec' : MergeSpec) (d : Dialect) (s : Scope)
    (types : TypeChain) : Prop where
  /-- Rows are matched on the same fields. -/
  qualifiers : spec'.qualifiers = spec.qualifiers
  /-- The database reports the same key columns. -/
  keyColumns : spec'.keyColumns = spec.keyColumns
  /-- There are no lists in a row. -/
  scalar : spec'.Scalar
  /-- Each column is read once. -/
  distinct : (spec'.record.entries.map fun entry => s.entity.columnOf s.fieldCase entry.1).Nodup
  /-- Each member is read back. -/
  member : ∀ entry ∈ spec.record.entries, ∃ entry' ∈ spec'.record.entries,
    s.entity.columnOf s.fieldCase entry'.1 = s.entity.columnOf s.fieldCase entry.1 ∧
      (spec.binds d s entry = true →
        ∀ c, entry.2.coerce (s.memberType types entry) = some c → entry'.2 = c.toValue)

/-- A member that is bound is read back as another one, from the same column. -/
structure MergeSpec.ReadAs (spec spec' : MergeSpec) (d : Dialect) (s : Scope)
    (entry entry' : String × Value) : Prop where
  /-- The member is bound. -/
  bound : entry ∈ spec.bound d s
  /-- The other one is in the row that is read. -/
  read : entry' ∈ spec'.record.entries
  /-- Both stand for the same column. -/
  column : s.entity.columnOf s.fieldCase entry'.1 = s.entity.columnOf s.fieldCase entry.1

namespace MergeSpec.ReadsBack

variable {spec spec' : MergeSpec} {d : Dialect} {s : Scope} {types : TypeChain}

/-- Both merges match rows on the same columns. -/
theorem matchColumns_eq (h : spec.ReadsBack spec' d s types) :
    spec'.matchColumns s = spec.matchColumns s := by
  rw [matchColumns, matchColumns, h.qualifiers, h.keyColumns]

/-- What is written at first can be written again. -/
theorem accepted (h : spec.ReadsBack spec' d s types) (haccepted : spec.Accepted d s) :
    spec'.Accepted d s := by
  refine ⟨h.scalar, ?_, ?_, ?_⟩
  · rw [h.matchColumns_eq]
    exact haccepted.keyed
  · intro column hcolumn
    rw [h.matchColumns_eq] at hcolumn
    obtain ⟨name, hname, hcolumnOf⟩ := haccepted.carried column hcolumn
    obtain ⟨entry, hentry, rfl⟩ := List.mem_map.1 hname
    obtain ⟨entry', hentry', hsame, -⟩ := h.member entry hentry
    exact ⟨entry'.1, List.mem_map_of_mem hentry', hsame.trans hcolumnOf⟩
  · rw [h.matchColumns_eq, h.qualifiers, h.keyColumns]
    exact haccepted.key

/-- Where a value was bound, what is read back is bound. -/
theorem binds_eq (h : spec.ReadsBack spec' d s types) {entry entry' : String × Value}
    (hbinds : spec.binds d s entry = true) (hnull : entry'.2.isNull = entry.2.isNull)
    (hcolumn : s.entity.columnOf s.fieldCase entry'.1 = s.entity.columnOf s.fieldCase entry.1) :
    spec'.binds d s entry' = true := by
  have hkeys : spec'.keys s = spec.keys s := by
    rw [keys, keys, h.matchColumns_eq, h.keyColumns]
  unfold binds at hbinds ⊢
  rwa [hkeys, hnull, hcolumn]

/-- A member that is bound is read back. -/
theorem exists_readAs (h : spec.ReadsBack spec' d s types) {entry : String × Value}
    (hentry : entry ∈ spec.bound d s) : ∃ entry', spec.ReadAs spec' d s entry entry' := by
  obtain ⟨entry', hentry', hcolumn, -⟩ := h.member entry (List.mem_of_mem_filter hentry)
  exact ⟨entry', hentry, hentry', hcolumn⟩

/-- For the column of a bound member nothing is sent but what is sent for the value that is read
back. -/
theorem mem_sends_iff (h : spec.ReadsBack spec' d s types) (hscalar : spec.Scalar)
    {entry entry' : String × Value} (hread : spec.ReadAs spec' d s entry entry') {c : Cell}
    (hc : entry.2.coerce (s.memberType types entry) = some c) (c' : Option Cell) :
    (s.entity.columnOf s.fieldCase entry.1, c') ∈ spec'.sends d s types ↔
      c' = c.toValue.coerce (s.memberType types entry') := by
  obtain ⟨hmem, hbinds⟩ := List.mem_filter.1 hread.bound
  -- a column is read once
  have honly {e : String × Value} (he : e ∈ spec'.record.entries)
      (hcolumn : s.entity.columnOf s.fieldCase e.1 = s.entity.columnOf s.fieldCase entry.1) :
      e = entry' :=
    List.inj_on_of_nodup_map h.distinct he hread.read (hcolumn.trans hread.column.symm)
  have hvalue {c : Cell} (hc : entry.2.coerce (s.memberType types entry) = some c) :
      entry'.2 = c.toValue := by
    obtain ⟨e, he, hcolumn, hvalue⟩ := h.member entry hmem
    obtain rfl := honly he hcolumn
    exact hvalue hbinds c hc
  have hbinds' : spec'.binds d s entry' = true := by
    refine h.binds_eq hbinds ?_ hread.column
    rw [hvalue (Value.coerce_eq_some (hscalar entry hmem) _)]
    exact Value.isNull_toValue_cellAs (hscalar entry hmem) _
  rw [← hvalue hc, sends, List.mem_map]
  constructor
  · rintro ⟨e, he, hsent⟩
    obtain ⟨hcolumn, rfl⟩ := Prod.ext_iff.1 hsent
    rw [honly (List.mem_of_mem_filter he) hcolumn]
  · rintro rfl
    exact ⟨entry', List.mem_filter.2 ⟨hread.read, hbinds'⟩, Prod.ext hread.column rfl⟩

/-- When what is read back is merged, the same is sent for the members that were bound, unless it
changes for one of them. -/
theorem sends_iff (h : spec.ReadsBack spec' d s types) (hscalar : spec.Scalar) :
    (∀ column c, (column, c) ∈ spec.sends d s types →
        ∀ c', (column, c') ∈ spec'.sends d s types ↔ c' = c) ↔
      ∀ entry entry', spec.ReadAs spec' d s entry entry' →
        ¬(entry.2.cellAs (.of (s.memberType types entry))).ChangesAs
          (.of (s.memberType types entry')) := by
  have hsent {entry : String × Value} (hentry : entry ∈ spec.bound d s) :
      entry.2.coerce (s.memberType types entry) =
        some (entry.2.cellAs (.of (s.memberType types entry))) :=
    Value.coerce_eq_some (hscalar entry (List.mem_of_mem_filter hentry)) _
  constructor
  · intro hagain entry entry' hread
    have hsame := hagain _ _ (List.mem_map.2 ⟨entry, hread.bound, rfl⟩)
      (entry.2.coerce (s.memberType types entry))
    rw [h.mem_sends_iff hscalar hread (hsent hread.bound), hsent hread.bound] at hsame
    exact (Cell.coerce_toValue_iff _ _).1 (hsame.2 rfl).symm
  · intro hnone column c hmem c'
    obtain ⟨entry, hentry, hsend⟩ := List.mem_map.1 hmem
    obtain ⟨rfl, rfl⟩ := Prod.ext_iff.1 hsend
    obtain ⟨entry', hread⟩ := h.exists_readAs hentry
    dsimp only
    rw [h.mem_sends_iff hscalar hread (hsent hentry), hsent hentry,
      (Cell.coerce_toValue_iff _ _).2 (hnone entry entry' hread)]

/-- As the same types, truth values alone change. -/
theorem flips_iff (h : spec.ReadsBack spec' d s types)
    (htypes : ∀ entry entry', spec.ReadAs spec' d s entry entry' →
      s.memberType types entry' = s.memberType types entry) :
    (∀ entry entry', spec.ReadAs spec' d s entry entry' →
        ¬(entry.2.cellAs (.of (s.memberType types entry))).ChangesAs
          (.of (s.memberType types entry'))) ↔
      ∀ entry ∈ spec.bound d s, ¬entry.2.Flips (.of (s.memberType types entry)) := by
  constructor
  · intro hnone entry hentry
    obtain ⟨entry', hread⟩ := h.exists_readAs hentry
    have hchanges := hnone entry entry' hread
    rwa [htypes entry entry' hread, Value.changesAs_cellAs_iff] at hchanges
  · intro hnone entry entry' hread
    rw [htypes entry entry' hread, Value.changesAs_cellAs_iff]
    exact hnone entry hread.bound

end MergeSpec.ReadsBack

namespace Builder

/-- What was sent for a value and is read back is sent again for the same type, unless a truth value
was sent for a floating type. A row that is read back can be merged, by a chain that gives the same
types, and then the same is sent for the columns that were bound, unless what was sent changes for
the type that it is read as; if the types are the same, this is the case for truth values alone. -/
theorem merge_read_back (b : Builder) :
    (∀ (v : Value) (t : Option DbType), v.isList = false →
      ∃ c, v.coerce t = some c ∧ (c.toValue.coerce t = some c ↔ ¬v.Flips (.of t))) ∧
    ∀ {r : Request} {spec spec' : MergeSpec} {types types' types₁ : TypeChain} {st : Statement},
      let s := b.scope r.entity
      r.operation = .merge spec → b.run r types = (.ok st, types') →
      spec.ReadsBack spec' b.dialect s types → types.Agree types₁ →
      ∃ st' types₁', b.run { r with operation := .merge spec' } types₁ = (.ok st', types₁') ∧
        (st.SentAgain st' ↔ ∀ entry entry', spec.ReadAs spec' b.dialect s entry entry' →
          ¬(entry.2.cellAs (.of (s.memberType types entry))).ChangesAs
            (.of (s.memberType types entry'))) ∧
        ((∀ entry entry', spec.ReadAs spec' b.dialect s entry entry' →
            s.memberType types entry' = s.memberType types entry) →
          (st.SentAgain st' ↔ ∀ entry ∈ spec.bound b.dialect s,
            ¬entry.2.Flips (.of (s.memberType types entry)))) := by
  constructor
  · intro v t hv
    refine ⟨_, Value.coerce_eq_some hv t, ?_⟩
    rw [Cell.coerce_toValue_iff, Value.changesAs_cellAs_iff]
  · intro r spec spec' types types' types₁ st s hop hrun hback hagree
    have haccepted : spec.Accepted b.dialect s :=
      (exists_run_merge_iff hop).1 ⟨st, congrArg Prod.fst hrun⟩
    obtain ⟨st', hst'⟩ : ∃ st', (b.run { r with operation := .merge spec' } types₁).1 = .ok st' :=
      (exists_run_merge_iff rfl).2 (hback.accepted haccepted)
    have hrun' : b.run { r with operation := .merge spec' } types₁ = (.ok st', _) :=
      Prod.ext hst' rfl
    have hsent' : st'.sentTo = spec'.sends b.dialect s types :=
      (sentTo_run rfl hrun').trans (MergeSpec.sends_congr _ _ _ hagree).symm
    have hagain := hback.sends_iff haccepted.scalar
    rw [← sentTo_run hop hrun, ← hsent'] at hagain
    exact ⟨st', _, hrun', hagain, fun htypes => hagain.trans (hback.flips_iff htypes)⟩

/-- A score that is given as an integer is sent as a float, and it is sent again beside the key that
the database has generated. -/
theorem merge_read_back_generated :
    let b : Builder := { dialect := .sqlite }
    let e : Entity :=
      { name := "E", table := { name := "t" }
        properties := [{ name := "Id", kind := .int, primary := true, identity := true },
          { name := "Name", kind := .text },
          { name := "Score", kind := .float, dbType := some .double }] }
    let spec (entries : List (String × Value)) : MergeSpec :=
      { record := ⟨entries⟩, qualifiers := [{ name := "Name" }] }
    let given := spec [("Name", .text "x"), ("Score", .int 3)]
    let read := spec [("Id", .int 7), ("Name", .text "x"), ("Score", .float (Decimal.ofInt64 3))]
    (∃ c, (Value.int 3).coerce (some .double) = some c ∧
      c.toValue.coerce (some .double) = some c) ∧
    ∃ st st' types types',
      b.run { entity := e, operation := .merge given } {} = (.ok st, types) ∧
      b.run { entity := e, operation := .merge read } types = (.ok st', types') ∧
      st.sentTo = [("Name", some (.text "x")), ("Score", some (.real (Decimal.ofInt64 3)))] ∧
      st.SentAgain st' := by
  intro b e spec given read
  obtain ⟨hvalues, hrows⟩ := merge_read_back b
  obtain ⟨c, hc, hagain⟩ := hvalues (.int 3) (some .double) rfl
  have hrun : b.run { entity := e, operation := .merge given } {} = (.ok _, _) := rfl
  have hback : given.ReadsBack read b.dialect (b.scope e) {} := by
    refine ⟨rfl, rfl, by simp [MergeSpec.Scalar, read, spec, Value.isList], by decide, ?_⟩
    intro entry hentry
    obtain rfl | rfl := List.mem_pair.1 hentry
    · refine ⟨("Name", .text "x"), by simp [read, spec], rfl, ?_⟩
      rintro - c ⟨⟩
      rfl
    · refine ⟨("Score", .float (Decimal.ofInt64 3)), by simp [read, spec], rfl, ?_⟩
      rintro - c ⟨⟩
      rfl
  obtain ⟨st', types', hrun', -, hsame⟩ := hrows rfl hrun hback (agree_run hrun)
  refine ⟨⟨c, hc, hagain.2 (by rintro ⟨-, _, ⟨⟩⟩)⟩, _, st', _, types', hrun, hrun', rfl,
    (hsame ?_).2 ?_⟩
  · rintro entry entry' ⟨hbound, hread, hcolumn⟩
    have hread' : entry' = ("Id", .int 7) ∨ entry' = ("Name", .text "x") ∨
        entry' = ("Score", .float (Decimal.ofInt64 3)) := by
      simpa [read, spec] using hread
    -- the columns tell which member is read back for which
    obtain rfl | rfl := List.mem_pair.1 (List.mem_of_mem_filter hbound)
    · obtain rfl | rfl | rfl := hread'
      · exact absurd hcolumn (by decide)
      · rfl
      · exact absurd hcolumn (by decide)
    · obtain rfl | rfl | rfl := hread'
      · exact absurd hcolumn (by decide)
      · exact absurd hcolumn (by decide)
      · rfl
  · intro entry hentry
    obtain rfl | rfl := List.mem_pair.1 (List.mem_of_mem_filter hentry)
    · rintro ⟨-, _, ⟨⟩⟩
    · rintro ⟨-, _, ⟨⟩⟩

/-- A truth value is sent as an integer for a floating type, and what is read back as a float. -/
theorem merge_changes_flag :
    let e : Entity :=
      { name := "E", table := { name := "t" }
        properties := [{ name := "Id", kind := .int, primary := true },
          { name := "Flag", kind := .bool, dbType := some .double }] }
    let merge (flag : Value) : Request :=
      { entity := e, operation := .merge { record := ⟨[("Id", .int 7), ("Flag", flag)]⟩ } }
    ∃ st st' types types', run { dialect := .sqlite } (merge (.bool true)) {} = (.ok st, types) ∧
      st.sentTo = [("Id", some (.integer 7)), ("Flag", some (.integer 1))] ∧
      run { dialect := .sqlite } (merge (Cell.integer 1).toValue) types = (.ok st', types') ∧
      st'.sentTo = [("Id", some (.integer 7)), ("Flag", some (.real (Decimal.ofInt64 1)))] := by
  intro e merge
  exact ⟨_, _, _, _, rfl, rfl, rfl, rfl⟩

end Builder

end FilterSql
