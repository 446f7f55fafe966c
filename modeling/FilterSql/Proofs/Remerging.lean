import FilterSql.Proofs.Repetition

/-!
# A merge that is run again

A merge can be run again when its members give a value to each column that rows are matched on, write
no null over the generated key, and leave a further key to be generated if they give none. Then one
row of the table is the one that the record was merged into, and the statement of the merge leaves
the table as it is when it is run again.

## Main definitions

* `Table.Gives`: the members give a column its value;
* `Table.Repeats`: a table on which a merge can be run again;
* `Table.IsWritten`: the row of the changed table that the record was merged into;
* `Table.resultValue?`: the value of a row in the result column.

## Main results

* `Store.repeatable`: the upsert of a merge can be run again if the merge can;
* `Builder.run_again`: the statement of a merge that ran leaves all tables as they are when it is run
  again.
-/

namespace FilterSql

namespace Table

variable (t : Table) (keys : MergeKeys) (members : List Member)

/-- The members give a column its value: one of them is written there, and none of them as null. -/
structure Gives (i : Nat) : Prop where
  given : ∃ m, t.Supplies keys members m i
  ne_null : ∀ m, t.Supplies keys members m i → m.cell ≠ .null

/-- A table on which a merge can be run again. -/
structure Repeats : Prop where
  /-- The columns that rows are matched on exist and are given values. -/
  matched : ∀ q ∈ keys.qualifiers, ∃ i, t.schema.position? q = some i ∧ t.Gives keys members i
  /-- The generated key is written over with a given one only. -/
  key : ∀ i m, t.schema.autoPosition? = some i → t.Replaces keys members m i →
    t.Gives keys members i
  /-- Where no key is given, there are fewer rows than keys. -/
  room : ∀ i, t.schema.autoPosition? = some i → ¬ t.Gives keys members i →
    t.rows.length + 2 < 2 ^ 63

/-- What a column keeps of a value: the generated key is kept as an integer. -/
def kept (i : Nat) (c : Cell) : Cell :=
  if t.schema.autoPosition? = some i then (c.integerKey?.map Cell.integer).getD c else c

/-- The row of the changed table `t'` that the record was merged into. -/
structure IsWritten (t' : Table) (w : Row) : Prop where
  /-- The row equals the record in the columns that rows are matched on. -/
  matched : ∀ q ∈ keys.qualifiers, ∃ i m, t.schema.position? q = some i ∧
    t.Supplies keys members m i ∧ (w.at i).same (t.kept i m.cell) = true
  /-- All other rows are as before. -/
  changed : t.ChangedTo t' w

/-- The value of a row in the result column. -/
def resultValue? (row : Row) : Option Value :=
  keys.result.map fun c => ((Store.operand t.schema c).value row).toValue

end Table

/-- What is stored of a stored value is this value. -/
theorem Cell.stored_stored (c : Cell) : c.stored.stored = c.stored := by
  cases c with
  | real x =>
    by_cases hx : x.isNaN = true
    · have hnull : (real x).stored = null := if_pos hx
      rw [hnull]
      rfl
    · have hreal : (real x).stored = real x := if_neg hx
      rw [hreal, hreal]
  | _ => rfl

namespace Store

variable {t t' : Table} {keys : MergeKeys} {members : List Member} {u : Upsert}

/-- Where members are written, a new row has the value of one of them. -/
theorem exists_newRow_at (hwf : t.WellFormed)
    (hbound : u.bound = (keys.insertable .onConflict members).map (·.column.name)) {i : Nat}
    (h : ∃ m, t.Supplies keys members m i) :
    ∃ m, t.Supplies keys members m i ∧
      (newRow t.schema u (sent (keys.insertable .onConflict members))).at i = m.cell := by
  obtain ⟨m, hm, hopen, hi⟩ := h
  have hlt := TableSchema.lt_of_position? hi
  rw [newRow_at hbound hlt]
  cases hfind : (keys.insertable .onConflict members).find? fun m =>
      sameName t.schema.columns[i] m.column.name with
  | none =>
    exact absurd (TableSchema.sameName_getElem hi hlt)
      (List.find?_eq_none.1 hfind m (MergeKeys.mem_insertable_iff.2 ⟨hm, hopen⟩))
  | some m' =>
    obtain ⟨hm', hopen'⟩ := MergeKeys.mem_insertable_iff.1 (List.mem_of_find?_eq_some hfind)
    have hsame := List.find?_some hfind
    exact ⟨m', ⟨hm', hopen', TableSchema.position?_eq_some hwf.columns hlt hsame⟩, rfl⟩

/-- Where the members give a column its value, a new row is not null. -/
theorem newRow_at_ne_null (hwf : t.WellFormed)
    (hbound : u.bound = (keys.insertable .onConflict members).map (·.column.name)) {i : Nat}
    (h : t.Gives keys members i) :
    (newRow t.schema u (sent (keys.insertable .onConflict members))).at i ≠ .null := by
  obtain ⟨m, hm, hvalue⟩ := exists_newRow_at hwf hbound h.given
  rw [hvalue]
  exact h.ne_null m hm

/-- The columns of an upsert that may be written over are those of the members that overwrite. -/
theorem updated_ne_nil_iff (table : TableName) :
    (keys.plan .onConflict table members).1.updated ≠ [] ↔ ∃ m ∈ members, keys.Overwrites m := by
  constructor
  · intro hne
    obtain ⟨c, hc⟩ := List.exists_mem_of_ne_nil _ hne
    obtain ⟨m, hm, hover, -⟩ := MergeKeys.mem_updated_iff.1 hc
    exact ⟨m, hm, hover⟩
  · rintro ⟨m, hm, hover⟩
    exact List.ne_nil_of_mem (MergeKeys.mem_updated_iff.2 ⟨m, hm, hover, rfl⟩)

section Repeats

variable {table : TableName} {conflict : Option (List Nat)} (hwf : t.WellFormed)
  (hrepeats : t.Repeats keys members) (hnonempty : keys.qualifiers ≠ [])
  (hconflict : checkUpsert t.schema (keys.plan .onConflict table members).1 = .ok conflict)
include hwf hrepeats hnonempty hconflict

/-- The upsert of a merge that can be run again can be run again. It names the unique set of the
columns that rows are matched on. -/
theorem repeatable :
    ∃ set, conflict = some set ∧ set ∈ t.schema.uniqueSets ∧ t.IsMatchSet keys set ∧
      Repeatable t (keys.plan .onConflict table members).1 set
        (newRow t.schema (keys.plan .onConflict table members).1
          (sent (keys.insertable .onConflict members))) := by
  have hset : ∃ set, conflict = some set ∧ set ∈ t.schema.uniqueSets ∧ t.IsMatchSet keys set := by
    unfold checkUpsert at hconflict
    split at hconflict
    · cases hconflict
    split_ifs at hconflict with hempty
    · -- a member is inserted into each column that rows are matched on
      obtain ⟨q, hq⟩ := List.exists_mem_of_ne_nil _ hnonempty
      obtain ⟨i, -, hgives⟩ := hrepeats.matched q hq
      obtain ⟨m, hm, hopen, -⟩ := hgives.given
      have hinserted := List.mem_map_of_mem (f := fun m : Member => m.column.name)
        (MergeKeys.mem_insertable_iff.2 ⟨hm, hopen⟩)
      exact absurd (List.isEmpty_iff.1 hempty) (List.ne_nil_of_mem hinserted)
    · split at hconflict
      · next set hset =>
        obtain rfl := Except.ok.inj hconflict
        obtain ⟨hmem, hmatch⟩ := TableSchema.perm_of_conflictSet? hwf.sets hset
        exact ⟨set, rfl, hmem, hmatch⟩
      · cases hconflict
  obtain ⟨set, hsome, hmem, hmatch⟩ := hset
  refine ⟨set, hsome, hmem, hmatch, ?_, ?_, ?_⟩
  · -- the values that rows are matched on are stored values
    refine Row.agreeOn_iff.2 fun i hi => ?_
    obtain ⟨q, hq, hposition⟩ := hmatch.mem_iff.1 hi
    obtain ⟨_, hposition', hgives⟩ := hrepeats.matched q hq
    obtain rfl := Option.some.inj (hposition.symm.trans hposition')
    obtain ⟨m, hm, hvalue⟩ :=
      exists_newRow_at (u := (keys.plan .onConflict table members).1) hwf rfl hgives.given
    rw [hvalue]
    exact Cell.same_self (hgives.ne_null m hm) (Cell.stored_stored _)
  · intro k hk c hc hposition
    obtain ⟨m, hm, hover, rfl⟩ := MergeKeys.mem_updated_iff.1 hc
    exact newRow_at_ne_null hwf rfl (hrepeats.key k m hk ⟨hm, hover, hposition⟩)
  · intro k hk hnull
    exact hrepeats.room k hk fun hgives => newRow_at_ne_null hwf rfl hgives hnull

/-- The upsert of a merge that ran has left one row that the record was merged into, and leaves the
table as it is when it is run again. -/
theorem upsert_remerges {rows : List Record}
    (h : upsert t (keys.plan .onConflict table members).1 conflict
      (sent (keys.insertable .onConflict members)) = .ok (t', rows)) :
    ∃ w, t'.schema = t.schema ∧ t.IsWritten keys members t' w ∧
      (rows = reported t.schema (keys.plan .onConflict table members).1 w ∨
        (keys.plan .onConflict table members).1.updated = [] ∧ rows = []) ∧
      upsert t' (keys.plan .onConflict table members).1 conflict
          (sent (keys.insertable .onConflict members)) =
        .ok (t', if (keys.plan .onConflict table members).1.updated.isEmpty then []
          else reported t.schema (keys.plan .onConflict table members).1 w) := by
  obtain ⟨set, rfl, hmem, hmatch, hrepeatable⟩ := repeatable hwf hrepeats hnonempty hconflict
  obtain ⟨row, w, hrow, hagree, hschema, hchanged, hrows, hagain⟩ :=
    upsert_again hwf hmem hrepeatable h
  refine ⟨w, hschema, ⟨fun q hq => ?_, hchanged⟩, hrows, hagain⟩
  obtain ⟨i, hposition, hgives⟩ := hrepeats.matched q hq
  obtain ⟨m, hm, hvalue⟩ :=
    exists_newRow_at (u := (keys.plan .onConflict table members).1) hwf rfl hgives.given
  refine ⟨i, m, hposition, hm, ?_⟩
  -- the inserted row has the member's value there, or the integer that is kept of it as a key
  obtain ⟨-, hother, hauto⟩ := Table.settleKey_cases (by simp [newRow]) hrow
  have hkept : row.at i = t.kept i m.cell := by
    unfold Table.kept
    split_ifs with hk
    · obtain ⟨n, hn, hkey⟩ := hauto i hk
      rw [hvalue, if_neg (hgives.ne_null m hm)] at hkey
      rw [hn, hkey]
      rfl
    · rw [hother i hk, hvalue]
  rw [← hkept]
  exact Row.agreeOn_iff.1 hagree i (hmatch.mem_iff.2 ⟨q, hq, hposition⟩)

end Repeats

/-- The value that is reported about a row is that of its result column. -/
theorem first?_reported (s : TableSchema) (u : Upsert) (row : Row) :
    (reported s u row).head?.bind Record.first? =
      u.result.map fun c => ((operand s c).value row).toValue := by
  unfold reported
  cases u.result <;> rfl

end Store

/-- The statement that a merge is built to for SQLite has run on a table on which the merge can be
run again. It leaves all tables as they are when it is run again. Where some member overwrites, the
row that the record was merged into is reported both times. Where none does, the row is reported when
it is inserted, and nothing is reported afterwards. -/
theorem Builder.run_again {b : Builder} {r : Request} {spec : MergeSpec} {types types' : TypeChain}
    {st : Statement} {db db' : Database} {t : Table} {rows : List Record} {keys : MergeKeys}
    {members : List Member} (hd : b.dialect = .sqlite) (hop : r.operation = .merge spec)
    (h : b.run r types = (.ok st, types')) (hkeys : spec.keys (b.scope r.entity) = keys)
    (hmembers : spec.located (b.scope r.entity) types = members)
    (ht : db.table? r.entity.table.schema r.entity.table.name = some t) (hwf : t.WellFormed)
    (hrepeats : t.Repeats keys members) (hrun : Store.run db st = .ok (db', rows)) :
    ∃ t' w rows', db'.table? r.entity.table.schema r.entity.table.name = some t' ∧
      t.IsWritten keys members t' w ∧ Store.run db' st = .ok (db', rows') ∧
      if ∃ m ∈ members, keys.Overwrites m then
        rows.head?.bind Record.first? = t.resultValue? keys w ∧ rows' = rows
      else
        (rows.head?.bind Record.first? = t.resultValue? keys w ∨ rows = []) ∧ rows' = [] := by
  have hcells := cells_run_merge hd hop h
  obtain ⟨u, hcommand, hplanned⟩ := run_merge h hop
  obtain ⟨-, hnonempty, -, -, hplan⟩ := MergeSpec.plan_eq_ok hplanned
  change (spec.keys (b.scope r.entity)).qualifiers ≠ [] at hnonempty
  rw [hd, hkeys, hmembers] at hplan
  rw [hkeys] at hnonempty
  rw [hkeys, hmembers] at hcells
  -- the upsert is the one that is planned from the keys and the members
  obtain rfl := (congrArg Prod.fst hplan).symm
  have hdialect : st.dialect = .sqlite := (run_eq_ok h).1.trans hd
  have hhint : st.hint = none := hint_run_merge h hop (by rw [hd]; rfl)
  obtain ⟨conflict, t', hconflict, hupsert, rfl⟩ := Store.run_upsert_cases hhint hcommand ht hcells hrun
  obtain ⟨w, hschema, hwritten, hrows, hagain⟩ :=
    Store.upsert_remerges hwf hrepeats hnonempty hconflict hupsert
  -- the table that it left has the same columns and unique sets, so it checks the upsert alike
  have ht' := db.table?_update t ht hschema
  rw [← hschema] at hconflict
  have hrun' := Store.run_upsert hdialect hhint hcommand ht' hconflict hcells hagain
  rw [Database.update_update] at hrun'
  refine ⟨t', w, _, ht', hwritten, hrun', ?_⟩
  have hupdates : _ ≠ [] ↔ ∃ m ∈ members, keys.Overwrites m :=
    Store.updated_ne_nil_iff (b.scope r.entity).entity.table
  by_cases hover : ∃ m ∈ members, keys.Overwrites m
  · have hupdated := hupdates.2 hover
    rw [if_pos hover, if_neg (by rwa [List.isEmpty_iff])]
    obtain rfl := hrows.resolve_right fun h => hupdated h.1
    exact ⟨Store.first?_reported _ _ w, rfl⟩
  · have hupdated := not_not.1 (mt hupdates.1 hover)
    rw [if_neg hover, if_pos (List.isEmpty_iff.2 hupdated)]
    rcases hrows with rfl | ⟨-, rfl⟩
    · exact ⟨.inl (Store.first?_reported _ _ w), rfl⟩
    · exact ⟨.inr rfl, rfl⟩

end FilterSql
