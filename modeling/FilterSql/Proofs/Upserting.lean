import FilterSql.Proofs.MergedRows

/-!
# What an upsert does to a table

The statement that a merge is built to for SQLite is computed from three overlapping sets of columns:
those that are inserted, those that rows are matched on, and those that are updated. Run on a table,
it does what the merge means.

## Main results

* `Store.exists_settleKey_newRow`: the row that is inserted is a new row for the members;
* `Store.isMerged_overwrite`: the row that is written over has the members' values;
* `Store.matches_iff_of_checkUpsert`: the row that an upsert finds is one that equals the members;
* `Store.upsert_mergesTo`: an upsert does to a table what the merge means;
* `Builder.run_mergesTo`: so does the statement that the merge is built to.
-/

namespace FilterSql

namespace Store

variable {t : Table} {keys : MergeKeys} {members : List Member} {u : Upsert}

/-- The cells that are sent for some members, by position. -/
def sent (ms : List Member) (i : Nat) : Cell :=
  (ms.map Member.cell).getD i .null

/-- The cell that is sent for the first column of a kind is that of the first such member. -/
theorem sent_findIdx? (ms : List Member) (p : String → Bool) :
    ((ms.map (·.column.name)).findIdx? p).elim .null (sent ms) =
      ((ms.find? fun m => p m.column.name).map Member.cell).getD .null := by
  induction ms with
  | nil => rfl
  | cons m ms ih =>
    rw [List.map_cons, List.findIdx?_cons, List.find?_cons]
    cases p m.column.name with
    | true => rfl
    | false =>
      rw [← ih]
      cases (ms.map (·.column.name)).findIdx? p <;> rfl

/-- A new row has the value of the first member that is written to a column. -/
theorem newRow_at {ms : List Member} (hbound : u.bound = ms.map (·.column.name)) {i : Nat}
    (hi : i < t.schema.columns.length) :
    (newRow t.schema u (sent ms)).at i =
      ((ms.find? fun m => sameName t.schema.columns[i] m.column.name).map Member.cell).getD
        .null := by
  rw [← sent_findIdx?, ← hbound]
  simp only [Row.at, newRow, List.getD_eq_getElem?_getD, List.getElem?_map, hi,
    List.getElem?_eq_getElem, Option.map_some, Option.getD_some]
  cases u.bound.findIdx? (sameName t.schema.columns[i]) <;> rfl

/-- A new row has the value of a member where one is written. -/
theorem newRow_at_of_mem (h : t.schema.columns.Pairwise fun a b => ¬ sameName a b)
    {ms : List Member} (hbound : u.bound = ms.map (·.column.name)) {m : Member} {i : Nat}
    (hm : m ∈ ms) (hi : t.schema.position? m.column.name = some i)
    (honly : ∀ m' ∈ ms, t.schema.position? m'.column.name = some i → m' = m) :
    (newRow t.schema u (sent ms)).at i = m.cell := by
  have hlt := TableSchema.lt_of_position? hi
  rw [newRow_at hbound hlt]
  cases hfind : ms.find? fun m => sameName t.schema.columns[i] m.column.name with
  | none => exact absurd (TableSchema.sameName_getElem hi hlt) (List.find?_eq_none.1 hfind m hm)
  | some m' =>
    have hsame := List.find?_some hfind
    rw [honly m' (List.mem_of_find?_eq_some hfind) (TableSchema.position?_eq_some h hlt hsame)]
    rfl

/-- A new row is null where no member is written. -/
theorem newRow_at_eq_null (h : t.schema.columns.Pairwise fun a b => ¬ sameName a b)
    {ms : List Member} (hbound : u.bound = ms.map (·.column.name)) {i : Nat}
    (hnone : ∀ m ∈ ms, t.schema.position? m.column.name ≠ some i) :
    (newRow t.schema u (sent ms)).at i = .null := by
  by_cases hlt : i < t.schema.columns.length
  · rw [newRow_at hbound hlt]
    cases hfind : ms.find? fun m => sameName t.schema.columns[i] m.column.name with
    | none => rfl
    | some m =>
      have hsame := List.find?_some hfind
      exact absurd (TableSchema.position?_eq_some h hlt hsame)
        (hnone m (List.mem_of_find?_eq_some hfind))
  · simp [Row.at, newRow, Nat.not_lt.1 hlt]

/-- The row that is inserted, with its key settled, is a new row for the members. -/
theorem exists_settleKey_newRow (hwf : t.WellFormed) (haccepts : t.Accepts keys members)
    (hbound : u.bound = (keys.insertable .onConflict members).map (·.column.name)) :
    ∃ row, t.settleKey (newRow t.schema u (sent (keys.insertable .onConflict members))) = .ok row ∧
      t.IsAdded keys members row := by
  refine Table.exists_settleKey haccepts (by simp [newRow]) ?_ ?_
  · rintro m i ⟨hm, hopen, hi⟩
    refine newRow_at_of_mem hwf.columns hbound (MergeKeys.mem_insertable_iff.2 ⟨hm, hopen⟩) hi ?_
    intro m' hm' hi'
    exact haccepts.eq_of_position? (MergeKeys.mem_insertable_iff.1 hm').1 hm hi' hi
  · intro i hnone
    refine newRow_at_eq_null hwf.columns hbound fun m hm hi => hnone m ?_
    obtain ⟨hm, hopen⟩ := MergeKeys.mem_insertable_iff.1 hm
    exact ⟨hm, hopen, hi⟩

/-- Overwriting keeps the number of columns. -/
theorem length_overwrite (s : TableSchema) (columns : List String) (row values : Row) :
    (overwrite s columns row values).length = row.length := by
  unfold overwrite
  induction columns generalizing row with
  | nil => rfl
  | cons c columns ih =>
    rw [List.foldl_cons, ih]
    cases s.position? c <;> simp

/-- Where no column is overwritten, the row is as before. -/
theorem overwrite_at_of_forall {s : TableSchema} {columns : List String} {row values : Row} {i : Nat}
    (h : ∀ c ∈ columns, s.position? c ≠ some i) :
    (overwrite s columns row values).at i = row.at i := by
  unfold overwrite
  induction columns generalizing row with
  | nil => rfl
  | cons c columns ih =>
    rw [List.foldl_cons, ih fun c' hc' => h c' (List.mem_cons_of_mem c hc')]
    have hc := h c List.mem_cons_self
    cases hposition : s.position? c with
    | none => rfl
    | some j => exact Row.at_set_of_ne (fun hj : j = i => hc (hj ▸ hposition)) _

/-- Where a column is overwritten, the row has the new value. -/
theorem overwrite_at_of_exists {s : TableSchema} {columns : List String} {row values : Row}
    {i : Nat} (h : ∃ c ∈ columns, s.position? c = some i) (hlt : i < row.length) :
    (overwrite s columns row values).at i = values.at i := by
  induction columns generalizing row with
  | nil => simp at h
  | cons first columns ih =>
    by_cases hlater : ∃ c ∈ columns, s.position? c = some i
    · exact ih hlater (hlt.trans_eq (length_overwrite s [first] row values).symm)
    · -- the first column is the last one that is written to the position
      have hfirst : s.position? first = some i := by
        obtain ⟨c, hc, hi⟩ := h
        rcases List.mem_cons.1 hc with rfl | hc
        · exact hi
        · exact absurd ⟨c, hc, hi⟩ hlater
      have hstep : overwrite s (first :: columns) row values =
          overwrite s columns (row.set i (values.at i)) values := by
        rw [overwrite, List.foldl_cons, hfirst]
        rfl
      rw [hstep, overwrite_at_of_forall fun c hc hi => hlater ⟨c, hc, hi⟩, Row.at_set_self hlt]

/-- A row that is overwritten in the updated columns is one that the members are written over. -/
theorem isMerged_overwrite (table : TableName) {old row : Row}
    (hold : old.length = t.schema.columns.length) (hrow : t.IsAdded keys members row) :
    t.IsMerged keys members old
      (overwrite t.schema (keys.plan .onConflict table members).1.updated old row) := by
  refine ⟨length_overwrite _ _ _ _, ?_, ?_⟩
  · rintro m i ⟨hm, hover, hi⟩
    have hupdated : m.column.name ∈ (keys.plan .onConflict table members).1.updated :=
      MergeKeys.mem_updated_iff.2 ⟨m, hm, hover, rfl⟩
    rw [overwrite_at_of_exists ⟨_, hupdated, hi⟩ (hold ▸ TableSchema.lt_of_position? hi)]
    exact hrow.given m i ⟨hm, hover.not_leavesOut, hi⟩
  · intro i hnone
    refine overwrite_at_of_forall fun c hc hi => ?_
    obtain ⟨m, hm, hover, rfl⟩ := MergeKeys.mem_updated_iff.1 hc
    exact hnone m ⟨hm, hover, hi⟩

/-- What an upsert is checked against is there when the table accepts the merge. -/
theorem exists_checkUpsert (table : TableName) (haccepts : t.Accepts keys members) :
    ∃ conflict, checkUpsert t.schema (keys.plan .onConflict table members).1 = .ok conflict := by
  have hexist : (keys.plan .onConflict table members).1.inserted.find?
      (fun c => (t.schema.position? c).isNone) = none := by
    refine List.find?_eq_none.2 fun c hc => ?_
    obtain ⟨m, hm, rfl⟩ := List.mem_map.1 hc
    obtain ⟨hm, hopen⟩ := MergeKeys.mem_insertable_iff.1 hm
    simpa using Option.isSome_iff_ne_none.1 (haccepts.exist m hm hopen)
  -- with all columns there, it is left to find a unique set that the qualifiers name
  obtain ⟨named, hnamed, hperm⟩ := haccepts.matchSet
  obtain ⟨set, hset⟩ :=
    Option.isSome_iff_exists.1 (TableSchema.isSome_conflictSet? hnamed hperm)
  change t.schema.conflictSet? (keys.plan .onConflict table members).1.qualifiers = some set at hset
  unfold checkUpsert
  rw [hexist]
  dsimp only
  split_ifs
  · exact ⟨_, rfl⟩
  · exact ⟨some set, by rw [hset]⟩

section Accepted

/-! The table is well-formed and accepts the merge, which is checked against it; there is a column
that rows are matched on, and every such column is written by some member. -/

variable {table : TableName} {conflict : Option (List Nat)} (hwf : t.WellFormed)
  (haccepts : t.Accepts keys members) (hnonempty : keys.qualifiers ≠ [])
  (hcarried : ∀ q ∈ keys.qualifiers, q ∈ members.map (·.column.name))
  (hconflict : checkUpsert t.schema (keys.plan .onConflict table members).1 = .ok conflict)
include hwf haccepts hnonempty hcarried hconflict

/-- A stored row equals the members exactly if it agrees with the new row in the unique set that an
upsert names. One that names none leaves out all members, which no row equals. -/
theorem matches_iff_of_checkUpsert {row r : Row} (hadded : t.IsAdded keys members row)
    (hr : r ∈ t.rows) :
    t.Matches keys members r ↔ ∃ set, conflict = some set ∧ Row.agreeOn set r row = true := by
  unfold checkUpsert at hconflict
  split at hconflict
  · cases hconflict
  split_ifs at hconflict with hempty
  · obtain rfl := Except.ok.inj hconflict
    simp only [reduceCtorEq, false_and, exists_false, iff_false]
    intro hmatches
    -- no member is inserted, so there is a null in a column that rows are matched on
    obtain ⟨q, hq⟩ := List.exists_mem_of_ne_nil _ hnonempty
    obtain ⟨m, hm, rfl⟩ := List.mem_map.1 (hcarried q hq)
    have hleft : keys.LeavesOut m := by
      by_contra hopen
      have hinserted := List.mem_map_of_mem (f := fun m : Member => m.column.name)
        (MergeKeys.mem_insertable_iff.2 ⟨hm, hopen⟩)
      exact List.ne_nil_of_mem hinserted (List.isEmpty_iff.1 hempty)
    exact Table.not_matches_of_isNull haccepts hm hq hleft.2 r hmatches
  · split at hconflict
    · next set hset =>
      obtain rfl := Except.ok.inj hconflict
      obtain ⟨-, hmatch⟩ := TableSchema.perm_of_conflictSet? hwf.sets hset
      rw [← hadded.agreeOn_iff hwf haccepts hcarried hmatch hr]
      simp
    · cases hconflict

/-- An upsert does to a table what the merge means. -/
theorem upsert_mergesTo :
    ∃ t' rows, upsert t (keys.plan .onConflict table members).1 conflict
        (sent (keys.insertable .onConflict members)) = .ok (t', rows) ∧
      t.MergesTo keys members t' := by
  obtain ⟨row, hrow, hadded⟩ :=
    exists_settleKey_newRow (u := (keys.plan .onConflict table members).1) hwf haccepts rfl
  have hfound {r : Row} (hr : r ∈ t.rows) :=
    matches_iff_of_checkUpsert hwf haccepts hnonempty hcarried hconflict hadded hr
  unfold upsert
  simp only [hrow, bind, Except.bind]
  split
  · next hindex =>
    -- no stored row equals the members, so the new row is inserted
    have hnone : ∀ r ∈ t.rows, ¬ t.Matches keys members r := by
      rintro r hr hmatches
      obtain ⟨set, rfl, hagree⟩ := (hfound hr).1 hmatches
      exact Bool.false_ne_true ((List.findIdx?_eq_none_iff.1 hindex r hr).symm.trans hagree)
    obtain ⟨t', ht', hschema, hrows⟩ := t.insert_eq_ok (hadded.admits hwf haccepts hcarried hnone)
    rw [ht']
    refine ⟨t', _, rfl, hschema, ?_, fun _ => ⟨row, hadded, hrows⟩⟩
    rintro ⟨r, hr, hmatches⟩
    exact absurd hmatches (hnone r hr)
  · next i hindex =>
    -- the first row that equals the members is written over
    obtain ⟨set, hset, hindex⟩ := Option.bind_eq_some_iff.1 hindex
    obtain ⟨hi, hagree, -⟩ := List.findIdx?_eq_some_iff_getElem.1 hindex
    have hmatches := (hfound (List.getElem_mem hi)).2 ⟨set, hset, hagree⟩
    have hmerged := isMerged_overwrite table (hwf.width _ (List.getElem_mem hi)) hadded
    have hold : t.rows.getD i [] = t.rows[i] := by simp [hi]
    have hadds {t' : Table} (hnone : ∀ r ∈ t.rows, ¬ t.Matches keys members r) :
        ∃ row, t.IsAdded keys members row ∧ t'.rows.Perm (row :: t.rows) :=
      absurd hmatches (hnone _ (List.getElem_mem hi))
    split_ifs with hempty
    · rw [List.isEmpty_iff.1 hempty] at hmerged
      refine ⟨t, _, rfl, rfl, fun _ => ⟨i, hi, _, hmatches, hmerged, ?_⟩, hadds⟩
      exact .of_eq (List.set_getElem_self hi).symm
    · obtain ⟨t', ht', hschema, hrows⟩ := t.replace_eq_ok hi
        (hmerged.admits hwf haccepts hcarried hi hmatches)
      rw [hold, ht']
      exact ⟨t', _, rfl, hschema, fun _ => ⟨i, hi, _, hmatches, hmerged, hrows⟩, hadds⟩

end Accepted

/-- A statement of which some command is read: this command is checked. -/
theorem prepare_of_visible {st : Statement} {extent : Extent} {c : Command}
    (hextent : st.extent? = some extent) (hvisible : visible? st extent = some c) (db : Database) :
    prepare db st = (check db st.dialect c).map fun execute =>
      { placeholders := st.placeholders extent, execute } := by
  rw [prepare, hextent]
  simp only [hvisible]

/-- A statement that is read as a whole is prepared by checking its command. -/
theorem prepare_of_whole {st : Statement} (hextent : st.extent? = some .whole) (db : Database) :
    prepare db st = (check db st.dialect st.command).map fun execute =>
      { placeholders := st.placeholders .whole, execute } := by
  exact prepare_of_visible hextent rfl db

/-- A statement that is read as a whole is checked, its parameters are sent, and it is executed. -/
theorem run_eq_ok_iff {st : Statement} (hextent : st.extent? = some .whole) {db db' : Database}
    {cells : List Cell} (hcells : st.cells (st.placeholders .whole) = .ok cells)
    {rows : List Record} :
    run db st = .ok (db', rows) ↔ ∃ execute, check db st.dialect st.command = .ok execute ∧
      execute (fun i => cells.getD i .null) = .ok (db', rows) := by
  rw [run, runBy, prepare_of_whole hextent]
  cases check db st.dialect st.command with
  | error fault =>
    constructor
    · intro h
      cases h
    · rintro ⟨execute, hcheck, -⟩
      cases hcheck
  | ok execute =>
    show (st.cells (st.placeholders .whole) >>= fun cells =>
      (execute fun i => cells.getD i .null).mapError .engine) = _ ↔ _
    rw [hcells]
    exact mapError_eq_ok_iff.trans ⟨fun h => ⟨execute, rfl, h⟩, fun ⟨_, hsame, h⟩ =>
      Except.ok.inj hsame ▸ h⟩

/-- An upsert in the language of the database runs when it is checked, sent and executed. -/
theorem run_upsert {db : Database} {st : Statement} {conflict : Option (List Nat)}
    {cells : List Cell} {t' : Table} {rows : List Record} (hdialect : st.dialect = .sqlite)
    (hhint : st.hint = none) (hcommand : st.command = .upsert u)
    (ht : db.table? u.table.schema u.table.name = some t)
    (hconflict : checkUpsert t.schema u = .ok conflict)
    (hcells : st.cells (st.placeholders .whole) = .ok cells)
    (hupsert : upsert t u conflict (fun i => cells.getD i .null) = .ok (t', rows)) :
    run db st = .ok (db.update t', rows) := by
  refine (run_eq_ok_iff (Statement.extent?_of_hint_eq_none hhint) hcells).2
    ⟨fun argument => (upsert t u conflict argument).map fun out => (db.update out.1, out.2), ?_, ?_⟩
  · have hunderstands : understands .sqlite (.upsert u) = true := rfl
    simp only [check, hcommand, hdialect, hunderstands, target, ht, hconflict, Bool.not_true,
      Bool.false_eq_true, if_false, bind, Except.bind, pure, Except.pure]
  · dsimp only
    rw [hupsert]
    rfl

/-- An upsert that ran was checked against its table and executed, and changed this table alone. -/
theorem run_upsert_cases {db db' : Database} {st : Statement} {cells : List Cell}
    {rows : List Record} (hhint : st.hint = none) (hcommand : st.command = .upsert u)
    (ht : db.table? u.table.schema u.table.name = some t)
    (hcells : st.cells (st.placeholders .whole) = .ok cells) (h : run db st = .ok (db', rows)) :
    ∃ conflict t', checkUpsert t.schema u = .ok conflict ∧
      upsert t u conflict (fun i => cells.getD i .null) = .ok (t', rows) ∧ db' = db.update t' := by
  obtain ⟨execute, hcheck, h⟩ := (run_eq_ok_iff (Statement.extent?_of_hint_eq_none hhint) hcells).1 h
  rw [hcommand] at hcheck
  unfold check at hcheck
  dsimp only at hcheck
  -- the upsert is in the language of the database
  split at hcheck
  · cases hcheck
  simp only [target, ht] at hcheck
  obtain ⟨_, htarget, hcheck⟩ := bind_eq_ok_iff.1 hcheck
  obtain rfl := Except.ok.inj htarget
  obtain ⟨conflict, hconflict, hcheck⟩ := bind_eq_ok_iff.1 hcheck
  obtain rfl := Except.ok.inj hcheck
  obtain ⟨⟨t', rows'⟩, hupsert, hresult⟩ := map_eq_ok_iff.1 h
  obtain ⟨rfl, rfl⟩ := Prod.mk.inj hresult
  exact ⟨conflict, t', hconflict, hupsert, rfl⟩

end Store

namespace Builder

variable {b : Builder} {r : Request} {spec : MergeSpec} {types types' : TypeChain}
  {st : Statement} {db : Database} {t : Table}

/-- The parameters of a merge for SQLite are sent as the cells of the members that are inserted. -/
theorem cells_run_merge (hd : b.dialect = .sqlite) (hop : r.operation = .merge spec)
    (h : b.run r types = (.ok st, types')) :
    st.cells (st.placeholders .whole) = .ok (((spec.keys (b.scope r.entity)).insertable .onConflict
      (spec.located (b.scope r.entity) types)).map Member.cell) := by
  obtain ⟨u, -, hplanned⟩ := run_merge h hop
  obtain ⟨-, -, -, -, hplan⟩ := MergeSpec.plan_eq_ok hplanned
  rw [hd] at hplan
  have hparameters : st.parameters = Parameter.ofMembers
      ((spec.keys (b.scope r.entity)).insertable .onConflict
        (spec.located (b.scope r.entity) types)) := (congrArg Prod.snd hplan).symm
  rw [cells_run h, hparameters, Parameter.map_ofMembers]
  rfl

/-- The statement that a merge is built to for SQLite does to a table what the merge means. The table
is well-formed, and the merge can violate no constraint of it but that on the columns that rows are
matched on; then the statement runs, and changes this table alone. -/
theorem run_mergesTo (hd : b.dialect = .sqlite) (hop : r.operation = .merge spec)
    (h : b.run r types = (.ok st, types'))
    (ht : db.table? r.entity.table.schema r.entity.table.name = some t) (hwf : t.WellFormed)
    (haccepts : t.Accepts (spec.keys (b.scope r.entity)) (spec.located (b.scope r.entity) types)) :
    ∃ t' rows, Store.run db st = .ok (db.update t', rows) ∧
      t.MergesTo (spec.keys (b.scope r.entity)) (spec.located (b.scope r.entity) types) t' := by
  have hcells := cells_run_merge hd hop h
  obtain ⟨u, hcommand, hplanned⟩ := run_merge h hop
  obtain ⟨-, hnonempty, hcarried, -, hplan⟩ := MergeSpec.plan_eq_ok hplanned
  rw [← spec.map_column_located (b.scope r.entity) types] at hcarried
  rw [hd] at hplan
  obtain rfl := (congrArg Prod.fst hplan).symm
  have hhint : st.hint = none := hint_run_merge h hop (by rw [hd]; rfl)
  obtain ⟨conflict, hconflict⟩ := Store.exists_checkUpsert r.entity.table haccepts
  obtain ⟨t', rows, hupsert, hmerges⟩ :=
    Store.upsert_mergesTo hwf haccepts hnonempty hcarried hconflict
  exact ⟨t', rows, Store.run_upsert ((run_eq_ok h).1.trans hd) hhint hcommand ht hconflict hcells
    hupsert, hmerges⟩

/-- A merge that matches accounts by their unique address gives the second one another name. -/
theorem run_mergesTo_account :
    let e : Entity :=
      { name := "Account", table := { name := "account" }
        properties := [{ name := "Id", kind := .int, primary := true, identity := true },
          { name := "Email", kind := .text }, { name := "Name", kind := .text }] }
    let t : Table :=
      { schema := { name := "account", columns := ["Id", "Email", "Name"], auto := some "Id"
                    unique := ["Email"] }
        rows := [[.integer 1, .text "a", .text "A"], [.integer 2, .text "b", .text "B"]] }
    let spec : MergeSpec :=
      { record := ⟨[("Id", .null), ("Email", .text "b"), ("Name", .text "N")]⟩
        qualifiers := [{ name := "Email" }] }
    let r : Request := { entity := e, operation := .merge spec }
    ∃ st types' t' rows, run { dialect := .sqlite } r {} = (.ok st, types') ∧
      Store.run [t] st = .ok (Database.update [t] t', rows) ∧ t'.rows.length = 2 ∧
      ∃ row ∈ t'.rows, row.at 2 = .text "N" := by
  intro e t spec r
  let keys : MergeKeys :=
    { qualifiers := ["Email"], result := some "Id", identity := some "Id" }
  let members : List Member :=
    [{ column := ⟨"Id", none⟩, value := .null }, { column := ⟨"Email", none⟩, value := .text "b" },
      { column := ⟨"Name", none⟩, value := .text "N" }]
  have hkeys : spec.keys (scope { dialect := .sqlite } e) = keys := by rfl
  have hmembers : spec.located (scope { dialect := .sqlite } e) {} = members := by rfl
  have ht : Database.table? [t] none "account" = some t := by simp [Database.table?, sameName, t]
  obtain ⟨st, types', hrun⟩ : ∃ st types', run { dialect := .sqlite } r {} = (.ok st, types') :=
    ⟨_, _, rfl⟩
  have hauto : t.schema.autoPosition? = some 0 := by decide
  have hsets : t.schema.uniqueSets = [[0], [1]] := by decide
  have hmatch : t.IsMatchSet keys [1] := by
    rw [Table.IsMatchSet]
    decide
  have hwf : t.WellFormed :=
    { columns := by decide
      sets := by decide
      width := by decide
      auto := by simp [hauto, t, Row.at]
      unique := by
        rw [hsets]
        decide }
  -- the key is left out, so it is the next one in a new row, and kept in an old one
  have hkey : ∀ m ∈ members, t.schema.position? m.column.name = some 0 →
      keys.LeavesOut m ∧ ¬ keys.Overwrites m := by
    decide
  have hnone : ∀ m, ¬ t.Supplies keys members m 0 := by
    rintro m ⟨hm, hopen, hi⟩
    exact hopen (hkey m hm hi).1
  have hmatches : t.Matches keys members [.integer 2, .text "b", .text "B"] := by
    intro m hm hq i hi
    have hsame : ∀ m ∈ members, m.column.name ∈ keys.qualifiers →
        t.schema.position? m.column.name = some 1 ∧ m.cell = .text "b" := by
      decide
    obtain ⟨hposition, hcell⟩ := hsame m hm hq
    obtain rfl : 1 = i := Option.some.inj (hposition.symm.trans hi)
    rw [hcell]
    decide
  have haccepts : t.Accepts keys members :=
    { distinct := by decide
      exist := fun m hm _ =>
        (by decide : ∀ m ∈ members, (t.schema.position? m.column.name).isSome) m hm
      matchSet := ⟨[1], by simp [hsets], hmatch⟩
      key := by
        intro m i hm hi
        rw [hauto, Option.some.injEq] at hi
        exact absurd (hi ▸ hm) (hnone m)
      nextKey := by
        intro i hi _
        rw [hauto, Option.some.injEq] at hi
        exact ⟨3, by subst hi; rfl⟩
      added := fun hnone => absurd hmatches (hnone _ (by simp [t]))
      merged := by
        intro set hset hother i j hi hj hne _ row hrow
        have hzero : set = [0] ∨ set = [1] := by simpa [hsets] using hset
        obtain rfl := hzero.resolve_right fun h => hother (h ▸ hmatch)
        have hkept : ∀ k ∈ [0], ∀ m, ¬ t.Replaces keys members m k := by
          rintro k hk m ⟨hm, hover, hposition⟩
          obtain rfl := List.mem_singleton.1 hk
          exact (hkey m hm hposition).2 hover
        exact hrow.not_agreeOn hwf hset hkept hi hj hne.symm }
  obtain ⟨t', rows, hstore, hmerges⟩ :=
    run_mergesTo rfl rfl hrun ht hwf (hkeys ▸ hmembers ▸ haccepts)
  rw [hkeys, hmembers] at hmerges
  obtain ⟨i, hi, row, -, hmerged, hrows⟩ := hmerges.found ⟨_, by simp [t], hmatches⟩
  refine ⟨st, types', t', rows, hrun, hstore, by simpa [t] using hrows.length_eq, row, ?_, ?_⟩
  · exact hrows.mem_iff.2 (List.mem_set hi row)
  · exact hmerged.written { column := ⟨"Name", none⟩, value := .text "N" } 2
      ⟨by simp [members], by decide, by decide⟩

end Builder

end FilterSql
