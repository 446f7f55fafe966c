import FilterSql.Proofs.Sending
import FilterSql.Proofs.Tables

/-!
# What a merge means for the rows of a table

A merge means one of two things. If a row of the table equals the record in the columns that rows are
matched on, this row gets the record's values, but for those columns, the identity, and a result
column for which the record has only null. Otherwise there is one more row with the record's values,
and the database gives it a key where the record has none.

## Main definitions

* `MergeKeys.LeavesOut`, `MergeKeys.Overwrites`: what becomes of a member in a new row, and in an
  existing one;
* `Table.Matches`: a row equals the members in the columns that rows are matched on;
* `Table.IsMerged`, `Table.IsAdded`: a row that members are written over, and a new row for them;
* `Table.Accepts`: a table on which a merge can violate no constraint but that on the matched columns;
* `Table.MergesTo`: what a merge means for a table.

## Main results

* `MergeKeys.mem_insertable_iff`, `MergeKeys.mem_updated_iff`: what is inserted and updated;
* `Table.exists_settleKey`: with its key settled, a row with the members' values is a new row for
  them;
* `Table.IsAdded.agreeOn_iff`: a stored row clashes with a new one where it equals the members;
* `Table.IsAdded.admits`, `Table.IsMerged.admits`: the table admits the rows of a merge.
-/

namespace FilterSql

namespace MergeKeys

variable (keys : MergeKeys)

/-- A new row leaves a member to the database: a null in the identity or the result column. -/
def LeavesOut (m : Member) : Prop :=
  (keys.identity = some m.column.name ∨ keys.result = some m.column.name) ∧ m.value.isNull = true

/-- An existing row gets the value of a member: one that is in no column that rows are matched on,
not in the identity column, and no null in the result column. -/
def Overwrites (m : Member) : Prop :=
  m.column.name ∉ keys.qualifiers ∧ keys.identity ≠ some m.column.name ∧
    ¬ (keys.result = some m.column.name ∧ m.value.isNull = true)

instance (m : Member) : Decidable (keys.LeavesOut m) :=
  inferInstanceAs (Decidable (_ ∧ _))

instance (m : Member) : Decidable (keys.Overwrites m) :=
  inferInstanceAs (Decidable (_ ∧ _))

/-- A member that is written over an existing row is also written into a new one. -/
theorem Overwrites.not_leavesOut {keys : MergeKeys} {m : Member} (h : keys.Overwrites m) :
    ¬ keys.LeavesOut m := by
  rintro ⟨hidentity | hresult, hnull⟩
  · exact h.2.1 hidentity
  · exact h.2.2 ⟨hresult, hnull⟩

variable {keys : MergeKeys} {members : List Member}

/-- What is inserted outside of a `MERGE`: the members that a new row does not leave out. -/
theorem mem_insertable_iff {m : Member} :
    m ∈ keys.insertable .onConflict members ↔ m ∈ members ∧ ¬ keys.LeavesOut m := by
  refine List.mem_filter.trans (and_congr_right fun _ => ?_)
  simp only [isGenerated, LeavesOut, reduceCtorEq, decide_false, Bool.false_and, Bool.false_or,
    Bool.not_eq_true', Bool.eq_false_iff, ne_eq, Bool.and_eq_true, Bool.or_eq_true,
    decide_eq_true_eq]

/-- What is updated outside of a `MERGE`: the columns of the members that overwrite. -/
theorem mem_updated_iff {table : TableName} {c : String} :
    c ∈ (keys.plan .onConflict table members).1.updated ↔
      ∃ m ∈ members, keys.Overwrites m ∧ m.column.name = c := by
  have hplan : (keys.plan .onConflict table members).1.updated = (keys.updatable members).filter
      ((keys.insertable .onConflict members).map (·.column.name)).contains := rfl
  rw [hplan, List.mem_filter, List.contains_eq_mem, decide_eq_true_eq, List.mem_map]
  simp only [mem_insertable_iff, updatable, List.mem_filter, List.mem_map, Bool.and_eq_true,
    Bool.not_eq_true', List.contains_eq_mem, decide_eq_false_iff_not]
  constructor
  · rintro ⟨⟨-, hmatch, hidentity⟩, m, ⟨hm, hopen⟩, rfl⟩
    exact ⟨m, hm, ⟨hmatch, hidentity, fun h => hopen ⟨.inr h.1, h.2⟩⟩, rfl⟩
  · rintro ⟨m, hm, hover, rfl⟩
    exact ⟨⟨⟨m, hm, rfl⟩, hover.1, hover.2.1⟩, m, ⟨hm, hover.not_leavesOut⟩, rfl⟩

end MergeKeys

namespace Table

variable (t : Table) (keys : MergeKeys) (members : List Member)

/-- A member gives a new row its value at a position. -/
def Supplies (m : Member) (i : Nat) : Prop :=
  m ∈ members ∧ ¬ keys.LeavesOut m ∧ t.schema.position? m.column.name = some i

/-- A member gives an existing row its value at a position. -/
def Replaces (m : Member) (i : Nat) : Prop :=
  m ∈ members ∧ keys.Overwrites m ∧ t.schema.position? m.column.name = some i

/-- A row equals the members in the columns that rows are matched on. A null equals nothing. -/
def Matches (row : Row) : Prop :=
  ∀ m ∈ members, m.column.name ∈ keys.qualifiers →
    ∀ i, t.schema.position? m.column.name = some i → (row.at i).same m.cell = true

/-- A row that the members are written over. -/
structure IsMerged (old row : Row) : Prop where
  width : row.length = old.length
  /-- The row has the values of the members that overwrite. -/
  written : ∀ m i, t.Replaces keys members m i → row.at i = m.cell
  /-- In all other columns it is as before. -/
  kept : ∀ i, (∀ m, ¬ t.Replaces keys members m i) → row.at i = old.at i

/-- A new row for the members. -/
structure IsAdded (row : Row) : Prop where
  width : row.length = t.schema.columns.length
  /-- The row has the values of the members that are not left out. -/
  given : ∀ m i, t.Supplies keys members m i → row.at i = m.cell
  /-- Where no member gives the generated key, it is one that no row has. -/
  key : ∀ i, t.schema.autoPosition? = some i → (∀ m, ¬ t.Supplies keys members m i) →
    ∃ n, row.at i = .integer n ∧ ∀ r ∈ t.rows, r.at i ≠ .integer n
  /-- All other columns are null. -/
  blank : ∀ i, t.schema.autoPosition? ≠ some i → (∀ m, ¬ t.Supplies keys members m i) →
    row.at i = .null

/-- A unique set of just the columns that rows are matched on. -/
def IsMatchSet (set : List Nat) : Prop :=
  (set.map some).Perm (keys.qualifiers.map t.schema.position?)

/-- A table on which a merge can violate no constraint but that on the columns that rows are matched
on. -/
structure Accepts : Prop where
  /-- The members are written to columns with distinct names. -/
  distinct : members.Pairwise fun m m' => ¬ sameName m.column.name m'.column.name
  /-- The columns of a new row exist. -/
  exist : ∀ m ∈ members, ¬ keys.LeavesOut m → (t.schema.position? m.column.name).isSome
  /-- A unique set has just the columns that rows are matched on. -/
  matchSet : ∃ set ∈ t.schema.uniqueSets, t.IsMatchSet keys set
  /-- The generated key stores what is given for it, an integer. -/
  key : ∀ m i, t.Supplies keys members m i → t.schema.autoPosition? = some i →
    ∃ n, m.cell = .integer n
  /-- There is a next key where none is given. -/
  nextKey : ∀ i, t.schema.autoPosition? = some i → (∀ m, ¬ t.Supplies keys members m i) →
    ∃ n, t.nextKey i = .ok n
  /-- If no stored row equals the members, a new row agrees with none in another unique set. -/
  added : (∀ r ∈ t.rows, ¬ t.Matches keys members r) →
    ∀ set ∈ t.schema.uniqueSets, ¬ t.IsMatchSet keys set →
      ∀ row, t.IsAdded keys members row → ∀ r ∈ t.rows, ¬ Row.agreeOn set r row
  /-- A row that is written over agrees with no other one in another unique set. -/
  merged : ∀ set ∈ t.schema.uniqueSets, ¬ t.IsMatchSet keys set →
    ∀ i j (hi : i < t.rows.length) (hj : j < t.rows.length), i ≠ j →
      t.Matches keys members t.rows[i] →
      ∀ row, t.IsMerged keys members t.rows[i] row → ¬ Row.agreeOn set t.rows[j] row

/-- What a merge means for a table: one row is written over that equals the members in the columns
that rows are matched on, and if there is none, there is one more row. -/
structure MergesTo (t' : Table) : Prop where
  schema : t'.schema = t.schema
  found : (∃ r ∈ t.rows, t.Matches keys members r) →
    ∃ i, ∃ hi : i < t.rows.length, ∃ row, t.Matches keys members t.rows[i] ∧
      t.IsMerged keys members t.rows[i] row ∧ t'.rows.Perm (t.rows.set i row)
  added : (∀ r ∈ t.rows, ¬ t.Matches keys members r) →
    ∃ row, t.IsAdded keys members row ∧ t'.rows.Perm (row :: t.rows)

variable {t keys members}

/-- The generated key has a position of the table. -/
theorem lt_of_autoPosition? {i : Nat} (h : t.schema.autoPosition? = some i) :
    i < t.schema.columns.length := by
  obtain ⟨c, -, hc⟩ := Option.bind_eq_some_iff.1 h
  exact TableSchema.lt_of_position? hc

/-- At most one member is written to a position. -/
theorem Accepts.eq_of_position? (h : t.Accepts keys members) {m m' : Member} {i : Nat}
    (hm : m ∈ members) (hm' : m' ∈ members) (hi : t.schema.position? m.column.name = some i)
    (hi' : t.schema.position? m'.column.name = some i) : m = m' := by
  by_contra hne
  have hsymm : Std.Symm fun m m' : Member => ¬ sameName m.column.name m'.column.name := by
    refine ⟨fun a b hab hba => ?_⟩
    rw [sameName_iff] at hab hba
    exact hab hba.symm
  exact h.distinct.forall hm hm' hne (TableSchema.sameName_of_position? hi hi')

/-- The columns that rows are matched on are those of a match set. -/
theorem IsMatchSet.mem_iff {set : List Nat} (h : t.IsMatchSet keys set) {i : Nat} :
    i ∈ set ↔ ∃ q ∈ keys.qualifiers, t.schema.position? q = some i := by
  have hmem : i ∈ set ↔ some i ∈ set.map some := by simp
  rw [hmem, List.Perm.mem_iff h, List.mem_map]

/-- The columns that rows are matched on exist. -/
theorem IsMatchSet.exists_position? {set : List Nat} (h : t.IsMatchSet keys set) {q : String}
    (hq : q ∈ keys.qualifiers) : ∃ i, t.schema.position? q = some i := by
  obtain ⟨i, -, hi⟩ := List.mem_map.1 (h.symm.subset (List.mem_map_of_mem hq))
  exact ⟨i, hi.symm⟩

/-- No row equals a null in a column that rows are matched on. -/
theorem not_matches_of_isNull (haccepts : t.Accepts keys members) {m : Member} (hm : m ∈ members)
    (hq : m.column.name ∈ keys.qualifiers) (hnull : m.value.isNull = true) (row : Row) :
    ¬ t.Matches keys members row := by
  intro hmatches
  obtain ⟨set, -, hset⟩ := haccepts.matchSet
  obtain ⟨i, hi⟩ := hset.exists_position? hq
  have hsame := hmatches m hm hq i hi
  rw [Member.cell, Value.sent_of_isNull hnull, Cell.same_null] at hsame
  cases hsame

/-- A generated key is the same as no stored one. -/
theorem IsAdded.same_at_auto (hwf : t.WellFormed) {row r : Row} (h : t.IsAdded keys members row)
    (hr : r ∈ t.rows) {i : Nat} (hauto : t.schema.autoPosition? = some i)
    (hnone : ∀ m, ¬ t.Supplies keys members m i) : (r.at i).same (row.at i) = false := by
  obtain ⟨n, hn, hnew⟩ := h.key i hauto hnone
  obtain ⟨n', hn'⟩ := hwf.auto i hauto r hr
  rw [hn, hn', Bool.eq_false_iff, ne_eq, Cell.same_integer_iff]
  rintro rfl
  exact hnew r hr hn'

/-- A stored row is the same as a new row at the position of a member exactly if it is the same as
the member. -/
theorem IsAdded.same_at (hwf : t.WellFormed) (haccepts : t.Accepts keys members) {row r : Row}
    (h : t.IsAdded keys members row) (hr : r ∈ t.rows) {m : Member} {i : Nat} (hm : m ∈ members)
    (hi : t.schema.position? m.column.name = some i) :
    (r.at i).same (row.at i) = (r.at i).same m.cell := by
  by_cases hleft : keys.LeavesOut m
  · -- a member that is left out is null, which no row equals, and neither the generated key nor the
    -- null that the new row has instead is the same as a stored value
    have hnone : ∀ m', ¬ t.Supplies keys members m' i := by
      rintro m' ⟨hm', hopen, hi'⟩
      exact hopen (haccepts.eq_of_position? hm hm' hi hi' ▸ hleft)
    rw [Member.cell, Value.sent_of_isNull hleft.2, Cell.same_null]
    by_cases hauto : t.schema.autoPosition? = some i
    · rw [h.same_at_auto hwf hr hauto hnone]
    · rw [h.blank i hauto hnone, Cell.same_null]
  · rw [h.given m i ⟨hm, hleft, hi⟩]

/-- A row that is written over agrees with no other one in a unique set whose columns are kept. -/
theorem IsMerged.not_agreeOn (hwf : t.WellFormed) {set : List Nat} (hset : set ∈ t.schema.uniqueSets)
    (hkept : ∀ k ∈ set, ∀ m, ¬ t.Replaces keys members m k) {i j : Nat} (hi : i < t.rows.length)
    (hj : j < t.rows.length) (hne : j ≠ i) {row : Row}
    (h : t.IsMerged keys members t.rows[i] row) : ¬ Row.agreeOn set t.rows[j] row := by
  intro hagree
  refine hwf.not_agreeOn hset hj hi hne (Row.agreeOn_iff.2 fun k hk => ?_)
  rw [← h.kept k (hkept k hk)]
  exact Row.agreeOn_iff.1 hagree k hk

/-- The columns that rows are matched on are kept. -/
theorem IsMatchSet.not_replaces (haccepts : t.Accepts keys members)
    (hcarried : ∀ q ∈ keys.qualifiers, q ∈ members.map (·.column.name)) {set : List Nat}
    (h : t.IsMatchSet keys set) : ∀ i ∈ set, ∀ m, ¬ t.Replaces keys members m i := by
  rintro i hi m' ⟨hm', hover, hi'⟩
  obtain ⟨q, hq, hq'⟩ := h.mem_iff.1 hi
  obtain ⟨m, hm, rfl⟩ := List.mem_map.1 (hcarried q hq)
  exact hover.1 (haccepts.eq_of_position? hm hm' hq' hi' ▸ hq)

section Admission

/-! The table is well-formed and accepts the merge, and every column that rows are matched on is
written by some member. -/

variable (hwf : t.WellFormed) (haccepts : t.Accepts keys members)
  (hcarried : ∀ q ∈ keys.qualifiers, q ∈ members.map (·.column.name))
include hwf haccepts hcarried

/-- A stored row agrees with a new one in the columns that rows are matched on exactly if it equals
the members there. -/
theorem IsAdded.agreeOn_iff {set : List Nat} (hset : t.IsMatchSet keys set) {row r : Row}
    (h : t.IsAdded keys members row) (hr : r ∈ t.rows) :
    Row.agreeOn set r row = true ↔ t.Matches keys members r := by
  rw [Row.agreeOn_iff]
  constructor
  · intro hagree m hm hq i hi
    rw [← h.same_at hwf haccepts hr hm hi]
    exact hagree i (hset.mem_iff.2 ⟨_, hq, hi⟩)
  · intro hmatches i hset'
    obtain ⟨q, hq, hi⟩ := hset.mem_iff.1 hset'
    obtain ⟨m, hm, rfl⟩ := List.mem_map.1 (hcarried q hq)
    rw [h.same_at hwf haccepts hr hm hi]
    exact hmatches m hm hq i hi

/-- A new row is admitted when no stored row equals the members. -/
theorem IsAdded.admits {row : Row} (h : t.IsAdded keys members row)
    (hnone : ∀ r ∈ t.rows, ¬ t.Matches keys members r) :
    t.admits t.rows row = true := by
  simp only [Table.admits, List.all_eq_true, Bool.not_eq_true', List.any_eq_false]
  intro set hset r hr
  -- the match set is that of the merge itself; the other ones are not violated by assumption
  by_cases hmatch : t.IsMatchSet keys set
  · rw [h.agreeOn_iff hwf haccepts hcarried hmatch hr]
    exact hnone r hr
  · exact haccepts.added hnone set hset hmatch row h r hr

/-- A row that is written over is admitted by the others. -/
theorem IsMerged.admits {row : Row} {i : Nat} (hi : i < t.rows.length)
    (hmatches : t.Matches keys members t.rows[i])
    (h : t.IsMerged keys members t.rows[i] row) :
    t.admits (t.rows.eraseIdx i) row = true := by
  simp only [Table.admits, List.all_eq_true, Bool.not_eq_true', List.any_eq_false]
  intro set hset r hr
  obtain ⟨j, hj, hne, rfl⟩ := List.mem_eraseIdx_iff_getElem.1 hr
  by_cases hmatch : t.IsMatchSet keys set
  · exact h.not_agreeOn hwf hset (hmatch.not_replaces haccepts hcarried) hi hj hne
  · exact haccepts.merged set hset hmatch i j hi hj hne.symm hmatches row h

end Admission

/-- A row with the values of the members that are not left out, and null elsewhere, becomes a new row
for them when its key is settled. -/
theorem exists_settleKey (haccepts : t.Accepts keys members) {new : Row}
    (hwidth : new.length = t.schema.columns.length)
    (hgiven : ∀ m i, t.Supplies keys members m i → new.at i = m.cell)
    (hblank : ∀ i, (∀ m, ¬ t.Supplies keys members m i) → new.at i = .null) :
    ∃ row, t.settleKey new = .ok row ∧ t.IsAdded keys members row := by
  unfold settleKey
  cases hauto : t.schema.autoPosition? with
  | none => exact ⟨new, rfl, hwidth, hgiven, by simp [hauto], fun i _ => hblank i⟩
  | some k =>
    have hk : k < new.length := hwidth ▸ lt_of_autoPosition? hauto
    by_cases hsupplied : ∃ m, t.Supplies keys members m k
    · -- the key is given, and stored as it is
      obtain ⟨m, hm⟩ := hsupplied
      obtain ⟨n, hn⟩ := haccepts.key m k hm hauto
      have hkey : new.at k = .integer n := (hgiven m k hm).trans hn
      refine ⟨new, ?_, hwidth, hgiven, fun i hi hnone => ?_, fun i _ => hblank i⟩
      · simp [hkey, Cell.integerKey?, Cell.numeric, Row.set_of_at_eq hk hkey]
      · rw [hauto, Option.some.injEq] at hi
        exact absurd hm (hi ▸ hnone m)
    · -- the next key is taken
      have hnone := not_exists.1 hsupplied
      obtain ⟨n, hn⟩ := haccepts.nextKey k hauto hnone
      refine ⟨new.set k (.integer n), ?_, ?_, ?_, ?_, ?_⟩
      · simp [hblank k hnone, hn, Except.map]
      · simpa using hwidth
      · intro m i hm
        have hne : k ≠ i := fun h => hnone m (h ▸ hm)
        rw [Row.at_set_of_ne hne, hgiven m i hm]
      · intro i hi _
        rw [hauto, Option.some.injEq] at hi
        subst hi
        exact ⟨n, Row.at_set_self hk _, t.ne_of_nextKey hn⟩
      · intro i hi hopen
        have hne : k ≠ i := fun h => hi (h ▸ hauto)
        rw [Row.at_set_of_ne hne, hblank i hopen]

end Table

end FilterSql
