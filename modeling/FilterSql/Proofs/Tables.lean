import FilterSql.Store.Engine
import Mathlib.Algebra.Group.Nat.Defs
import Mathlib.Data.List.Nodup
import Mathlib.Data.List.Perm.Basic
import Mathlib.Data.List.Perm.Subperm
import Mathlib.Data.List.TakeDrop

/-!
# Rows and unique sets of a table

What is said here about a table needs no statement: which column a name stands for, which values are
the same, that a generated key is new, and what becomes of the rows when one of them is inserted or
replaced. The order of the rows is that of the generated key, so the rows of a changed table are
known up to their order.

## Main definitions

* `Table.WellFormed`: the rows of a table are as its schema says.

## Main results

* `TableSchema.perm_of_conflictSet?`: a unique set that the columns name has just these columns;
* `Table.ne_of_nextKey`, `Table.exists_nextKey`: a generated key differs from every stored one, and
  there is one while there are fewer rows than keys;
* `Table.insert_eq_ok`, `Table.replace_eq_ok`: the rows of a table after one of them is inserted or
  replaced.
-/

namespace FilterSql

/-- Names are the same when they differ in the case of ASCII letters at most. -/
theorem sameName_iff {a b : String} :
    sameName a b = true ↔ FieldCase.folded a = FieldCase.folded b := by
  simp [sameName]

/-- The greater one of two integers is at most a third one when both are. -/
instance lawfulOrderSupInt64 : Std.LawfulOrderSup Int64 where
  max_le_iff a b c := by
    change (if a ≤ b then b else a) ≤ c ↔ _
    simp only [Int64.le_iff_toInt_le]
    split <;> omega

/-- The successor of an integer that is not the greatest one is greater. -/
theorem not_succ_le {n : Int64} (h : n ≠ Int64.maxValue) : ¬ n + 1 ≤ n := by
  have hmax : Int64.maxValue.toInt = 9223372036854775807 := by decide
  have hone : (1 : Int64).toInt = 1 := by decide
  have hne : n.toInt ≠ Int64.maxValue.toInt := fun heq => h (Int64.toInt_inj.1 heq)
  have hlt := n.toInt_lt
  have hge := n.le_toInt
  rw [Int64.le_iff_toInt_le, Int64.toInt_add, Int.bmod_eq_of_le (by omega) (by omega)]
  omega

namespace Cell

/-- Nothing is the same as null. -/
theorem same_null (c : Cell) : c.same null = false := by
  simp [same, relate, rank, Truth.holds]

/-- Integers are the same when they are equal. -/
theorem same_integer_iff {m n : Int64} : (integer m).same (integer n) = true ↔ m = n := by
  simp [same, relate, rank, Truth.holds, compare, Int64.toInt_inj]

end Cell

namespace Row

/-- A row has its new value where one is set. -/
theorem at_set_self {row : Row} {i : Nat} (h : i < row.length) (c : Cell) :
    Row.at (row.set i c) i = c := by
  simp [Row.at, h]

/-- A row keeps its values where none is set. -/
theorem at_set_of_ne {row : Row} {i j : Nat} (h : i ≠ j) (c : Cell) :
    Row.at (row.set i c) j = row.at j := by
  simp [Row.at, h]

/-- Setting a value that a row has already changes nothing. -/
theorem set_of_at_eq {row : Row} {i : Nat} {c : Cell} (h : i < row.length) (hc : row.at i = c) :
    row.set i c = row := by
  rw [← hc, Row.at, List.getD_eq_getElem?_getD, List.getElem?_eq_getElem h]
  exact List.set_getElem_self h

/-- Rows agree on a set when they agree in each of its columns. -/
theorem agreeOn_iff {set : List Nat} {a b : Row} :
    Row.agreeOn set a b = true ↔ ∀ i ∈ set, (a.at i).same (b.at i) = true := by
  simp [Row.agreeOn]

end Row

namespace TableSchema

variable {t : TableSchema}

/-- Names of one column are the same. -/
theorem sameName_of_position? {a b : String} {i : Nat} (ha : t.position? a = some i)
    (hb : t.position? b = some i) : sameName a b = true := by
  obtain ⟨_, ha, -⟩ := List.findIdx?_eq_some_iff_getElem.1 ha
  obtain ⟨_, hb, -⟩ := List.findIdx?_eq_some_iff_getElem.1 hb
  rw [sameName_iff] at ha hb ⊢
  exact ha.symm.trans hb

/-- The position of a column is one of the table's. -/
theorem lt_of_position? {c : String} {i : Nat} (h : t.position? c = some i) :
    i < t.columns.length :=
  (List.findIdx?_eq_some_iff_getElem.1 h).1

/-- The column at the position of a name has the same name. -/
theorem sameName_getElem {c : String} {i : Nat} (h : t.position? c = some i)
    (hi : i < t.columns.length) : sameName t.columns[i] c = true :=
  (List.findIdx?_eq_some_iff_getElem.1 h).2.1

/-- Where the columns have distinct names, a name stands for the column of the same name. -/
theorem position?_eq_some (h : t.columns.Pairwise fun a b => ¬ sameName a b) {c : String} {i : Nat}
    (hi : i < t.columns.length) (hc : sameName t.columns[i] c = true) :
    t.position? c = some i := by
  refine List.findIdx?_eq_some_iff_getElem.2 ⟨hi, hc, fun j hj hsame => ?_⟩
  have hne := List.pairwise_iff_getElem.1 h j i (Nat.lt_trans hj hi) hi hj
  rw [sameName_iff] at hc hsame hne
  exact hne (hsame.trans hc.symm)

/-- A unique set that the columns name has just their positions, when no set names a column twice. -/
theorem perm_of_conflictSet? {columns : List String} {set : List Nat}
    (hsets : ∀ set ∈ t.uniqueSets, set.Nodup) (h : t.conflictSet? columns = some set) :
    set ∈ t.uniqueSets ∧ (set.map some).Perm (columns.map t.position?) := by
  obtain ⟨hmem, hfound⟩ := And.intro (List.mem_of_find?_eq_some h) (List.find?_some h)
  simp only [Bool.and_eq_true, decide_eq_true_eq, List.all_eq_true, List.contains_eq_mem] at hfound
  -- the set has as many positions as there are columns, names none twice, and each is that of a
  -- column, so it is the positions of all of them
  have hnodup : (set.map some).Nodup :=
    (hsets set hmem).map fun _ _ => Option.some.inj
  have hsubset : set.map some ⊆ columns.map t.position? := by
    intro o ho
    obtain ⟨i, hi, rfl⟩ := List.mem_map.1 ho
    exact hfound.2 i hi
  exact ⟨hmem, (hnodup.subperm hsubset).perm_of_length_le (by simp [hfound.1])⟩

/-- Columns that are those of a unique set name one. -/
theorem isSome_conflictSet? {columns : List String} {named : List Nat}
    (hnamed : named ∈ t.uniqueSets) (hperm : (named.map some).Perm (columns.map t.position?)) :
    (t.conflictSet? columns).isSome := by
  rw [conflictSet?, List.find?_isSome]
  refine ⟨named, hnamed, ?_⟩
  have hlength : named.length = columns.length := by simpa using hperm.length_eq
  have hall : ∀ i ∈ named, some i ∈ columns.map t.position? :=
    fun i hi => hperm.subset (List.mem_map_of_mem hi)
  simpa [hlength] using hall

end TableSchema

namespace Table

/-- The rows of a table are as its schema says: columns and unique sets name nothing twice, every row
has a value for each column, generated keys are integers, and no two rows agree in a unique set. -/
structure WellFormed (t : Table) : Prop where
  columns : t.schema.columns.Pairwise fun a b => ¬ sameName a b
  sets : ∀ set ∈ t.schema.uniqueSets, set.Nodup
  width : ∀ row ∈ t.rows, row.length = t.schema.columns.length
  auto : ∀ i, t.schema.autoPosition? = some i → ∀ row ∈ t.rows, ∃ n, row.at i = .integer n
  unique : ∀ set ∈ t.schema.uniqueSets,
    t.rows.Pairwise fun a b => ¬ Row.agreeOn set a b ∧ ¬ Row.agreeOn set b a

variable (t : Table)

/-- Different rows do not agree in a unique set. -/
theorem WellFormed.not_agreeOn {t : Table} (h : t.WellFormed) {set : List Nat}
    (hset : set ∈ t.schema.uniqueSets) {i j : Nat} (hi : i < t.rows.length)
    (hj : j < t.rows.length) (hne : i ≠ j) : ¬ Row.agreeOn set t.rows[i] t.rows[j] := by
  have hpairwise := List.pairwise_iff_getElem.1 (h.unique set hset)
  rcases Nat.lt_or_gt_of_ne hne with hlt | hgt
  · exact (hpairwise i j hi hj hlt).1
  · exact (hpairwise j i hj hi hgt).2

/-- A generated key differs from every stored one. -/
theorem ne_of_nextKey {i : Nat} {n : Int64} (h : t.nextKey i = .ok n) :
    ∀ row ∈ t.rows, row.at i ≠ .integer n := by
  intro row hrow hcell
  unfold nextKey at h
  extract_lets keys at h
  have hmem : n ∈ keys := List.mem_filterMap.2 ⟨row, hrow, by simp [hcell]⟩
  split at h
  · next hnone =>
    rw [List.max?_eq_none_iff] at hnone
    simp [hnone] at hmem
  · next greatest hmax =>
    split at h
    · -- a key that is free is stored nowhere
      split at h
      · next k hfind =>
        obtain rfl := Except.ok.inj h
        have hfree := List.find?_some hfind
        simp [hmem] at hfree
      · cases h
    · -- the next key is greater than all stored ones, of which this would be one
      next hne =>
      obtain rfl := Except.ok.inj h
      exact not_succ_le hne ((List.max?_le_iff hmax).1 (Std.le_refl _) _ hmem)

/-- There is a next key while there are fewer rows than keys. -/
theorem exists_nextKey {i : Nat} (h : t.rows.length + 1 < 2 ^ 63) : ∃ n, t.nextKey i = .ok n := by
  unfold nextKey
  extract_lets keys candidates
  have hkeys : keys.length ≤ t.rows.length := List.length_filterMap_le _ _
  split
  · exact ⟨1, rfl⟩
  · split_ifs
    · -- there is one more candidate than there are keys, so one of them is free
      have hnodup : candidates.Nodup := by
        refine List.Nodup.map_on (fun x hx y hy hxy => ?_) List.nodup_range'
        rw [List.mem_range'_1] at hx hy
        have hint := congrArg Int64.toInt hxy
        rw [Int64.toInt_ofNat_of_lt (by omega), Int64.toInt_ofNat_of_lt (by omega)] at hint
        exact Int.natCast_inj.1 hint
      cases hfind : candidates.find? fun k => !keys.contains k with
      | some k => exact ⟨k, rfl⟩
      | none =>
        have hsubset : candidates ⊆ keys := by
          intro k hk
          simpa using List.find?_eq_none.1 hfind k hk
        have hle := (hnodup.subperm hsubset).length_le
        simp only [candidates, List.length_map, List.length_range'] at hle
        omega
    · exact ⟨_, rfl⟩

/-- A row that is put in its place stands beside the others. -/
theorem place_perm (rows : List Row) (row : Row) : (t.place rows row).Perm (row :: rows) := by
  unfold place
  rw [List.span_eq_takeWhile_dropWhile]
  refine List.perm_middle.trans ?_
  rw [List.takeWhile_append_dropWhile]

/-- A row that is admitted is inserted. -/
theorem insert_eq_ok {row : Row} (h : t.admits t.rows row = true) :
    ∃ t', t.insert row = .ok t' ∧ t'.schema = t.schema ∧ t'.rows.Perm (row :: t.rows) :=
  ⟨_, if_pos h, rfl, t.place_perm t.rows row⟩

/-- A row that the other rows admit replaces one. -/
theorem replace_eq_ok {i : Nat} {row : Row} (hi : i < t.rows.length)
    (h : t.admits (t.rows.eraseIdx i) row = true) :
    ∃ t', t.replace i row = .ok t' ∧ t'.schema = t.schema ∧ t'.rows.Perm (t.rows.set i row) := by
  unfold replace
  simp only [h, Bool.not_true, Bool.false_eq_true, if_false]
  refine ⟨_, rfl, rfl, ?_⟩
  -- the row stays where it is, or moves to the place of its new key
  dsimp only
  split
  · split
    · exact .rfl
    · exact (t.place_perm _ row).trans (List.set_perm_cons_eraseIdx hi row).symm
  · exact .rfl

end Table

namespace Database

variable (db : Database) (t : Table)

/-- A table that is looked up after it was replaced is there in its new state. -/
theorem table?_update {t' : Table} {schema : Option String} {name : String}
    (h : db.table? schema name = some t) (hschema : t'.schema = t.schema) :
    (db.update t').table? schema name = some t' := by
  unfold table? at h ⊢
  split_ifs at h ⊢ with hexists
  have hname := List.find?_some h
  -- a table is replaced by one of its name, so the same tables are found
  have hfound : (fun u : Table => sameName u.schema.name name) ∘
      (fun u => if sameName u.schema.name t'.schema.name then t' else u) =
        fun u : Table => sameName u.schema.name name := by
    funext u
    simp only [Function.comp_apply]
    split_ifs with hsame
    · rw [Bool.eq_iff_iff, sameName_iff, sameName_iff, sameName_iff.1 hsame]
    · rfl
  rw [update, List.find?_map, hfound, h, Option.map_some, hschema, sameName_iff.2 rfl, if_pos rfl]

/-- Replacing a table again changes nothing. -/
theorem update_update : (db.update t).update t = db.update t := by
  unfold update
  rw [List.map_map]
  refine List.map_congr_left fun u _ => ?_
  simp only [Function.comp_apply]
  split_ifs <;> rfl

end Database

end FilterSql
