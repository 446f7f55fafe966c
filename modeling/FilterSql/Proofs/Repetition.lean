import FilterSql.Proofs.Equality
import FilterSql.Proofs.Upserting

/-!
# An upsert that is run again

An upsert leaves one row that stands for it: the row that it inserted, or the one that it wrote over.
Run again, it finds this row and no other one, has nothing to write to it that is not there already,
and leaves the table as it is. It is not the same row that is inserted the second time, though: a key
that the database generates is another one, so this key must not be written.

## Main definitions

* `Table.ChangedTo`: one row of a table has changed, or was added;
* `Store.Settled`: a table in which a row stands for an upsert;
* `Store.Repeatable`: an upsert that can be run again.

## Main results

* `Table.settleKey_again`: the row that is inserted when an upsert is run again;
* `Store.upsert_cases`: what an upsert that ran has done;
* `Store.Settled.upsert_eq`: an upsert that a row stands for leaves the table as it is;
* `Store.upsert_again`: an upsert that ran leaves the table as it is when it is run again.
-/

namespace FilterSql

namespace Row

/-- Rows of one width with the same values are the same. -/
theorem ext_at {a b : Row} (hlength : a.length = b.length) (h : ∀ i < a.length, a.at i = b.at i) :
    a = b := by
  refine List.ext_getElem hlength fun i ha hb => ?_
  have hi := h i ha
  simpa [Row.at, ha, hb] using hi

/-- Rows that agree with a third one agree. -/
theorem agreeOn_of_agreeOn {set : List Nat} {a b c : Row} (ha : Row.agreeOn set a c = true)
    (hb : Row.agreeOn set b c = true) : Row.agreeOn set a b = true := by
  rw [agreeOn_iff] at ha hb ⊢
  exact fun i hi => Cell.same_of_same (ha i hi) (hb i hi)

end Row

namespace Table

/-- A row of the changed table `t'` stands in place of a row of `t`, or was added; all others are as
before. -/
def ChangedTo (t t' : Table) (w : Row) : Prop :=
  ∃ others, t'.rows.Perm (w :: others) ∧ (t.rows.Perm others ∨ ∃ old, t.rows.Perm (old :: others))

variable {t t' : Table}

/-- A table admits a row depending on its unique sets and on which the others are. -/
theorem admits_congr (hschema : t'.schema = t.schema) {rows rows' : List Row}
    (hrows : rows'.Perm rows) (row : Row) : t'.admits rows' row = t.admits rows row := by
  have hany (set : List Nat) :
      rows'.any (Row.agreeOn set · row) = rows.any (Row.agreeOn set · row) :=
    Bool.eq_iff_iff.2 (by simp [hrows.mem_iff])
  simp only [admits, hschema, hany]

/-- A row that was inserted was admitted, and stands beside the others. -/
theorem insert_cases {row : Row} (h : t.insert row = .ok t') :
    t.admits t.rows row = true ∧ t'.schema = t.schema ∧ t'.rows.Perm (row :: t.rows) := by
  unfold insert at h
  split_ifs at h with hadmits
  obtain rfl := Except.ok.inj h
  exact ⟨hadmits, rfl, t.place_perm t.rows row⟩

/-- A row that replaced one was admitted by the others, and stands beside them. -/
theorem replace_cases {i : Nat} {row : Row} (hi : i < t.rows.length)
    (h : t.replace i row = .ok t') :
    t.admits (t.rows.eraseIdx i) row = true ∧ t'.schema = t.schema ∧
      t'.rows.Perm (row :: t.rows.eraseIdx i) := by
  have hadmits : t.admits (t.rows.eraseIdx i) row = true := by
    by_contra hrefused
    rw [Bool.not_eq_true] at hrefused
    simp [replace, hrefused] at h
  obtain ⟨t₁, ht₁, hschema, hrows⟩ := t.replace_eq_ok hi hadmits
  obtain rfl := Except.ok.inj (ht₁.symm.trans h)
  exact ⟨hadmits, hschema, hrows.trans (List.set_perm_cons_eraseIdx hi row)⟩

/-- A row is replaced by itself. -/
theorem replace_self {i : Nat} (hi : i < t.rows.length)
    (hadmits : t.admits (t.rows.eraseIdx i) t.rows[i] = true)
    (hauto : ∀ k, t.schema.autoPosition? = some k → ∃ n, t.rows[i].at k = .integer n) :
    t.replace i t.rows[i] = .ok t := by
  unfold replace
  simp only [hadmits, Bool.not_true, Bool.false_eq_true, if_false, List.set_getElem_self]
  -- the generated key is kept, so the row stays where it is
  cases hk : t.schema.autoPosition? with
  | none => rfl
  | some k =>
    obtain ⟨n, hn⟩ := hauto k hk
    simp [hi, hn, Cell.same_integer_iff]

/-- With its key settled, a row is as before but for its key. -/
theorem settleKey_cases {new row : Row} (hwidth : new.length = t.schema.columns.length)
    (h : t.settleKey new = .ok row) :
    row.length = new.length ∧
      (∀ j, t.schema.autoPosition? ≠ some j → row.at j = new.at j) ∧
      ∀ i, t.schema.autoPosition? = some i → ∃ n, row.at i = .integer n ∧
        if new.at i = .null then t.nextKey i = .ok n else (new.at i).integerKey? = some n := by
  unfold settleKey at h
  split at h
  · next hauto =>
    obtain rfl := Except.ok.inj h
    exact ⟨rfl, fun _ _ => rfl, by simp [hauto]⟩
  · next i hauto =>
    have hi : i < new.length := hwidth ▸ lt_of_autoPosition? hauto
    obtain ⟨n, rfl, hn⟩ : ∃ n, row = new.set i (.integer n) ∧
        if new.at i = .null then t.nextKey i = .ok n else (new.at i).integerKey? = some n := by
      split at h
      · next hnull =>
        obtain ⟨n, hn, rfl⟩ := map_eq_ok_iff.1 h
        exact ⟨n, rfl, by rwa [if_pos hnull]⟩
      · next hnull =>
        split at h
        · next n hn =>
          obtain rfl := Except.ok.inj h
          exact ⟨n, rfl, by rwa [if_neg hnull]⟩
        · cases h
    refine ⟨List.length_set, fun j hj => ?_, fun k hk => ?_⟩
    · exact Row.at_set_of_ne (fun hij : i = j => hj (hij ▸ hauto)) _
    · obtain rfl := Option.some.inj (hauto.symm.trans hk)
      exact ⟨n, Row.at_set_self hi _, hn⟩

/-- When a row is inserted again, its key is settled again: a key that is given is the same as
before, and where there is none, the next one is taken, if there is one. -/
theorem settleKey_again (hschema : t'.schema = t.schema) {new row : Row}
    (hwidth : new.length = t.schema.columns.length) (h : t.settleKey new = .ok row)
    (hnext : ∀ i, t.schema.autoPosition? = some i → new.at i = .null → ∃ n, t'.nextKey i = .ok n) :
    ∃ row', t'.settleKey new = .ok row' ∧
      ∀ j, (t.schema.autoPosition? = some j → new.at j ≠ .null) → row'.at j = row.at j := by
  unfold settleKey at h ⊢
  rw [hschema]
  split at h
  · obtain rfl := Except.ok.inj h
    exact ⟨_, rfl, fun _ _ => rfl⟩
  · next i hauto =>
    have hi : i < new.length := hwidth ▸ lt_of_autoPosition? hauto
    by_cases hnull : new.at i = .null
    · obtain ⟨n, hn⟩ := hnext i hauto hnull
      rw [hnull] at h ⊢
      obtain ⟨m, -, rfl⟩ := map_eq_ok_iff.1 h
      refine ⟨new.set i (.integer n), by simp [hn, Except.map], fun j hj => ?_⟩
      have hne : i ≠ j := fun hij : i = j => hj (hij ▸ hauto) (hij ▸ hnull)
      rw [Row.at_set_of_ne hne, Row.at_set_of_ne hne]
    · -- the key that is given does not depend on the table
      refine ⟨row, ?_, fun _ _ => rfl⟩
      rw [← h]
      cases hcell : new.at i with
      | null => exact absurd hcell hnull
      | _ => rfl

end Table

namespace Store

variable {t t' : Table} {u : Upsert} {argument : Nat → Cell}

/-- At each position, a row that is overwritten has its old value or the new one. -/
theorem overwrite_at (s : TableSchema) (columns : List String) (row values : Row) (i : Nat) :
    (overwrite s columns row values).at i = row.at i ∨
      (overwrite s columns row values).at i = values.at i := by
  by_cases hi : i < row.length
  · by_cases hwritten : ∃ c ∈ columns, s.position? c = some i
    · exact .inr (overwrite_at_of_exists hwritten hi)
    · exact .inl (overwrite_at_of_forall fun c hc hposition => hwritten ⟨c, hc, hposition⟩)
  · left
    rw [Nat.not_lt] at hi
    simp [Row.at, hi, length_overwrite]

/-- A row that has the values already is not changed by writing them. -/
theorem overwrite_eq_self {s : TableSchema} {columns : List String} {row values : Row}
    (h : ∀ c ∈ columns, ∀ i, s.position? c = some i → values.at i = row.at i) :
    overwrite s columns row values = row := by
  refine Row.ext_at (length_overwrite s columns row values) fun i hi => ?_
  rw [length_overwrite] at hi
  by_cases hwritten : ∃ c ∈ columns, s.position? c = some i
  · obtain ⟨c, hc, hposition⟩ := hwritten
    rw [overwrite_at_of_exists ⟨c, hc, hposition⟩ hi, h c hc i hposition]
  · exact overwrite_at_of_forall fun c hc hposition => hwritten ⟨c, hc, hposition⟩

/-- A table in which a row stands for an upsert that would insert the row `row`. -/
structure Settled (t : Table) (u : Upsert) (set : List Nat) (row w : Row) : Prop where
  /-- The row stands beside others that admit it. -/
  admitted : ∃ others, t.rows.Perm (w :: others) ∧ t.admits others w = true
  /-- It is found by the upsert. -/
  agrees : Row.agreeOn set w row = true
  /-- It has the values that the upsert writes. -/
  written : ∀ c ∈ u.updated, ∀ i, t.schema.position? c = some i → row.at i = w.at i
  /-- Its key is an integer. -/
  key : ∀ k, t.schema.autoPosition? = some k → ∃ n, w.at k = .integer n

/-- An upsert finds the row that stands for it, and no other one. -/
theorem Settled.exists_findIdx? {set : List Nat} {row w : Row} (h : Settled t u set row w)
    (hset : set ∈ t.schema.uniqueSets) :
    ∃ i, ∃ hi : i < t.rows.length, t.rows.findIdx? (Row.agreeOn set · row) = some i ∧
      t.rows[i] = w ∧ t.admits (t.rows.eraseIdx i) w = true := by
  obtain ⟨others, hrows, hadmits⟩ := h.admitted
  have hw : w ∈ t.rows := hrows.symm.subset List.mem_cons_self
  cases hfind : t.rows.findIdx? (Row.agreeOn set · row) with
  | none =>
    have hmissed := List.findIdx?_eq_none_iff.1 hfind w hw
    rw [h.agrees] at hmissed
    cases hmissed
  | some i =>
    obtain ⟨hi, hagree, -⟩ := List.findIdx?_eq_some_iff_getElem.1 hfind
    -- another row that agrees with the inserted one would agree with `w`, which is admitted
    have heq : t.rows[i] = w := by
      by_contra hne
      have hother : t.rows[i] ∈ others :=
        (List.mem_cons.1 (hrows.subset (List.getElem_mem hi))).resolve_left hne
      simp only [Table.admits, List.all_eq_true, Bool.not_eq_true', List.any_eq_false] at hadmits
      exact hadmits set hset _ hother (Row.agreeOn_of_agreeOn hagree h.agrees)
    have hrest : (t.rows.eraseIdx i).Perm others := by
      have hcons := (List.getElem_cons_eraseIdx_perm hi).trans hrows
      rw [heq] at hcons
      exact hcons.cons_inv
    exact ⟨i, hi, rfl, heq, (Table.admits_congr rfl hrest w).trans hadmits⟩

/-- An upsert leaves the table as it is in which a row stands for it. -/
theorem Settled.upsert_eq {set : List Nat} {row w : Row} (h : Settled t u set row w)
    (hset : set ∈ t.schema.uniqueSets)
    (hrow : t.settleKey (newRow t.schema u argument) = .ok row) :
    upsert t u (some set) argument =
      .ok (t, if u.updated.isEmpty then [] else reported t.schema u w) := by
  obtain ⟨i, hi, hfind, rfl, hadmits⟩ := h.exists_findIdx? hset
  have hold : t.rows.getD i [] = t.rows[i] := by simp [hi]
  simp only [upsert, hrow, hfind, Option.bind_some, hold, overwrite_eq_self h.written,
    Table.replace_self hi hadmits h.key, bind, Except.bind, pure, Except.pure]
  split <;> rfl

/-- What an upsert that ran has done: a new row was inserted, or a row was found that agrees with it,
and this row was written over unless there was nothing to write. -/
theorem upsert_cases {conflict : Option (List Nat)} {rows : List Record}
    (h : upsert t u conflict argument = .ok (t', rows)) :
    ∃ row, t.settleKey (newRow t.schema u argument) = .ok row ∧
      ((t.insert row = .ok t' ∧ rows = reported t.schema u row) ∨
        ∃ set i, ∃ hi : i < t.rows.length, conflict = some set ∧
          Row.agreeOn set t.rows[i] row = true ∧
          if u.updated = [] then t' = t ∧ rows = []
          else ∃ w, w = overwrite t.schema u.updated t.rows[i] row ∧ t.replace i w = .ok t' ∧
            rows = reported t.schema u w) := by
  unfold upsert at h
  obtain ⟨row, hrow, h⟩ := bind_eq_ok_iff.1 h
  refine ⟨row, hrow, ?_⟩
  split at h
  · left
    obtain ⟨t₁, ht₁, h⟩ := bind_eq_ok_iff.1 h
    obtain ⟨rfl, rfl⟩ := Prod.mk.inj (Except.ok.inj h)
    exact ⟨ht₁, rfl⟩
  · next i hindex =>
    right
    obtain ⟨set, hset, hindex⟩ := Option.bind_eq_some_iff.1 hindex
    obtain ⟨hi, hagree, -⟩ := List.findIdx?_eq_some_iff_getElem.1 hindex
    have hold : t.rows.getD i [] = t.rows[i] := by simp [hi]
    refine ⟨set, i, hi, hset, hagree, ?_⟩
    simp only [List.isEmpty_iff] at h
    split_ifs at h ⊢ with hempty
    · obtain ⟨rfl, rfl⟩ := Prod.mk.inj (Except.ok.inj h)
      exact ⟨rfl, rfl⟩
    · obtain ⟨t₁, ht₁, h⟩ := bind_eq_ok_iff.1 h
      obtain ⟨rfl, rfl⟩ := Prod.mk.inj (Except.ok.inj h)
      rw [hold] at ht₁
      exact ⟨_, rfl, ht₁, by rw [hold]⟩

/-- What is written to an existing row depends on the values of the written columns. -/
theorem Settled.congr {set : List Nat} {row row' w : Row} (h : Settled t u set row w)
    (hset : ∀ i ∈ set, row'.at i = row.at i)
    (hwritten : ∀ c ∈ u.updated, ∀ i, t.schema.position? c = some i → row'.at i = row.at i) :
    Settled t u set row' w where
  admitted := h.admitted
  agrees := by
    rw [Row.agreeOn_iff]
    intro i hi
    rw [hset i hi]
    exact Row.agreeOn_iff.1 h.agrees i hi
  written c hc i hi := (hwritten c hc i hi).trans (h.written c hc i hi)
  key := h.key

/-- A row that was inserted stands for the upsert. -/
theorem settled_of_insert {set : List Nat} {row : Row} (hself : Row.agreeOn set row row = true)
    (hkey : ∀ k, t.schema.autoPosition? = some k → ∃ n, row.at k = .integer n)
    (h : t.insert row = .ok t') : Settled t' u set row row := by
  obtain ⟨hadmits, hschema, hrows⟩ := Table.insert_cases h
  refine ⟨⟨t.rows, hrows, ?_⟩, hself, fun _ _ _ _ => rfl, ?_⟩
  · rw [Table.admits_congr hschema (.refl t.rows), hadmits]
  · rwa [hschema]

/-- A row that was written over stands for the upsert. -/
theorem settled_of_replace (hwf : t.WellFormed) {set : List Nat} {row : Row} {i : Nat}
    (hi : i < t.rows.length) (hself : Row.agreeOn set row row = true)
    (hkey : ∀ k, t.schema.autoPosition? = some k → ∃ n, row.at k = .integer n)
    (hagree : Row.agreeOn set t.rows[i] row = true)
    (h : t.replace i (overwrite t.schema u.updated t.rows[i] row) = .ok t') :
    Settled t' u set row (overwrite t.schema u.updated t.rows[i] row) := by
  obtain ⟨hadmits, hschema, hrows⟩ := Table.replace_cases hi h
  have hwidth := hwf.width _ (List.getElem_mem hi)
  refine ⟨⟨t.rows.eraseIdx i, hrows, ?_⟩, ?_, ?_, ?_⟩
  · rw [Table.admits_congr hschema (.refl (t.rows.eraseIdx i)), hadmits]
  · rw [Row.agreeOn_iff] at hself hagree ⊢
    intro k hk
    rcases overwrite_at t.schema u.updated t.rows[i] row k with hold | hnew
    · rw [hold]
      exact hagree k hk
    · rw [hnew]
      exact hself k hk
  · rw [hschema]
    intro c hc k hk
    exact (overwrite_at_of_exists ⟨c, hc, hk⟩ (hwidth ▸ TableSchema.lt_of_position? hk)).symm
  · rw [hschema]
    intro k hk
    rcases overwrite_at t.schema u.updated t.rows[i] row k with hold | hnew
    · rw [hold]
      exact hwf.auto k hk _ (List.getElem_mem hi)
    · rw [hnew]
      exact hkey k hk

/-- An upsert that can be run again: the row that it inserts is found in the unique set that it
names, it writes no generated key over an existing one, and another key is there if one is taken. -/
structure Repeatable (t : Table) (u : Upsert) (set : List Nat) (new : Row) : Prop where
  /-- The row agrees with itself. -/
  self : Row.agreeOn set new new = true
  /-- The key is written over with a given one only. -/
  key : ∀ k, t.schema.autoPosition? = some k → ∀ c ∈ u.updated, t.schema.position? c = some k →
    new.at k ≠ .null
  /-- Where a key is generated, there are fewer rows than keys. -/
  room : ∀ k, t.schema.autoPosition? = some k → new.at k = .null → t.rows.length + 2 < 2 ^ 63

section Again

/-! The row `row` is inserted the first time, with its key settled. -/

variable {set : List Nat} {row : Row}
  (hrepeatable : Repeatable t u set (newRow t.schema u argument))
  (hrow : t.settleKey (newRow t.schema u argument) = .ok row)
include hrepeatable hrow

/-- With its key settled, the row still agrees with itself. -/
theorem Repeatable.agreeOn_self : Row.agreeOn set row row = true := by
  obtain ⟨-, hother, hauto⟩ := Table.settleKey_cases (by simp [newRow]) hrow
  refine Row.agreeOn_iff.2 fun i hi => ?_
  by_cases hk : t.schema.autoPosition? = some i
  · obtain ⟨n, hn, -⟩ := hauto i hk
    rw [hn, Cell.same_integer_iff]
  · rw [hother i hk]
    exact Row.agreeOn_iff.1 hrepeatable.self i hi

/-- An upsert is run again on a table in which a row stands for it. -/
theorem Repeatable.upsert_eq {w : Row} (hset : set ∈ t.schema.uniqueSets)
    (hschema : t'.schema = t.schema) (hlength : t'.rows.length ≤ t.rows.length + 1)
    (hsettled : Settled t' u set row w) :
    upsert t' u (some set) argument =
      .ok (t', if u.updated.isEmpty then [] else reported t.schema u w) := by
  obtain ⟨row', hrow', hsame⟩ := Table.settleKey_again hschema (by simp [newRow]) hrow
    fun k hk hnull => t'.exists_nextKey (by have := hrepeatable.room k hk hnull; omega)
  rw [← hschema] at hset hrow' ⊢
  -- the row that is inserted now is another one at the generated key only, which is not looked at
  refine Settled.upsert_eq (hsettled.congr (fun i hi => hsame i ?_) fun c hc i hi => hsame i ?_)
    hset hrow'
  · intro _ hnull
    have hself := Row.agreeOn_iff.1 hrepeatable.self i hi
    rw [hnull, Cell.same_null] at hself
    cases hself
  · rw [hschema] at hi
    exact fun hk => hrepeatable.key i hk c hc hi

end Again

/-- An upsert that ran has inserted one row or written over one, which agrees with the inserted row in
the unique set that the upsert names, and has reported this row, unless it was found and there was
nothing to update. Run again, the upsert leaves the table as it is, and reports the row if there is
something to update. -/
theorem upsert_again (hwf : t.WellFormed) {set : List Nat} (hset : set ∈ t.schema.uniqueSets)
    {rows : List Record} (hrepeatable : Repeatable t u set (newRow t.schema u argument))
    (h : upsert t u (some set) argument = .ok (t', rows)) :
    ∃ row w, t.settleKey (newRow t.schema u argument) = .ok row ∧
      Row.agreeOn set w row = true ∧ t'.schema = t.schema ∧ t.ChangedTo t' w ∧
      (rows = reported t.schema u w ∨ u.updated = [] ∧ rows = []) ∧
      upsert t' u (some set) argument =
        .ok (t', if u.updated.isEmpty then [] else reported t.schema u w) := by
  obtain ⟨row, hrow, hcases⟩ := upsert_cases h
  have hself := hrepeatable.agreeOn_self hrow
  have hkey : ∀ k, t.schema.autoPosition? = some k → ∃ n, row.at k = .integer n := by
    intro k hk
    obtain ⟨-, -, hauto⟩ := Table.settleKey_cases (by simp [newRow]) hrow
    obtain ⟨n, hn, -⟩ := hauto k hk
    exact ⟨n, hn⟩
  rcases hcases with ⟨hinsert, hrows⟩ | ⟨_, i, hi, hconflict, hagree, hfound⟩
  · -- the row was inserted
    obtain ⟨-, hschema, hperm⟩ := Table.insert_cases hinsert
    refine ⟨row, row, hrow, hself, hschema, ⟨t.rows, hperm, .inl (.refl _)⟩, .inl hrows, ?_⟩
    exact hrepeatable.upsert_eq hrow hset hschema hperm.length_eq.le
      (settled_of_insert hself hkey hinsert)
  · obtain rfl := Option.some.inj hconflict
    have holds := List.getElem_cons_eraseIdx_perm hi
    split_ifs at hfound with hempty
    · -- a row was found and left as it is, and so it will be again
      obtain ⟨rfl, rfl⟩ := hfound
      refine ⟨row, t'.rows[i], hrow, hagree, rfl, ⟨_, holds.symm, .inr ⟨_, holds.symm⟩⟩,
        .inr ⟨hempty, rfl⟩, ?_⟩
      simp [h, hempty]
    · -- a row was found and written over
      obtain ⟨w, rfl, hreplace, hrows⟩ := hfound
      obtain ⟨-, hschema, hperm⟩ := Table.replace_cases hi hreplace
      have hsettled := settled_of_replace hwf hi hself hkey hagree hreplace
      have hlength := (hperm.trans (List.set_perm_cons_eraseIdx hi _).symm).length_eq
      rw [List.length_set] at hlength
      exact ⟨row, _, hrow, hsettled.agrees, hschema, ⟨_, hperm, .inr ⟨_, holds.symm⟩⟩,
        .inl hrows, hrepeatable.upsert_eq hrow hset hschema (by omega) hsettled⟩

end Store

end FilterSql
