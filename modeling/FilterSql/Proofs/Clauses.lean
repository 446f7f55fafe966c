import FilterSql.Proofs.Assignments

/-!
# The clauses of an upsert

An upsert names the columns of the written record in several clauses: in the list of an `INSERT`, as
aliases of the bound values in a `MERGE`, and as targets of assignments. It takes values from the
record by name where a `MERGE` matches and inserts rows, and where columns are assigned. Read back
from the tokens, the lists are those of the planned upsert, and each value that is taken by name is
that of a column that the upsert was planned to write.

## Main definitions

* `Statement.insertList`, `Statement.sourceList`, `Statement.targets`: the columns that a new row gets
  values for, the columns that values are bound as, and the columns of an existing row that are
  assigned something;
* `Token.written?`, `Token.conflictList`, `Token.returned?`: the written table, the columns that rows
  are matched on, and the reported column of an `INSERT … ON CONFLICT …`;
* `Upsert.recordValue`: a column's value of the record, in the form of a style.

## Main results

* `Upsert.insertList_tokens`, `Upsert.sourceList_mergeTokens`, `Upsert.targets_tokens`: the lists of an
  upsert;
* `Upsert.conflictList_onConflictTokens`, `Upsert.nothing_mem_onConflictTokens_iff`,
  `Upsert.returned?_onConflictTokens`: what it does where a row exists, and what it reports;
* `Upsert.of_infix_tokens`: where an upsert takes values from the record by name.
-/

namespace FilterSql

namespace Token

/-- The name that a token is. -/
def ident? : Token → Option String
  | ident name => some name
  | _ => none

/-- The names up to a token. -/
def namesUntil (stop : Token) (ts : List Token) : List String :=
  (ts.takeWhile (· ≠ stop)).filterMap ident?

/-- The columns between `INSERT` and `VALUES`. -/
def insertList (ts : List Token) : List String :=
  namesUntil (.word .values) (behind .insert ts)

/-- The aliases of the bound values, between parentheses behind `USING`. -/
def sourceList (ts : List Token) : List String :=
  namesUntil (.mark .closeParen) (behind .using ts)

/-- The table behind `INTO`. -/
def written? (ts : List Token) : Option TableName :=
  match behind .into ts with
  | _ :: .qualified schema name :: _ => some { schema, name }
  | _ => none

/-- The columns between parentheses behind `CONFLICT`. -/
def conflictList (ts : List Token) : List String :=
  namesUntil (.mark .closeParen) (behind .conflict ts)

/-- The column behind `RETURNING`. -/
def returned? (ts : List Token) : Option String :=
  match behind .returning ts with
  | _ :: .ident c :: _ => some c
  | _ => none

/-- The column that tokens begin with, if it is assigned something. -/
def target? : List Token → Option String
  | .ident c :: .mark .eq :: _ => some c
  | _ => none

/-- The columns that are assigned something behind the first `UPDATE`. -/
def targets (ts : List Token) : List String :=
  findings target? (behind .update ts)

/-- All targets of assignments are found. -/
theorem readsAssignments_target? : ReadsAssignments target? id fun c => [c] where
  nil := rfl
  word _ _ := rfl
  mark _ _ := rfl
  ident name ts h := by
    unfold target?
    split
    · next heq =>
      rw [(List.cons.inj heq).2] at h
      exact absurd rfl h
    · rfl
  record _ _ := rfl
  idle _ := rfl

/-! ### Lists of names -/

/-- A separator without names adds none. -/
theorem filterMap_ident?_intercalate {sep : List Token} (h : sep.filterMap ident? = [])
    (phrases : List (List Token)) :
    (sep.intercalate phrases).filterMap ident? = phrases.flatMap (·.filterMap ident?) :=
  collect_intercalate (fun _ _ => List.filterMap_append) h

/-- Blanks are no names. -/
theorem filterMap_ident?_blankless (ts : List Token) :
    (blankless ts).filterMap ident? = ts.filterMap ident? := by
  rw [blankless, List.filterMap_filter]
  refine List.filterMap_congr fun t _ => ?_
  split
  · rfl
  · next h =>
    obtain rfl : t = space := by simpa using h
    rfl

/-- The names up to a token are those of what stands in front of it. -/
theorem namesUntil_append {stop : Token} {before : List Token} (h : stop ∉ before)
    (after : List Token) : namesUntil stop (before ++ stop :: after) = before.filterMap ident? := by
  have hbefore : ∀ t ∈ before, decide (t ≠ stop) = true := by
    intro t ht
    refine decide_eq_true ?_
    rintro rfl
    exact h ht
  rw [namesUntil, List.takeWhile_append_of_pos hbefore, List.takeWhile_cons_of_neg (by simp),
    List.append_nil]

/-- What is no name is passed over. -/
theorem namesUntil_cons {stop t : Token} (h : t ≠ stop) (hname : ident? t = none)
    (ts : List Token) : namesUntil stop (t :: ts) = namesUntil stop ts := by
  rw [namesUntil, List.takeWhile_cons_of_pos (by simpa using h), List.filterMap_cons_none hname,
    namesUntil]

/-- A list of names has these names. -/
theorem filterMap_ident?_nameList (columns : List String) :
    (Upsert.nameList columns).filterMap ident? = columns := by
  rw [Upsert.nameList, commaSeparated, filterMap_ident?_intercalate rfl, List.flatMap_map]
  exact List.flatMap_singleton' columns

/-! ### Where a phrase stands -/

section

variable {phrase xs ys : List Token} {phrases : List (List Token)}

/-- A phrase without a token stands in front of it or behind it. -/
theorem infix_or_infix_of_append_cons {t : Token} (h : phrase <:+: xs ++ t :: ys)
    (ht : t ∉ phrase) : phrase <:+: xs ∨ phrase <:+: ys := by
  rcases List.infix_append_iff.1 h with h | h | ⟨front, back, rfl, hfront, hback⟩
  · exact .inl h
  · rcases List.infix_cons_iff.1 h with h | h
    · rcases List.prefix_cons_iff.1 h with rfl | ⟨_, rfl, -⟩
      · exact .inl List.nil_infix
      · exact absurd List.mem_cons_self ht
    · exact .inr h
  · -- a part of it would begin with the token
    rcases List.prefix_cons_iff.1 hback with rfl | ⟨_, rfl, -⟩
    · rw [List.append_nil]
      exact .inl hfront.isInfix
    · exact absurd (List.mem_append_right _ List.mem_cons_self) ht

/-- A phrase without the tokens of a separator stands behind it. -/
theorem infix_of_infix_append (sep : List Token) (h : phrase <:+: sep ++ ys)
    (hsep : ∀ t ∈ sep, t ∉ phrase) : phrase <:+: ys := by
  induction sep with
  | nil => exact h
  | cons t sep ih =>
    obtain ⟨ht, hsep⟩ := List.forall_mem_cons.1 hsep
    have hsplit : phrase <:+: [] ++ t :: (sep ++ ys) := h
    rcases infix_or_infix_of_append_cons hsplit ht with h | h
    · rw [List.infix_nil.1 h]
      exact List.nil_infix
    · exact ih h hsep

/-- A phrase without the tokens of a separator stands in one of the phrases that it separates. -/
theorem exists_of_infix_intercalate {t : Token} {sep : List Token}
    (h : phrase <:+: (t :: sep).intercalate phrases) (hsep : ∀ u ∈ t :: sep, u ∉ phrase)
    (hne : phrase ≠ []) : ∃ p ∈ phrases, phrase <:+: p := by
  obtain ⟨ht, hrest⟩ := List.forall_mem_cons.1 hsep
  induction phrases with
  | nil => exact absurd (List.infix_nil.1 h) hne
  | cons p phrases ih =>
    cases phrases with
    | nil =>
      rw [List.intercalate_singleton] at h
      exact ⟨p, List.mem_cons_self, h⟩
    | cons q phrases =>
      rw [List.intercalate_cons_cons, List.append_assoc, List.cons_append] at h
      rcases infix_or_infix_of_append_cons h ht with h | h
      · exact ⟨p, List.mem_cons_self, h⟩
      · obtain ⟨p', hp', h⟩ := ih (infix_of_infix_append sep h hrest)
        exact ⟨p', List.mem_cons_of_mem p hp', h⟩

/-- The last one of several phrases ends them. -/
theorem suffix_spaced_append (phrases : List (List Token)) (p : List Token) :
    p <:+ spaced (phrases ++ [p]) := by
  induction phrases with
  | nil =>
    rw [List.nil_append, spaced, List.intercalate_singleton]
  | cons q phrases ih =>
    obtain ⟨q', rest, hrest⟩ := List.exists_cons_of_ne_nil (List.append_ne_nil_of_right_ne_nil
      phrases (List.cons_ne_nil p []))
    rw [hrest] at ih
    rw [List.cons_append, hrest, spaced, List.intercalate_cons_cons]
    exact ih.trans (List.suffix_append _ _)

end

namespace IsRecordValue

variable {c : String} {value p phrase : List Token} {phrases : List (List Token)}

/-- A value of the record is more than one token. -/
theorem one_lt_length (h : IsRecordValue c value) : 1 < value.length := by
  cases h <;> simp [Upsert.aliased, parenthesized]

/-- It has no blank. -/
theorem space_not_mem (h : IsRecordValue c value) : space ∉ value := by
  cases h <;> simp [Upsert.aliased, parenthesized]

/-- It has no comma. -/
theorem comma_not_mem (h : IsRecordValue c value) : .mark .comma ∉ value := by
  cases h <;> simp [Upsert.aliased, parenthesized]

/-- It stands in no shorter phrase. -/
theorem one_lt_length_of_infix (h : IsRecordValue c value) (hin : value <:+: p) : 1 < p.length :=
  h.one_lt_length.trans_le hin.length_le

/-- What holds of all phrases of more than one token holds of the phrase that it stands in. -/
@[elab_as_elim]
theorem of_forall_long {P : List Token → Prop} (h : IsRecordValue c value) (hp : p ∈ phrases)
    (hin : value <:+: p) (hlong : ∀ q ∈ phrases, 1 < q.length → P q) : P p :=
  hlong p hp (h.one_lt_length_of_infix hin)

/-- It stands in one of several phrases. -/
theorem exists_of_infix_spaced (h : IsRecordValue c value) (hin : value <:+: spaced phrases) :
    ∃ p ∈ phrases, value <:+: p :=
  exists_of_infix_intercalate hin (by simpa using h.space_not_mem)
    (List.ne_nil_of_length_pos (Nat.zero_lt_of_lt h.one_lt_length))

/-- It stands in one of the items of a list. -/
theorem exists_of_infix_commaSeparated (h : IsRecordValue c value)
    (hin : value <:+: commaSeparated phrases) : ∃ p ∈ phrases, value <:+: p :=
  exists_of_infix_intercalate hin (by simpa using ⟨h.comma_not_mem, h.space_not_mem⟩)
    (List.ne_nil_of_length_pos (Nat.zero_lt_of_lt h.one_lt_length))

/-- It stands between parentheses, if these are not its own. -/
theorem infix_of_infix_parenthesized (h : IsRecordValue c value) (hvalues : .word .values ∉ phrase)
    (hin : value <:+: parenthesized phrase) : value <:+: phrase := by
  have hparen (ho : .mark .openParen ∉ value) (hc : .mark .closeParen ∉ value) :
      value <:+: phrase := by
    have hinner := infix_of_infix_append [.mark .openParen] hin (by simpa using ho)
    rcases infix_or_infix_of_append_cons hinner hc with hinner | hinner
    · exact hinner
    · exact absurd (h.one_lt_length_of_infix hinner) (by simp)
  -- the form with `VALUES` has parentheses of its own, but the phrase has no such word
  cases h with
  | source => exact hparen (by simp [Upsert.aliased]) (by simp [Upsert.aliased])
  | excluded => exact hparen (by simp) (by simp)
  | values => exact absurd (word_mem_parenthesized.1 (hin.subset List.mem_cons_self)) hvalues

/-- A value of the record that stands in another one is that one. -/
theorem eq_of_infix {c' : String} {value' : List Token} (h : IsRecordValue c value)
    (h' : IsRecordValue c' value') (hin : value <:+: value') : c = c' ∧ value = value' := by
  cases h <;> cases h'
  case source.source | excluded.excluded | values.values =>
    have heq := hin.eq_of_length rfl
    simp [Upsert.aliased, parenthesized] at heq
    exact ⟨heq, by rw [heq]⟩
  case source.excluded =>
    have heq := hin.eq_of_length rfl
    simp [Upsert.aliased] at heq
  all_goals
    have hsubset := hin.subset
    simp [Upsert.aliased, parenthesized] at hsubset

end IsRecordValue

end Token

namespace Upsert

/-- A column's value of the record, in the form of a style. -/
def recordValue (style : UpsertStyle) (column : String) : List Token :=
  match style with
  | .merge => aliased sourceAlias column
  | .onConflict => [.word .excluded, .mark .dot, .ident column]
  | .onDuplicateKey => .word .values :: Token.parenthesized [.ident column]

open Token

/-- Every style has a form of its own. -/
theorem isRecordValue_recordValue (style : UpsertStyle) (c : String) :
    IsRecordValue c (recordValue style c) := by
  cases style with
  | merge => exact .source
  | onConflict => exact .excluded
  | onDuplicateKey => exact .values

/-- The forms of different styles differ. -/
theorem eq_of_recordValue_eq {style style' : UpsertStyle} {c : String}
    (h : recordValue style c = recordValue style' c) : style = style' := by
  cases style <;> cases style' <;> first | rfl | simp [recordValue, aliased, parenthesized] at h

variable {c : String} {value : List Token}

/-- In a list of assignments the values are those of the assigned columns. -/
theorem of_infix_assignments (style : UpsertStyle) {columns : List String}
    (h : IsRecordValue c value) (hin : value <:+: assignments columns (recordValue style)) :
    value = recordValue style c ∧ c ∈ columns := by
  obtain ⟨_, hp, hin⟩ := h.exists_of_infix_commaSeparated hin
  obtain ⟨column, hcolumn, rfl⟩ := List.mem_map.1 hp
  obtain ⟨p, hp, hin⟩ := h.exists_of_infix_spaced hin
  obtain rfl : p = recordValue style column := h.of_forall_long hp hin (by simp)
  obtain ⟨rfl, heq⟩ := h.eq_of_infix (isRecordValue_recordValue style column) hin
  exact ⟨heq, hcolumn⟩

/-- In a list of names no value is taken from the record. -/
theorem not_infix_nameList (h : IsRecordValue c value) (names : List String) :
    ¬ value <:+: nameList names := by
  intro hin
  obtain ⟨_, hp, hin⟩ := h.exists_of_infix_commaSeparated hin
  obtain ⟨name, -, rfl⟩ := List.mem_map.1 hp
  exact absurd (h.one_lt_length_of_infix hin) (by simp)

/-- Among the values of a new row, the values of the record are those of the new row. -/
theorem of_infix_valuesPhrases {columns : List String} {values : List (List Token)} {p : List Token}
    (h : IsRecordValue c value) (hvalues : ∀ v ∈ values, .word .values ∉ v)
    (hp : p ∈ valuesPhrases columns values) (hin : value <:+: p) : ∃ v ∈ values, value <:+: v := by
  unfold valuesPhrases at hp
  split at hp
  · exact h.of_forall_long hp hin (by simp)
  · simp only [List.mem_cons, List.not_mem_nil, or_false] at hp
    rcases hp with rfl | rfl | rfl
    · have hnames := h.infix_of_infix_parenthesized (word_not_mem_nameList _ _) hin
      exact absurd hnames (not_infix_nameList h columns)
    · exact absurd (h.one_lt_length_of_infix hin) (by simp)
    · refine h.exists_of_infix_commaSeparated (h.infix_of_infix_parenthesized ?_ hin)
      simpa using hvalues

variable (u : Upsert) (d : Dialect) (hint : Option String)

/-- The `INSERT` takes no values from the record by name. -/
theorem not_infix_insertPhrases (h : IsRecordValue c value) :
    ∀ p ∈ u.insertPhrases, ¬ value <:+: p := by
  intro p hp hin
  rcases List.mem_append.1 hp with hp | hp
  · exact h.of_forall_long hp hin (by simp)
  · obtain ⟨_, hv, hin⟩ := of_infix_valuesPhrases h (by simp [placeholders, Token.slot]) hp hin
    obtain ⟨i, -, rfl⟩ := List.mem_map.1 hv
    exact absurd (h.one_lt_length_of_infix hin) (by simp)

/-- A table is named by single tokens. -/
theorem length_le_of_mem_phrases (t : TableName) : ∀ p ∈ t.phrases d hint, p.length ≤ 1 := by
  unfold TableName.phrases
  split <;> simp

/-- A hint in front of a statement is a single token. -/
theorem length_le_of_mem_leadingHint : ∀ p ∈ d.leadingHint hint, p.length ≤ 1 := by
  unfold Dialect.leadingHint
  split <;> simp

/-- The bound values are no values that are taken from the record by name. -/
theorem not_infix_source (h : IsRecordValue c value) : ¬ value <:+: u.source := by
  intro hin
  have hinner := h.infix_of_infix_parenthesized (by simp [Token.slot]) hin
  obtain ⟨p, hp, hin⟩ := h.exists_of_infix_spaced hinner
  rcases List.mem_cons.1 hp with rfl | hp
  · exact absurd (h.one_lt_length_of_infix hin) (by simp)
  · obtain rfl := List.mem_singleton.1 hp
    obtain ⟨_, hitem, hin⟩ := h.exists_of_infix_commaSeparated hin
    obtain ⟨⟨column, i⟩, -, rfl⟩ := List.mem_map.1 hitem
    obtain ⟨p, hp, hin⟩ := h.exists_of_infix_spaced hin
    exact h.of_forall_long hp hin (by simp)

/-- The condition on which rows match takes the values of the matched columns. -/
theorem of_infix_matching (h : IsRecordValue c value) (hin : value <:+: u.matching) :
    value = recordValue .merge c ∧ c ∈ u.qualifiers := by
  have hinner := h.infix_of_infix_parenthesized
    (by rw [Token.mem_intercalate_iff (by simp)]; simp [aliased]) hin
  have hsep : ∀ t ∈ [space, .word .and, space], t ∉ value := by
    cases h <;> simp [aliased, parenthesized]
  obtain ⟨_, hp, hin⟩ := exists_of_infix_intercalate hinner hsep
    (List.ne_nil_of_length_pos (Nat.zero_lt_of_lt h.one_lt_length))
  obtain ⟨q, hq, rfl⟩ := List.mem_map.1 hp
  obtain ⟨p, hp, hin⟩ := h.exists_of_infix_spaced hin
  have haliased : p = aliased targetAlias q ∨ p = aliased sourceAlias q :=
    h.of_forall_long hp hin (by simp)
  rcases haliased with rfl | rfl
  · -- the written table has an alias of its own
    have hsubset := hin.subset
    cases h with
    | source => exact absurd (hin.eq_of_length rfl) (by simp [aliased, sourceAlias, targetAlias])
    | excluded | values => simp [aliased, parenthesized] at hsubset
  · obtain ⟨rfl, heq⟩ := h.eq_of_infix .source hin
    exact ⟨heq, hq⟩

/-- A `MERGE` takes values from the record where it matches rows, in a new row, and in assignments. -/
theorem of_infix_mergeTokens (h : IsRecordValue c value) (hin : value <:+: u.mergeTokens d hint) :
    value = recordValue .merge c ∧ (c ∈ u.qualifiers ∨ c ∈ u.inserted ∨ c ∈ u.updated) := by
  unfold mergeTokens at hin
  extract_lets update output at hin
  have hend : Token.mark .semicolon ∉ value := by
    cases h <;> simp [aliased, parenthesized]
  have hphrases := (infix_or_infix_of_append_cons hin hend).resolve_right fun hin =>
    absurd (h.one_lt_length_of_infix hin) (by simp)
  obtain ⟨p, hp, hin⟩ := h.exists_of_infix_spaced hphrases
  simp only [List.mem_append] at hp
  rcases hp with ((((hp | hp) | hp) | hp) | hp) | hp
  · exact h.of_forall_long hp hin (by simp)
  · exact absurd (length_le_of_mem_phrases d hint u.table p hp)
      (h.one_lt_length_of_infix hin).not_ge
  · -- of the phrases up to `INSERT` only the bound values and the condition are no single tokens
    have hsome : p = u.source ∨ p = u.matching := h.of_forall_long hp hin (by simp)
    rcases hsome with rfl | rfl
    · exact absurd hin (u.not_infix_source h)
    · obtain ⟨heq, hc⟩ := u.of_infix_matching h hin
      exact ⟨heq, .inl hc⟩
  · -- each column of the new row is read from the bound values
    obtain ⟨_, hv, hin⟩ := of_infix_valuesPhrases h (by simp [aliased]) hp hin
    obtain ⟨column, hcolumn, rfl⟩ := List.mem_map.1 hv
    obtain ⟨rfl, heq⟩ := h.eq_of_infix .source hin
    exact ⟨heq, .inr (.inl hcolumn)⟩
  · cases hupdated : u.updated with
    | nil => simp [update, hupdated] at hp
    | cons column columns =>
      simp only [update, hupdated] at hp
      obtain rfl : p = assignments (column :: columns) (aliased sourceAlias) :=
        h.of_forall_long hp hin (by simp)
      obtain ⟨heq, hc⟩ := of_infix_assignments .merge h hin
      exact ⟨heq, .inr (.inr hc)⟩
  · cases hresult : u.result with
    | none => simp [output, hresult] at hp
    | some column =>
      simp only [output, hresult] at hp
      -- the reported column is one of the table
      obtain rfl : p = [.word .inserted, .mark .dot, .ident column] :=
        h.of_forall_long hp hin (by simp)
      have hsubset := hin.subset
      cases h with
      | source => exact absurd (hin.eq_of_length rfl) (by simp [aliased])
      | excluded | values => simp [parenthesized] at hsubset

/-- An `INSERT … ON CONFLICT …` takes values from the record by name in assignments only. -/
theorem of_infix_onConflictTokens (h : IsRecordValue c value)
    (hin : value <:+: u.onConflictTokens d hint) :
    value = recordValue .onConflict c ∧ c ∈ u.updated := by
  unfold onConflictTokens at hin
  extract_lets conflict returning at hin
  obtain ⟨p, hp, hin⟩ := h.exists_of_infix_spaced hin
  simp only [List.mem_append] at hp
  rcases hp with ((hp | hp) | hp) | hp
  · exact absurd (length_le_of_mem_leadingHint d hint p hp) (h.one_lt_length_of_infix hin).not_ge
  · exact absurd hin (u.not_infix_insertPhrases h p hp)
  · cases hinserted : u.inserted with
    | nil => simp [conflict, hinserted] at hp
    | cons i is =>
      simp only [conflict, hinserted, List.isEmpty_cons, Bool.false_eq_true, if_false,
        List.mem_append] at hp
      rcases hp with hp | hp
      · -- the matched columns are named as columns of the table
        obtain rfl : p = parenthesized (nameList u.qualifiers) :=
          h.of_forall_long hp hin (by simp)
        have hnames := h.infix_of_infix_parenthesized (word_not_mem_nameList _ _) hin
        exact absurd hnames (not_infix_nameList h _)
      · cases hupdated : u.updated with
        | nil =>
          simp only [hupdated, List.mem_singleton] at hp
          exact absurd (h.one_lt_length_of_infix hin) (by simp [hp])
        | cons column columns =>
          simp only [hupdated] at hp
          obtain rfl : p = assignments (column :: columns) fun c =>
              [.word .excluded, .mark .dot, .ident c] := h.of_forall_long hp hin (by simp)
          exact of_infix_assignments .onConflict h hin
  · refine h.of_forall_long hp hin ?_
    cases hresult : u.result <;> cases hreturns : d.hasReturning <;>
      simp [returning, hresult, hreturns]

/-- An `INSERT … ON DUPLICATE KEY UPDATE …` takes values from the record by name in assignments
only. -/
theorem of_infix_onDuplicateKeyTokens (h : IsRecordValue c value)
    (hin : value <:+: u.onDuplicateKeyTokens) :
    value = recordValue .onDuplicateKey c ∧ c ∈ u.updated := by
  unfold onDuplicateKeyTokens at hin
  extract_lets updates duplicate at hin
  obtain ⟨p, hp, hin⟩ := h.exists_of_infix_spaced hin
  rcases List.mem_append.1 hp with hp | hp
  · exact absurd hin (u.not_infix_insertPhrases h p hp)
  · cases hinserted : u.inserted with
    | nil => simp [duplicate, hinserted] at hp
    | cons i is =>
      simp only [duplicate, hinserted, List.isEmpty_cons, Bool.false_eq_true, if_false] at hp
      obtain rfl : p = updates := h.of_forall_long hp hin (by simp)
      cases hupdated : u.updated with
      | nil =>
        -- a qualifier that is assigned to itself is named as a column of the table
        simp only [updates, hupdated] at hin
        obtain ⟨_, hp, hin⟩ := h.exists_of_infix_commaSeparated hin
        obtain ⟨q, -, rfl⟩ := List.mem_map.1 hp
        obtain ⟨p, hp, hin⟩ := h.exists_of_infix_spaced hin
        exact h.of_forall_long hp hin (by simp)
      | cons column columns =>
        simp only [updates, hupdated] at hin
        exact of_infix_assignments .onDuplicateKey h hin

/-- Where an upsert takes a value from the record by name, it does so in the form of its style, and
for a column that it updates, or that a `MERGE` matches on or inserts. -/
theorem of_infix_tokens (h : IsRecordValue c value) (hin : value <:+: u.tokens d hint) :
    value = recordValue d.upsertStyle c ∧
      (c ∈ u.updated ∨ d.upsertStyle = .merge ∧ (c ∈ u.qualifiers ∨ c ∈ u.inserted)) := by
  unfold tokens at hin
  cases hstyle : d.upsertStyle with
  | merge =>
    rw [hstyle] at hin
    obtain ⟨heq, hc⟩ := u.of_infix_mergeTokens d hint h hin
    exact ⟨heq, by tauto⟩
  | onConflict =>
    rw [hstyle] at hin
    obtain ⟨heq, hc⟩ := u.of_infix_onConflictTokens d hint h hin
    exact ⟨heq, .inl hc⟩
  | onDuplicateKey =>
    rw [hstyle] at hin
    obtain ⟨heq, hc⟩ := u.of_infix_onDuplicateKeyTokens h hin
    exact ⟨heq, .inl hc⟩

/-! ### The lists of columns -/

/-- Up to `VALUES`, the columns of a new row are named. -/
theorem namesUntil_valuesPhrases (columns : List String) (values after : List (List Token))
    (rest : List Token) :
    namesUntil (.word .values)
      (((valuesPhrases columns values ++ after).map blankless).flatten ++ rest) = columns := by
  cases columns with
  | nil => rfl
  | cons column columns =>
    have hwords : .word .values ∉ blankless (parenthesized (nameList (column :: columns))) := by
      intro hmem
      exact word_not_mem_nameList _ _ (word_mem_parenthesized.1 (List.mem_of_mem_filter hmem))
    simp only [valuesPhrases, List.cons_append, List.map_cons, List.flatten_cons, List.append_assoc]
    refine (namesUntil_append hwords _).trans ?_
    rw [filterMap_ident?_blankless, parenthesized, List.cons_append, List.filterMap_cons_none rfl,
      List.filterMap_append, filterMap_ident?_nameList]
    exact List.append_nil _

/-- Where a `MERGE` binds values, and where it inserts a new row. -/
theorem exists_mergeTokens_eq : ∃ after, u.mergeTokens d hint =
    spaced ([[.word .merge], [.word .into]] ++ u.table.phrases d hint ++
      [[.word .as], [.ident targetAlias]] ++ [.word .using] :: u.source ::
      ([[.word .as], [.ident sourceAlias], [.word .on], u.matching, [.word .when], [.word .not],
          [.word .matched], [.word .then]] ++ [.word .insert] ::
        (valuesPhrases u.inserted (u.inserted.map (aliased sourceAlias)) ++ after))) ++
      [.mark .semicolon] := by
  unfold mergeTokens
  extract_lets update output
  exact ⟨update ++ output, by simp⟩

/-- The `INSERT` of a `MERGE` names the columns of a new row. -/
theorem insertList_mergeTokens : insertList (u.mergeTokens d hint) = u.inserted := by
  obtain ⟨after, htokens⟩ := u.exists_mergeTokens_eq d hint
  have htable := word_not_mem_phrases (w := .insert) u.table d hint
  have hsource := u.word_not_mem_source (w := .insert) (by simp)
  have hmatching := u.word_not_mem_matching (w := .insert) (by simp)
  -- all that stands in front of `INSERT` is one list of phrases without that word
  rw [insertList, htokens, ← List.cons_append, ← List.cons_append, ← List.append_assoc,
    behind_spaced_append, behind_spaced_word_cons, namesUntil_cons (by simp) rfl,
    namesUntil_valuesPhrases]
  simpa [or_imp, forall_and, hsource, hmatching] using htable

/-- The `INSERT` of the other styles names the columns of a new row. -/
theorem insertList_insertPhrases (before : List (List Token))
    (hbefore : ∀ p ∈ before, .word .insert ∉ p) (after : List (List Token)) :
    insertList (spaced (before ++ (u.insertPhrases ++ after))) = u.inserted := by
  rw [insertList, ← List.append_nil (spaced _), behind_spaced_append _ hbefore, insertPhrases,
    List.append_assoc, List.cons_append, behind_spaced_word_cons, namesUntil_cons (by simp) rfl]
  calc namesUntil (.word .values) (.word .into :: u.table.token ::
        (((valuesPhrases u.inserted u.placeholders ++ after).map blankless).flatten ++ blankless []))
    _ = namesUntil (.word .values)
        (((valuesPhrases u.inserted u.placeholders ++ after).map blankless).flatten ++
          blankless []) := by
      rw [namesUntil_cons (by simp) rfl, namesUntil_cons (by simp [TableName.token]) rfl]
    _ = u.inserted := namesUntil_valuesPhrases _ _ _ _

/-- The `INSERT` of an upsert names the columns of a new row. -/
theorem insertList_tokens : insertList (u.tokens d hint) = u.inserted := by
  unfold tokens
  cases d.upsertStyle with
  | merge => exact u.insertList_mergeTokens d hint
  | onConflict =>
    dsimp only
    unfold onConflictTokens
    extract_lets conflict returning
    rw [List.append_assoc, List.append_assoc]
    exact u.insertList_insertPhrases _ (word_not_mem_leadingHint d hint) _
  | onDuplicateKey => exact u.insertList_insertPhrases [] (by simp) _

/-- The bound values have the bound columns as aliases. -/
theorem namesUntil_source (rest : List Token) :
    namesUntil (.mark .closeParen) (blankless u.source ++ rest) = u.bound := by
  unfold source
  extract_lets items
  have hitem (item : String × Nat) :
      (spaced [[.slot item.2], [.word .as], [.ident item.1]]).filterMap ident? = [item.1] := rfl
  have hparen : .mark .closeParen ∉ blankless (spaced [[.word .select], commaSeparated items]) := by
    intro hmem
    obtain ⟨p, hp, hmem⟩ := (mem_intercalate_iff (by simp)).1 (List.mem_of_mem_filter hmem)
    rcases List.mem_pair.1 hp with rfl | rfl
    · simp at hmem
    · obtain ⟨_, hitem, hmem⟩ := (mem_intercalate_iff (by simp)).1 hmem
      obtain ⟨item, -, rfl⟩ := List.mem_map.1 hitem
      simp [spaced, Token.slot] at hmem
  rw [blankless_parenthesized, List.append_assoc, List.cons_append, List.singleton_append,
    namesUntil_cons (by simp) rfl, namesUntil_append hparen, filterMap_ident?_blankless]
  calc (spaced [[.word .select], commaSeparated items]).filterMap ident?
    _ = items.flatMap (·.filterMap ident?) := by
      rw [spaced, filterMap_ident?_intercalate rfl, commaSeparated]
      simp [filterMap_ident?_intercalate, ident?]
    _ = u.bound := by
      rw [List.flatMap_map]
      simp only [hitem]
      rw [← List.map_eq_flatMap, List.zipIdx_map_fst]

/-- A `MERGE` binds values for the bound columns. -/
theorem sourceList_mergeTokens : sourceList (u.mergeTokens d hint) = u.bound := by
  obtain ⟨after, htokens⟩ := u.exists_mergeTokens_eq d hint
  have htable := word_not_mem_phrases (w := .using) u.table d hint
  rw [sourceList, htokens, behind_spaced_append, behind_spaced_word_cons,
    namesUntil_cons (by simp) rfl, List.map_cons, List.flatten_cons, List.append_assoc,
    namesUntil_source]
  simpa [or_imp, forall_and] using htable

/-- An upsert assigns the updated columns, or else the qualifier that is assigned to itself. -/
theorem targets_tokens (h : d.upsertStyle = .merge ∨ (u.inserted = [] → u.updated = [])) :
    targets (u.tokens d hint) =
      if d.upsertStyle = .onDuplicateKey ∧ u.inserted ≠ [] ∧ u.updated = [] then
        u.qualifiers.take 1
      else u.updated := by
  rw [targets, u.findings_tokens readsAssignments_target? d hint h, List.map_id,
    List.flatMap_singleton']

/-- An `INSERT … ON CONFLICT …` names its table. -/
theorem written?_onConflictTokens : written? (u.onConflictTokens d hint) = some u.table := by
  unfold onConflictTokens
  extract_lets conflict returning
  have hbehind : ∃ rest, behind .into (spaced (d.leadingHint hint ++ u.insertPhrases ++ conflict ++
      returning)) = .word .into :: u.table.token :: rest := by
    rw [← List.append_nil (spaced _), List.append_assoc, List.append_assoc,
      behind_spaced_append _ (word_not_mem_leadingHint d hint), insertPhrases, List.append_assoc]
    exact ⟨_, (behind_spaced_append [[.word .insert]] (by simp)).trans
      (behind_spaced_word_cons .into _ [])⟩
  obtain ⟨rest, hbehind⟩ := hbehind
  rw [written?, hbehind]
  rfl

/-- It names the columns that rows are matched on, unless all columns get their default values. -/
theorem conflictList_onConflictTokens (h : u.inserted ≠ []) :
    conflictList (u.onConflictTokens d hint) = u.qualifiers := by
  obtain ⟨i, is, hinserted⟩ := List.exists_cons_of_ne_nil h
  have hparen : .mark .closeParen ∉ blankless (nameList u.qualifiers) := by
    intro hmem
    obtain ⟨p, hp, hmem⟩ := (mem_intercalate_iff (by simp)).1 (List.mem_of_mem_filter hmem)
    obtain ⟨name, -, rfl⟩ := List.mem_map.1 hp
    simp at hmem
  unfold onConflictTokens
  extract_lets conflict returning
  have hconflict : conflict = [[.word .on]] ++
      ([.word .conflict] :: parenthesized (nameList u.qualifiers) :: conflict.drop 3) := by
    simp only [conflict, hinserted]
    rfl
  -- behind the word, the names stand between the first parentheses
  rw [conflictList, ← List.append_nil (spaced _), List.append_assoc, List.append_assoc,
    behind_spaced_append _ (word_not_mem_leadingHint d hint),
    behind_spaced_append _ (u.word_not_mem_insertPhrases (by simp)), hconflict, List.append_assoc,
    behind_spaced_append _ (by simp), List.cons_append, behind_spaced_word_cons,
    namesUntil_cons (by simp) rfl, List.cons_append, List.map_cons, List.flatten_cons,
    blankless_parenthesized, List.append_assoc, List.append_assoc]
  show namesUntil _ (.mark .openParen :: (blankless (nameList u.qualifiers) ++
    .mark .closeParen :: _)) = _
  rw [namesUntil_cons (by simp) rfl, namesUntil_append hparen, filterMap_ident?_blankless,
    filterMap_ident?_nameList]

/-- It does nothing with an existing row when no column of it is updated. -/
theorem nothing_mem_onConflictTokens_iff :
    .word .nothing ∈ u.onConflictTokens d hint ↔ u.inserted ≠ [] ∧ u.updated = [] := by
  have hhint := word_not_mem_leadingHint (w := .nothing) d hint
  have hinsert := u.word_not_mem_insertPhrases (w := .nothing) (by simp)
  unfold onConflictTokens
  extract_lets conflict returning
  have hreturning : ∀ p ∈ returning, .word .nothing ∉ p := by
    simp only [returning]
    cases u.result <;> cases d.hasReturning <;> simp
  have hconflict : (∃ p ∈ conflict, .word .nothing ∈ p) ↔ u.inserted ≠ [] ∧ u.updated = [] := by
    simp only [conflict]
    cases u.inserted with
    | nil => simp
    | cons i is =>
      cases u.updated <;> simp [word_not_mem_nameList, assignments, assignment]
  -- the word stands in no other phrase
  rw [word_mem_spaced, ← hconflict]
  simp only [List.mem_append]
  constructor
  · rintro ⟨p, ((hp | hp) | hp) | hp, hmem⟩
    · exact absurd hmem (hhint p hp)
    · exact absurd hmem (hinsert p hp)
    · exact ⟨p, hp, hmem⟩
    · exact absurd hmem (hreturning p hp)
  · rintro ⟨p, hp, hmem⟩
    exact ⟨p, .inl (.inr hp), hmem⟩

/-- It names the reported column, where the dialect can return one. -/
theorem returned?_onConflictTokens :
    returned? (u.onConflictTokens d hint) = if d.hasReturning then u.result else none := by
  unfold onConflictTokens
  extract_lets conflict returning
  have hconflict : ∀ p ∈ conflict, .word .returning ∉ p := by
    simp only [conflict]
    split
    · simp
    · split <;> simp [assignments, assignment, word_not_mem_nameList]
  rw [returned?, ← List.append_nil (spaced _), List.append_assoc, List.append_assoc,
    behind_spaced_append _ (word_not_mem_leadingHint d hint),
    behind_spaced_append _ (u.word_not_mem_insertPhrases (by simp)),
    behind_spaced_append _ hconflict]
  cases hresult : u.result <;> cases hreturns : d.hasReturning <;>
    simp only [returning, hresult, hreturns] <;> rfl

/-- Where nothing is updated, the statement ends with a qualifier that is assigned to itself. -/
theorem exists_idle_suffix (hinserted : u.inserted ≠ []) (hupdated : u.updated = [])
    (hqualifiers : u.qualifiers ≠ []) : ∃ q ∈ u.qualifiers, u.qualifiers.take 1 = [q] ∧
      assignment q [.ident q] <:+ u.onDuplicateKeyTokens := by
  obtain ⟨q, qs, hqs⟩ := List.exists_cons_of_ne_nil hqualifiers
  obtain ⟨i, is, his⟩ := List.exists_cons_of_ne_nil hinserted
  refine ⟨q, by simp [hqs], by simp [hqs], ?_⟩
  unfold onDuplicateKeyTokens
  extract_lets updates duplicate
  have hupdates : updates = assignment q [.ident q] := by
    simp only [updates, hupdated, hqs]
    rfl
  have hduplicate : duplicate = [[.word .on], [.word .duplicate], [.word .key], [.word .update]] ++
      [assignment q [.ident q]] := by
    simp only [duplicate, his, hupdates]
    rfl
  rw [hduplicate, ← List.append_assoc]
  exact suffix_spaced_append _ _

end Upsert

namespace Statement

/-- The columns that a new row gets values for. -/
def insertList (st : Statement) : List String :=
  Token.insertList st.tokens

/-- The columns that a `MERGE` binds values as. -/
def sourceList (st : Statement) : List String :=
  Token.sourceList st.tokens

/-- The columns of an existing row that are assigned something. -/
def targets (st : Statement) : List String :=
  Token.targets st.tokens

variable {st : Statement} {u : Upsert} {d : Dialect} {hint : Option String}

/-- The columns that are assigned values of the record are the updated ones. -/
theorem map_assigned (h : st.tokens = u.tokens d hint)
    (hplace : d.upsertStyle = .merge ∨ (u.inserted = [] → u.updated = [])) :
    st.assigned.map (·.1) = u.updated := by
  rw [assigned, h, Upsert.assigned_tokens _ _ _ hplace, List.map_map]
  exact List.map_id' _

/-- A new row gets values for the inserted columns. -/
theorem insertList_eq (h : st.tokens = u.tokens d hint) : st.insertList = u.inserted := by
  rw [insertList, h, Upsert.insertList_tokens]

/-- A `MERGE` binds values as the bound columns. -/
theorem sourceList_eq (h : st.tokens = u.tokens d hint) (hstyle : d.upsertStyle = .merge) :
    st.sourceList = u.bound := by
  rw [sourceList, h, Upsert.tokens, hstyle]
  exact u.sourceList_mergeTokens d hint

/-- The updated columns are assigned something, or else a qualifier is. -/
theorem targets_eq (h : st.tokens = u.tokens d hint)
    (hplace : d.upsertStyle = .merge ∨ (u.inserted = [] → u.updated = [])) :
    st.targets = if d.upsertStyle = .onDuplicateKey ∧ u.inserted ≠ [] ∧ u.updated = [] then
        u.qualifiers.take 1
      else u.updated := by
  rw [targets, h, Upsert.targets_tokens _ _ _ hplace]

end Statement

end FilterSql
