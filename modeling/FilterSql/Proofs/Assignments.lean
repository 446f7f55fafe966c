import FilterSql.Proofs.Merging
import FilterSql.Proofs.Precedence

/-!
# What an upsert assigns to an existing row

The three styles of an upsert each have their own form of an assignment. Read back from the tokens of
a statement, the assignments show which columns of an existing row get a value of the written record,
and so in what the styles differ: a `MERGE` also assigns a null result column, which the other two
leave to the database.

## Main definitions

* `Statement.assigned`: the columns that a statement assigns, each with the column of the written
  record that its value is taken from;
* `Token.ReadsAssignments`: a reader of tokens that finds the assignments;
* `MergeSpec.IsNullAt`: a merge has nothing but nulls for a column.

## Main results

* `Upsert.findings_tokens`: a reader of assignments finds the updated columns, or what leaves the row
  as it is;
* `Upsert.assigned_tokens`: an upsert assigns the updated columns, each its own value;
* `Builder.mem_assigned_iff`: which columns a merge assigns in a dialect;
* `Builder.assigned_agree_iff`: when two dialects assign the same columns.
-/

namespace FilterSql

variable {α : Type}

namespace Token

/-- The column of the written record that a value is taken from. -/
def recordColumn? : List Token → Option String
  | .ident source :: .mark .dot :: .ident c :: _ =>
    if source = Upsert.sourceAlias then some c else none
  | .word .excluded :: .mark .dot :: .ident c :: _ => some c
  | .word .values :: .mark .openParen :: .ident c :: .mark .closeParen :: _ => some c
  | _ => none

/-- The assignment that tokens begin with: a column, and the column of the written record that its
value is taken from. -/
def assignment? : List Token → Option (String × String)
  | .ident c :: .mark .eq :: value => (recordColumn? value).map (c, ·)
  | _ => none

/-- The assignments among some tokens. -/
def assignments (ts : List Token) : List (String × String) :=
  ts.tails.filterMap assignment?

/-- The assignments behind the first `UPDATE`. -/
def assigned (ts : List Token) : List (String × String) :=
  assignments ((blankless ts).dropWhile (· ≠ .word .update))

/-- The tokens from the first occurrence of a word on, without the blanks. -/
def behind (w : Keyword) (ts : List Token) : List Token :=
  (blankless ts).dropWhile (· ≠ .word w)

/-- All that a reader finds in some tokens, wherever it begins. -/
def findings (read : List Token → Option α) (ts : List Token) : List α :=
  ts.tails.filterMap read

/-- A word stands in a list of phrases when it stands in one of them or between them. -/
theorem mem_intercalate_iff {t : Token} {sep : List Token} (h : t ∉ sep)
    {phrases : List (List Token)} : t ∈ sep.intercalate phrases ↔ ∃ p ∈ phrases, t ∈ p := by
  induction phrases with
  | nil => simp
  | cons p phrases ih =>
    cases phrases with
    | nil => simp
    | cons q phrases => simp [List.intercalate_cons_cons, h, ih]

/-- A word in spaced phrases is in one of them. -/
@[simp]
theorem word_mem_spaced {w : Keyword} {phrases : List (List Token)} :
    .word w ∈ spaced phrases ↔ ∃ p ∈ phrases, .word w ∈ p :=
  mem_intercalate_iff (by simp)

/-- A word in a list of phrases is in one of them. -/
@[simp]
theorem word_mem_commaSeparated {w : Keyword} {phrases : List (List Token)} :
    .word w ∈ commaSeparated phrases ↔ ∃ p ∈ phrases, .word w ∈ p :=
  mem_intercalate_iff (by simp)

/-- A word between parentheses is in the phrase. -/
@[simp]
theorem word_mem_parenthesized {w : Keyword} {phrase : List Token} :
    .word w ∈ parenthesized phrase ↔ .word w ∈ phrase := by
  simp [parenthesized]

/-- Phrases without a word stand in front of its first occurrence. -/
theorem behind_spaced_append {w : Keyword} (before : List (List Token)) {after : List (List Token)}
    {rest : List Token} (h : ∀ p ∈ before, .word w ∉ p) :
    behind w (spaced (before ++ after) ++ rest) = behind w (spaced after ++ rest) := by
  have hbefore : ∀ t ∈ (before.map blankless).flatten, decide (t ≠ .word w) = true := by
    intro t ht
    obtain ⟨_, hphrase, ht⟩ := List.mem_flatten.1 ht
    obtain ⟨p, hp, rfl⟩ := List.mem_map.1 hphrase
    refine decide_eq_true ?_
    rintro rfl
    exact h p hp (List.mem_of_mem_filter ht)
  unfold behind
  rw [blankless_append, blankless_append, blankless_spaced, blankless_spaced, List.map_append,
    List.flatten_append, List.append_assoc, List.dropWhile_append_of_pos hbefore]

/-- Where a phrase is the word itself, it comes first. -/
theorem behind_spaced_word_cons (w : Keyword) (after : List (List Token)) (rest : List Token) :
    behind w (spaced ([.word w] :: after) ++ rest) =
      .word w :: ((after.map blankless).flatten ++ blankless rest) := by
  rw [behind, blankless_append, blankless_spaced, List.map_cons, List.flatten_cons]
  exact List.dropWhile_cons_of_neg (by simp)

/-- Where a reader finds nothing, its findings are those in what follows. -/
theorem findings_cons_of_none {read : List Token → Option α} {t : Token} {ts : List Token}
    (h : read (t :: ts) = none) : findings read (t :: ts) = findings read ts := by
  rw [findings, List.tails_cons, List.filterMap_cons_none h, findings]

/-- Where a reader finds something, it comes first. -/
theorem findings_cons_of_some {read : List Token → Option α} {t : Token} {ts : List Token} {a : α}
    (h : read (t :: ts) = some a) : findings read (t :: ts) = a :: findings read ts := by
  rw [findings, List.tails_cons, List.filterMap_cons_some h, findings]

/-- A column that gets its own value of the written record, in each of the three forms. -/
inductive IsRecordValue (c : String) : List Token → Prop
  | source : IsRecordValue c (Upsert.aliased Upsert.sourceAlias c)
  | excluded : IsRecordValue c [.word .excluded, .mark .dot, .ident c]
  | values : IsRecordValue c (.word .values :: parenthesized [.ident c])

/-- A reader finds `found c` where a column `c` gets its own value of the record, and `idle c` where
it is assigned to itself. -/
structure ReadsAssignments (read : List Token → Option α) (found : String → α)
    (idle : String → List α) : Prop where
  /-- Nothing is found in no tokens. -/
  nil : read [] = none
  /-- No assignment begins with a word. -/
  word : ∀ w ts, read (.word w :: ts) = none
  /-- No assignment begins with a mark. -/
  mark : ∀ m ts, read (.mark m :: ts) = none
  /-- No assignment begins with a name that no equality sign follows. -/
  ident : ∀ name ts, ts.head? ≠ some (.mark .eq) → read (.ident name :: ts) = none
  /-- A value of the record is found. -/
  record : ∀ {c value}, IsRecordValue c value → ∀ rest,
    read (.ident c :: .mark .eq :: (blankless value ++ rest)) = some (found c)
  /-- So is a column that is assigned to itself. -/
  idle : ∀ c, findings read [.ident c, .mark .eq, .ident c] = idle c

/-- The assignments of values of the record are found, and no others. -/
theorem readsAssignments_assignment? :
    ReadsAssignments assignment? (fun c => (c, c)) fun _ => [] where
  nil := rfl
  word _ _ := rfl
  mark _ _ := rfl
  ident name ts h := by
    unfold assignment?
    split
    · next heq =>
      rw [(List.cons.inj heq).2] at h
      exact absurd rfl h
    · rfl
  record h rest := by
    cases h <;> rfl
  idle _ := rfl

section

variable {read : List Token → Option α} {found : String → α} {idle : String → List α}
  (hread : ReadsAssignments read found idle)

include hread

/-- There are no findings in no tokens. -/
theorem findings_nil : findings read [] = [] := by
  exact List.filterMap_cons_none hread.nil

/-- Words are passed over. -/
theorem findings_word_cons (w : Keyword) (ts : List Token) :
    findings read (.word w :: ts) = findings read ts :=
  findings_cons_of_none (hread.word w ts)

/-- Marks are passed over. -/
theorem findings_mark_cons (m : Mark) (ts : List Token) :
    findings read (.mark m :: ts) = findings read ts :=
  findings_cons_of_none (hread.mark m ts)

/-- So are names that no equality sign follows. -/
theorem findings_ident_cons (name : String) {ts : List Token}
    (h : ts.head? ≠ some (.mark .eq)) : findings read (.ident name :: ts) = findings read ts :=
  findings_cons_of_none (hread.ident name ts h)

/-- An assignment of the record's value is read, and then what follows. -/
theorem findings_assignment {c : String} {value rest : List Token} (h : IsRecordValue c value)
    (hrest : rest.head? ≠ some (.mark .eq)) :
    findings read (blankless (Upsert.assignment c value) ++ rest) =
      found c :: findings read rest := by
  -- no assignment begins in the value
  have hvalue : findings read (blankless value ++ rest) = findings read rest := by
    have hlast := findings_ident_cons hread c hrest
    cases h with
    | source =>
      calc findings read (.ident Upsert.sourceAlias :: .mark .dot :: .ident c :: rest)
        _ = findings read (.ident c :: rest) := by
          rw [findings_ident_cons hread _ (by simp), findings_mark_cons hread]
        _ = findings read rest := hlast
    | excluded =>
      calc findings read (.word .excluded :: .mark .dot :: .ident c :: rest)
        _ = findings read (.ident c :: rest) := by
          rw [findings_word_cons hread, findings_mark_cons hread]
        _ = findings read rest := hlast
    | values =>
      calc findings read (.word .values :: .mark .openParen :: .ident c :: .mark .closeParen :: rest)
        _ = findings read (.ident c :: .mark .closeParen :: rest) := by
          rw [findings_word_cons hread, findings_mark_cons hread]
        _ = findings read rest := by
          rw [findings_ident_cons hread _ (by simp), findings_mark_cons hread]
  have hassignment : blankless (Upsert.assignment c value) ++ rest =
      .ident c :: .mark .eq :: (blankless value ++ rest) := by
    rw [Upsert.assignment, blankless_spaced]
    simp [blankless]
  rw [hassignment, findings_cons_of_some (hread.record h rest), findings_mark_cons hread, hvalue]

/-- A list of assignments of the record's values is read, and then what follows. -/
theorem findings_assignments {columns : List String} {value : String → List Token}
    {rest : List Token} (h : ∀ c, IsRecordValue c (value c))
    (hrest : rest.head? ≠ some (.mark .eq)) :
    findings read (blankless (Upsert.assignments columns value) ++ rest) =
      columns.map found ++ findings read rest := by
  rw [Upsert.assignments, blankless_commaSeparated]
  induction columns with
  | nil => simp
  | cons c columns ih =>
    cases columns with
    | nil => simpa using findings_assignment hread (h c) hrest
    | cons c' columns =>
      simp only [List.map_cons, List.intercalate_cons_cons, List.append_assoc] at ih ⊢
      rw [findings_assignment hread (h c) (by simp), List.singleton_append,
        findings_mark_cons hread, ih]
      rfl

/-- Words are passed over. -/
theorem findings_words (words : List Keyword) (ts : List Token) :
    findings read (words.map Token.word ++ ts) = findings read ts := by
  induction words with
  | nil => rfl
  | cons w words ih => exact (findings_word_cons hread w _).trans ih

/-- Behind `UPDATE` a list of assignments of the record's values is read, when nothing is assigned in
what follows. -/
theorem findings_behind_update {columns : List String} {value : String → List Token}
    (words : List Keyword) {after : List (List Token)} {rest : List Token}
    (h : ∀ c, IsRecordValue c (value c))
    (hrest : (blankless (after.flatten ++ rest)).head? ≠ some (.mark .eq))
    (hnone : findings read (blankless (after.flatten ++ rest)) = []) :
    findings read (behind .update (spaced ([.word .update] :: words.map (fun w => [.word w]) ++
      Upsert.assignments columns value :: after) ++ rest)) = columns.map found := by
  have hafter : blankless (after.flatten ++ rest) =
      (after.map blankless).flatten ++ blankless rest := by
    rw [blankless_append, blankless, List.filter_flatten]
    rfl
  have hwords : ((words.map fun w => [Token.word w]).map blankless).flatten =
      words.map Token.word := by
    induction words with
    | nil => rfl
    | cons w words ih => exact congrArg (Token.word w :: ·) ih
  rw [hafter] at hrest hnone
  rw [List.cons_append, behind_spaced_word_cons, findings_word_cons hread,
    List.map_append, List.flatten_append, hwords, List.map_cons, List.flatten_cons,
    List.append_assoc, List.append_assoc, findings_words hread, findings_assignments hread h hrest,
    hnone, List.append_nil]

end

end Token

namespace Upsert

variable (u : Upsert) {w : Keyword}

/-- A table is named without words. -/
theorem word_not_mem_phrases (t : TableName) (d : Dialect) (hint : Option String) :
    ∀ p ∈ t.phrases d hint, .word w ∉ p := by
  unfold TableName.phrases
  split <;> simp [TableName.token]

/-- A hint in front of a statement has no words. -/
theorem word_not_mem_leadingHint (d : Dialect) (hint : Option String) :
    ∀ p ∈ d.leadingHint hint, .word w ∉ p := by
  unfold Dialect.leadingHint
  split <;> simp

/-- A list of names has no words. -/
theorem word_not_mem_nameList (w : Keyword) (names : List String) :
    .word w ∉ nameList names := by
  simp [nameList]

/-- The values of a new row are written with two words of their own. -/
theorem word_not_mem_valuesPhrases (columns : List String) {values : List (List Token)}
    (hw : w ≠ .default ∧ w ≠ .values) (h : ∀ v ∈ values, .word w ∉ v) :
    ∀ p ∈ valuesPhrases columns values, .word w ∉ p := by
  unfold valuesPhrases
  split
  · simpa using hw
  · simpa [word_not_mem_nameList, hw.2] using h

/-- The `INSERT` of a row is written with four words of its own. -/
theorem word_not_mem_insertPhrases
    (hw : w ≠ .insert ∧ w ≠ .into ∧ w ≠ .default ∧ w ≠ .values) :
    ∀ p ∈ u.insertPhrases, .word w ∉ p := by
  have hvalues := word_not_mem_valuesPhrases u.inserted hw.2.2
    (show ∀ v ∈ u.placeholders, .word w ∉ v by simp [placeholders, Token.slot])
  unfold insertPhrases
  simpa [TableName.token, hw.1, hw.2.1] using hvalues

/-- The condition on which a bound row matches has one word between equalities. -/
theorem word_not_mem_matching (hw : w ≠ .and) : .word w ∉ u.matching := by
  rw [matching, Token.word_mem_parenthesized, Token.mem_intercalate_iff (by simpa using hw)]
  simp [aliased]

/-- The bound values as a row source are written with two words. -/
theorem word_not_mem_source (hw : w ≠ .select ∧ w ≠ .as) : .word w ∉ u.source := by
  simp [source, Token.slot, hw]

section

variable {read : List Token → Option α} {found : String → α} {idle : String → List α}
  (hread : Token.ReadsAssignments read found idle)

include hread

open Token

/-- In a `MERGE` a reader of assignments finds the updated columns. -/
theorem findings_mergeTokens (d : Dialect) (hint : Option String) :
    findings read (behind .update (u.mergeTokens d hint)) = u.updated.map found := by
  have htable := word_not_mem_phrases (w := .update) u.table d hint
  have hvalues := word_not_mem_valuesPhrases u.inserted (w := .update) (by simp)
    (show ∀ v ∈ u.inserted.map (aliased sourceAlias), .word .update ∉ v by simp [aliased])
  have hsource := u.word_not_mem_source (w := .update) (by simp)
  have hmatching := u.word_not_mem_matching (w := .update) (by simp)
  unfold mergeTokens
  extract_lets update output
  -- nothing is assigned in the phrases that report a column
  have houtput : behind .update (spaced output ++ [.mark .semicolon]) = [] ∧
      findings read (blankless (output.flatten ++ [.mark .semicolon])) = [] ∧
      (blankless (output.flatten ++ [.mark .semicolon])).head? ≠ some (.mark .eq) := by
    cases hresult : u.result with
    | none =>
      simp only [output, hresult]
      exact ⟨rfl, (findings_mark_cons hread _ _).trans (findings_nil hread), by decide⟩
    | some c =>
      simp only [output, hresult]
      refine ⟨rfl, ?_, by simp [blankless]⟩
      calc findings read [.word .output, .word .inserted, .mark .dot, .ident c, .word .as,
            .ident resultAlias, .mark .semicolon]
        _ = findings read [.ident c, .word .as, .ident resultAlias, .mark .semicolon] := by
          rw [findings_word_cons hread, findings_word_cons hread, findings_mark_cons hread]
        _ = [] := by
          rw [findings_ident_cons hread _ (by simp), findings_word_cons hread,
            findings_ident_cons hread _ (by simp), findings_mark_cons hread, findings_nil hread]
  -- the groups of phrases up to the values of the new row are left out one by one
  simp only [List.append_assoc]
  rw [behind_spaced_append, behind_spaced_append _ htable,
    behind_spaced_append, behind_spaced_append _ hvalues]
  · cases hupdated : u.updated with
    | nil =>
      simp only [update, hupdated, List.nil_append]
      rw [houtput.1, findings_nil hread, List.map_nil]
    | cons c columns =>
      simp only [update, hupdated]
      refine (congrArg (findings read) (behind_spaced_append
        [[.word .when], [.word .matched], [.word .then]] (by simp))).trans ?_
      exact findings_behind_update hread [.set] (fun _ => .source) houtput.2.2 houtput.2.1
  · simp [hsource, hmatching]
  · simp

/-- In an `INSERT … ON CONFLICT …` a reader of assignments finds the updated columns. Without a value
for a new row there must be none. -/
theorem findings_onConflictTokens (d : Dialect) (hint : Option String)
    (h : u.inserted = [] → u.updated = []) :
    findings read (behind .update (u.onConflictTokens d hint)) = u.updated.map found := by
  unfold onConflictTokens
  extract_lets conflict returning
  -- nothing is assigned in the phrases that report a column, whatever stands in front of them
  have hreturning : behind .update (spaced returning ++ []) = [] ∧
      findings read (blankless (returning.flatten ++ [])) = [] ∧
      (blankless (returning.flatten ++ [])).head? ≠ some (.mark .eq) := by
    have hcolumn (c : String) : findings read [.word .returning, .ident c] = [] := by
      rw [findings_word_cons hread, findings_ident_cons hread _ (by simp), findings_nil hread]
    cases hresult : u.result <;> cases hreturns : d.hasReturning <;>
      simp only [returning, hresult, hreturns] <;> refine ⟨rfl, ?_, by simp [blankless]⟩
    case some.true => exact hcolumn _
    all_goals exact findings_nil hread
  rw [← List.append_nil (spaced _), List.append_assoc, List.append_assoc,
    behind_spaced_append _ (word_not_mem_leadingHint d hint),
    behind_spaced_append _ (u.word_not_mem_insertPhrases (by simp))]
  cases hinserted : u.inserted with
  | nil =>
    rw [h hinserted]
    simp only [conflict, hinserted, List.isEmpty_nil, if_true, List.nil_append, hreturning.1]
    rw [findings_nil hread, List.map_nil]
  | cons i is =>
    simp only [conflict, hinserted, List.isEmpty_cons, Bool.false_eq_true, if_false,
      List.append_assoc]
    rw [behind_spaced_append _ (by simp [word_not_mem_nameList])]
    cases hupdated : u.updated with
    | nil =>
      rw [behind_spaced_append [[.word .nothing]] (by simp), hreturning.1, findings_nil hread,
        List.map_nil]
    | cons c columns =>
      exact findings_behind_update hread [.set] (fun _ => .excluded) hreturning.2.2 hreturning.2.1

/-- In an `INSERT … ON DUPLICATE KEY UPDATE …` a reader of assignments finds the updated columns, or
else the qualifier that is assigned to itself. Without a value for a new row there must be none. -/
theorem findings_onDuplicateKeyTokens (h : u.inserted = [] → u.updated = []) :
    findings read (behind .update u.onDuplicateKeyTokens) =
      if u.inserted ≠ [] ∧ u.updated = [] then (u.qualifiers.take 1).flatMap idle
      else u.updated.map found := by
  unfold onDuplicateKeyTokens
  extract_lets updates duplicate
  rw [← List.append_nil (spaced _),
    behind_spaced_append _ (u.word_not_mem_insertPhrases (by simp))]
  cases hinserted : u.inserted with
  | nil =>
    rw [h hinserted]
    simp only [duplicate, hinserted]
    exact findings_nil hread
  | cons i is =>
    simp only [duplicate, hinserted, List.isEmpty_cons, Bool.false_eq_true, if_false]
    refine (congrArg (findings read) (behind_spaced_append
      [[.word .on], [.word .duplicate], [.word .key]] (by simp))).trans ?_
    cases hupdated : u.updated with
    | nil =>
      -- the row is left as it is
      simp only [updates, hupdated]
      cases u.qualifiers with
      | nil => exact (findings_word_cons hread _ _).trans (findings_nil hread)
      | cons q qs =>
        refine (findings_word_cons hread _ _).trans ((hread.idle q).trans ?_)
        simp
    | cons c columns =>
      simp only [updates, hupdated]
      exact findings_behind_update hread [] (fun _ => .values) (by simp [blankless])
        (findings_nil hread)

/-- In an upsert a reader of assignments finds the updated columns, or else the qualifier that is
assigned to itself. Only a `MERGE` may assign columns that a new row has no value for. -/
theorem findings_tokens (d : Dialect) (hint : Option String)
    (h : d.upsertStyle = .merge ∨ (u.inserted = [] → u.updated = [])) :
    findings read (behind .update (u.tokens d hint)) =
      if d.upsertStyle = .onDuplicateKey ∧ u.inserted ≠ [] ∧ u.updated = [] then
        (u.qualifiers.take 1).flatMap idle
      else u.updated.map found := by
  unfold tokens
  cases hstyle : d.upsertStyle with
  | merge => simpa using u.findings_mergeTokens hread d hint
  | onConflict =>
    simpa using u.findings_onConflictTokens hread d hint (h.resolve_left (by simp [hstyle]))
  | onDuplicateKey =>
    simpa using u.findings_onDuplicateKeyTokens hread (h.resolve_left (by simp [hstyle]))

end

/-- An upsert assigns the updated columns, each its own value. -/
theorem assigned_tokens (d : Dialect) (hint : Option String)
    (h : d.upsertStyle = .merge ∨ (u.inserted = [] → u.updated = [])) :
    Token.assigned (u.tokens d hint) = u.updated.map fun c => (c, c) := by
  have hfindings := u.findings_tokens Token.readsAssignments_assignment? d hint h
  -- a column that is assigned to itself takes no value of the record
  refine hfindings.trans ?_
  split
  · next hidle => rw [hidle.2.2]; simp
  · rfl

end Upsert

/-- The columns that a statement assigns to an existing row, each with the column of the written
record that its value is taken from. -/
def Statement.assigned (st : Statement) : List (String × String) :=
  Token.assigned st.tokens

/-- All that a merged record holds for a column is null. -/
def MergeSpec.IsNullAt (spec : MergeSpec) (s : Scope) (column : String) : Prop :=
  ∀ entry ∈ spec.record.entries,
    s.entity.columnOf s.fieldCase entry.1 = column → entry.2.isNull = true

/-- Only a `MERGE` updates columns that it does not insert. -/
theorem MergeKeys.updated_subset_inserted {keys : MergeKeys} {style : UpsertStyle}
    {table : TableName} {members : List Member} (h : style ≠ .merge) :
    (keys.plan style table members).1.updated ⊆ (keys.plan style table members).1.inserted := by
  intro c hc
  simp only [plan, h, if_false, List.mem_filter, List.contains_eq_mem, decide_eq_true_eq] at hc
  simp only [plan, h, if_false]
  exact hc.2

namespace MergeSpec

variable (spec : MergeSpec) (s : Scope) (types : TypeChain)

/-- The columns that are written into an existing row at most: those of the record but for the
matched ones and the identity. -/
theorem mem_updatable_iff {c : String} :
    c ∈ (spec.keys s).updatable (spec.located s types) ↔
      c ∈ spec.record.names.map (s.entity.columnOf s.fieldCase) ∧ c ∉ spec.matchColumns s ∧
        s.entity.identityColumn? ≠ some c := by
  simp only [MergeKeys.updatable, map_column_located, List.mem_filter, Bool.and_eq_true,
    Bool.not_eq_true', List.contains_eq_mem, decide_eq_false_iff_not]
  rfl

/-- A column of the record that is not the identity gets a value in a new row, unless it is the
result column and all that the record holds for it is null. -/
theorem mem_inserted_iff {c : String} (style : UpsertStyle)
    (hc : c ∈ spec.record.names.map (s.entity.columnOf s.fieldCase))
    (hidentity : s.entity.identityColumn? ≠ some c) :
    c ∈ ((spec.keys s).insertable style (spec.located s types)).map (·.column.name) ↔
      ¬ (s.entity.resultColumn? spec.keyColumns = some c ∧ spec.IsNullAt s c) := by
  have hinserted : c ∈ ((spec.keys s).insertable style (spec.located s types)).map (·.column.name) ↔
      ∃ entry ∈ spec.record.entries, s.entity.columnOf s.fieldCase entry.1 = c ∧
        ¬ (s.entity.resultColumn? spec.keyColumns = some c ∧ entry.2.isNull = true) := by
    simp only [MergeKeys.insertable, located, List.filter_map, List.map_map, List.mem_map,
      List.mem_filter, Function.comp_apply, s.column_name]
    constructor
    · rintro ⟨entry, ⟨hentry, hgenerated⟩, rfl⟩
      refine ⟨entry, hentry, rfl, ?_⟩
      rintro ⟨hresult, hnull⟩
      simp [MergeKeys.isGenerated, keys, s.column_name, hresult, hnull] at hgenerated
    · rintro ⟨entry, hentry, rfl, hopen⟩
      refine ⟨entry, ⟨hentry, ?_⟩, rfl⟩
      simpa [MergeKeys.isGenerated, keys, s.column_name, hidentity, imp_iff_not_or] using hopen
  -- several members may stand for the column: one of them with a value is enough
  obtain ⟨name, hname, rfl⟩ := List.mem_map.1 hc
  obtain ⟨entry, hentry, rfl⟩ := List.mem_map.1 hname
  rw [hinserted]
  constructor
  · rintro ⟨entry', hentry', hcolumn, hopen⟩ ⟨hresult, hnull⟩
    exact hopen ⟨hresult, hnull entry' hentry' hcolumn⟩
  · intro hopen
    by_contra hnone
    push Not at hnone
    exact hopen ⟨(hnone entry hentry rfl).1, fun entry' hentry' h => (hnone entry' hentry' h).2⟩

/-- Which columns of an existing row a merge writes. -/
theorem mem_updated_plan_iff {c : String} (style : UpsertStyle) (table : TableName) :
    c ∈ ((spec.keys s).plan style table (spec.located s types)).1.updated ↔
      c ∈ spec.record.names.map (s.entity.columnOf s.fieldCase) ∧ c ∉ spec.matchColumns s ∧
        s.entity.identityColumn? ≠ some c ∧ (style = .merge ∨
          ¬ (s.entity.resultColumn? spec.keyColumns = some c ∧ spec.IsNullAt s c)) := by
  unfold MergeKeys.plan
  by_cases hstyle : style = .merge
  · simp only [hstyle, if_true, mem_updatable_iff, true_or, and_true]
  · simp only [hstyle, if_false, false_or, List.mem_filter, mem_updatable_iff,
      List.contains_eq_mem, decide_eq_true_eq, and_assoc]
    refine and_congr_right fun hc => and_congr_right fun _ => and_congr_right fun hidentity => ?_
    exact spec.mem_inserted_iff s types style hc hidentity

end MergeSpec

namespace Builder

variable {b b' : Builder} {r : Request} {spec : MergeSpec} {types types' types₁ types₁' : TypeChain}
  {st st' : Statement}

/-- The upsert that a built merge is written from. Outside of a `MERGE` a statement without values for
a new row has no place for assignments, but then there are none. -/
theorem exists_upsert_of_run (hop : r.operation = .merge spec)
    (h : b.run r types = (.ok st, types')) :
    ∃ u, ((spec.keys (b.scope r.entity)).plan b.dialect.upsertStyle r.entity.table
        (spec.located (b.scope r.entity) types)).1 = u ∧
      st.tokens = u.tokens b.dialect st.hint ∧
      (b.dialect.upsertStyle = .merge ∨ (u.inserted = [] → u.updated = [])) ∧
      spec.matchColumns (b.scope r.entity) ≠ [] ∧
      ∀ q ∈ spec.matchColumns (b.scope r.entity),
        q ∈ spec.record.names.map (r.entity.columnOf b.fieldCase) := by
  obtain ⟨u, hcommand, hplan⟩ := run_merge h hop
  obtain ⟨-, hnonempty, hcarried, -, hplan⟩ := MergeSpec.plan_eq_ok hplan
  have hdialect : st.dialect = b.dialect := (run_eq_ok h).1
  obtain rfl := congrArg Prod.fst hplan
  refine ⟨_, rfl, ?_, ?_, hnonempty, hcarried⟩
  · rw [Statement.tokens, hcommand, hdialect]
    rfl
  · rw [or_iff_not_imp_left]
    intro hstyle hnil
    exact List.eq_nil_of_subset_nil (hnil ▸ MergeKeys.updated_subset_inserted hstyle)

/-- Which columns of an existing row a built merge assigns, and from what. -/
theorem mem_assigned_iff (hop : r.operation = .merge spec) (h : b.run r types = (.ok st, types'))
    {c c' : String} :
    (c, c') ∈ st.assigned ↔
      c' = c ∧ c ∈ spec.record.names.map (r.entity.columnOf b.fieldCase) ∧
        c ∉ spec.matchColumns (b.scope r.entity) ∧ r.entity.identityColumn? ≠ some c ∧
        (b.dialect.upsertStyle = .merge ∨ ¬ (r.entity.resultColumn? spec.keyColumns = some c ∧
          spec.IsNullAt (b.scope r.entity) c)) := by
  obtain ⟨u, hplan, htokens, hinserted, -, -⟩ := exists_upsert_of_run hop h
  have hupdated := spec.mem_updated_plan_iff (b.scope r.entity) types (c := c)
    b.dialect.upsertStyle r.entity.table
  rw [hplan] at hupdated
  refine Iff.trans ?_ (and_congr_right fun _ => hupdated)
  rw [Statement.assigned, htokens, Upsert.assigned_tokens _ _ _ hinserted, List.mem_map]
  constructor
  · rintro ⟨a, ha, heq⟩
    obtain ⟨rfl, rfl⟩ := Prod.mk.inj heq
    exact ⟨rfl, ha⟩
  · rintro ⟨rfl, hc⟩
    exact ⟨_, hc, rfl⟩

/-- Which columns of an existing row a built merge assigns. -/
theorem mem_map_assigned_iff (hop : r.operation = .merge spec)
    (h : b.run r types = (.ok st, types')) {c : String} :
    c ∈ st.assigned.map (·.1) ↔
      (c ∈ spec.record.names.map (r.entity.columnOf b.fieldCase) ∧
        c ∉ spec.matchColumns (b.scope r.entity) ∧ r.entity.identityColumn? ≠ some c) ∧
        (b.dialect.upsertStyle = .merge ∨ ¬ (r.entity.resultColumn? spec.keyColumns = some c ∧
          spec.IsNullAt (b.scope r.entity) c)) := by
  simp only [List.mem_map, Prod.exists, mem_assigned_iff hop h]
  constructor
  · rintro ⟨_, _, ⟨-, hc, hmatch, hidentity, hopen⟩, rfl⟩
    exact ⟨⟨hc, hmatch, hidentity⟩, hopen⟩
  · rintro ⟨⟨hc, hmatch, hidentity⟩, hopen⟩
    exact ⟨c, c, ⟨rfl, hc, hmatch, hidentity, hopen⟩, rfl⟩

/-- When two dialects assign the same columns to an existing row, and what none of them assigns. The
columns are the same if both or none write a `MERGE`, and else exactly if no null is held for a result
column that rows are not matched on and that is no identity. Every column gets its own value, the
identity none, and a result column without a value is only ever assigned by a `MERGE`. -/
theorem assigned_agree_iff (hcase : b.fieldCase = b'.fieldCase)
    (hop : r.operation = .merge spec) (h : b.run r types = (.ok st, types₁))
    (h' : b'.run r types' = (.ok st', types₁')) :
    ((∀ c, c ∈ st.assigned.map (·.1) ↔ c ∈ st'.assigned.map (·.1)) ↔
      (b.dialect.upsertStyle = .merge ↔ b'.dialect.upsertStyle = .merge) ∨
        ¬ ∃ c ∈ spec.record.names.map (r.entity.columnOf b.fieldCase),
          r.entity.resultColumn? spec.keyColumns = some c ∧ spec.IsNullAt (b.scope r.entity) c ∧
            c ∉ spec.matchColumns (b.scope r.entity) ∧ r.entity.identityColumn? ≠ some c) ∧
      ∀ c c', (c, c') ∈ st.assigned →
        c' = c ∧ r.entity.identityColumn? ≠ some c ∧
          (r.entity.resultColumn? spec.keyColumns = some c → spec.IsNullAt (b.scope r.entity) c →
            b.dialect.upsertStyle = .merge) := by
  have hscope : b'.scope r.entity = b.scope r.entity := by
    rw [scope, scope, hcase]
  constructor
  · simp only [mem_map_assigned_iff hop h, mem_map_assigned_iff hop h', hscope, ← hcase]
    constructor
    · intro hsame
      rw [or_iff_not_imp_left]
      rintro hstyles ⟨c, hc, hresult, hnull, hmatch, hidentity⟩
      -- only the dialect that writes a `MERGE` assigns this column
      have := hsame c
      tauto
    · rintro (hstyles | hnone) c
      · rw [hstyles]
      · refine and_congr_right ?_
        rintro ⟨hc, hmatch, hidentity⟩
        have hopen : ¬ (r.entity.resultColumn? spec.keyColumns = some c ∧
            spec.IsNullAt (b.scope r.entity) c) :=
          fun hwithheld => hnone ⟨c, hc, hwithheld.1, hwithheld.2, hmatch, hidentity⟩
        simp only [hopen, not_false_eq_true, or_true]
  · intro c c' hassigned
    obtain ⟨rfl, -, -, hidentity, hopen⟩ := (mem_assigned_iff hop h).1 hassigned
    exact ⟨rfl, hidentity, fun hresult hnull =>
      hopen.resolve_right fun hwithheld => hwithheld ⟨hresult, hnull⟩⟩

/-- With a generated key all styles leave the key alone and assign the name only. -/
theorem assigned_agree_identity :
    let e : Entity :=
      { name := "E", table := { name := "E" }
        properties := [{ name := "Id", kind := .int, primary := true, identity := true },
          { name := "Email", kind := .text }, { name := "Name", kind := .text }] }
    let r : Request :=
      { entity := e
        operation := .merge
          { record := ⟨[("Id", .null), ("Email", .text "x"), ("Name", .text "y")]⟩
            qualifiers := [{ name := "Email" }] } }
    ∃ st st' types types', run { dialect := .tsql } r {} = (.ok st, types) ∧
      run { dialect := .postgres } r {} = (.ok st', types') ∧
      st.assigned = [("Name", "Name")] ∧
      ∀ c, c ∈ st.assigned.map (·.1) ↔ c ∈ st'.assigned.map (·.1) := by
  intro e r
  have hrun : run { dialect := .tsql } r {} = (.ok _, _) := rfl
  have hrun' : run { dialect := .postgres } r {} = (.ok _, _) := rfl
  have hcase : Builder.fieldCase { dialect := .tsql } = Builder.fieldCase { dialect := .postgres } :=
    rfl
  refine ⟨_, _, _, _, hrun, hrun', by decide,
    (assigned_agree_iff hcase rfl hrun hrun').1.2 (.inr ?_)⟩
  rintro ⟨c, -, hresult, -, -, hidentity⟩
  exact hidentity hresult

/-- A null key that the database does not generate is written over in a `MERGE` that matches rows on
another column, and left alone by the other styles. -/
theorem assigned_null_key :
    let e : Entity :=
      { name := "E", table := { name := "E" }
        properties := [{ name := "Id", kind := .int, primary := true },
          { name := "Email", kind := .text }, { name := "Name", kind := .text }] }
    let r : Request :=
      { entity := e
        operation := .merge
          { record := ⟨[("Id", .null), ("Email", .text "x"), ("Name", .text "y")]⟩
            qualifiers := [{ name := "Email" }] } }
    ∃ st st' types types', run { dialect := .tsql } r {} = (.ok st, types) ∧
      run { dialect := .sqlite } r {} = (.ok st', types') ∧
      st.assigned = [("Id", "Id"), ("Name", "Name")] ∧ st'.assigned = [("Name", "Name")] ∧
      ¬ ∀ c, c ∈ st.assigned.map (·.1) ↔ c ∈ st'.assigned.map (·.1) := by
  exact ⟨_, _, _, _, rfl, rfl, by decide, by decide,
    fun hsame => absurd ((hsame "Id").1 (by decide)) (by decide)⟩

end Builder

end FilterSql
