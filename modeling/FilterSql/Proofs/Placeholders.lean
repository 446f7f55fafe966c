import FilterSql.Proofs.Splitting

/-!
# Placeholders

A dialect may leave its placeholders without names. So the placeholders of every statement have to
stand in the order of its parameters: the one at position `k` from the left is that of parameter `k`.
Here it is settled which placeholders the tokens of a command have, and its text with them.

## Main definitions

* `Token.placeholders`: the placeholders among some tokens, from left to right;
* `Lexeme.placeholder?`: the text of a placeholder.

## Main results

* `Select.placeholders_tokens`, `Count.placeholders_tokens`, `Upsert.placeholders_tokens`: the
  placeholders of commands;
* `Lexeme.filterMap_placeholder?`: the placeholders of a text are those of its tokens.
-/

namespace FilterSql

namespace Token

/-- The placeholders among some tokens, from left to right. -/
@[simp]
def placeholders : List Token → List Token
  | [] => []
  | param name index :: ts => param name index :: placeholders ts
  | _ :: ts => placeholders ts

/-- The placeholder of a position is one. -/
@[simp]
theorem placeholders_slot_cons (index : Nat) (ts : List Token) :
    placeholders (slot index :: ts) = slot index :: placeholders ts := rfl

/-- The placeholders of two parts are those of the first and then those of the second. -/
@[simp]
theorem placeholders_append (ts us : List Token) :
    placeholders (ts ++ us) = placeholders ts ++ placeholders us := by
  fun_induction placeholders ts with
  | case1 => rfl
  | case2 name index ts ih => simp [ih]
  | case3 t ts hother ih => rw [List.cons_append, placeholders.eq_3 _ _ hother, ih]

/-- The placeholders of positions, each as a phrase of its own, are those of the positions. -/
@[simp]
theorem placeholders_slots (positions : List Nat) :
    (positions.map fun i => [slot i]).flatMap placeholders = positions.map slot := by
  induction positions with
  | nil => rfl
  | cons i positions ih => simpa using ih

variable {phrases : List (List Token)}

/-- A separator without placeholders adds none. -/
theorem placeholders_intercalate {sep : List Token} (h : placeholders sep = []) :
    placeholders (sep.intercalate phrases) = phrases.flatMap placeholders :=
  collect_intercalate placeholders_append h

/-- Blanks between phrases add no placeholders. -/
@[simp]
theorem placeholders_spaced : placeholders (spaced phrases) = phrases.flatMap placeholders :=
  placeholders_intercalate rfl

/-- Commas between phrases add no placeholders. -/
@[simp]
theorem placeholders_commaSeparated :
    placeholders (commaSeparated phrases) = phrases.flatMap placeholders :=
  placeholders_intercalate rfl

/-- A word between phrases adds no placeholders. -/
@[simp]
theorem placeholders_joined (w : Keyword) :
    placeholders ([space, .word w, space].intercalate phrases) = phrases.flatMap placeholders :=
  placeholders_intercalate rfl

/-- Parentheses add no placeholders. -/
@[simp]
theorem placeholders_parenthesized (phrase : List Token) :
    placeholders (parenthesized phrase) = placeholders phrase := by
  simp [parenthesized]

/-- `NOT` is no placeholder. -/
@[simp]
theorem placeholders_notPhrase (negated : Bool) : (notPhrase negated).flatMap placeholders = [] := by
  cases negated <;> rfl

/-- The tokens of a combination have the placeholders of its parts. -/
theorem placeholders_combine (conjunction : Conjunction) (negated nested : Bool)
    (parts : List (List Token)) :
    (combine conjunction negated nested parts).toList.flatMap placeholders =
      parts.flatMap placeholders := by
  cases parts with
  | nil => cases negated <;> rfl
  | cons p parts =>
    -- parentheses around the joined parts make no difference
    have hbody (wrapped : Bool) : placeholders (if wrapped then
        parenthesized ([space, .word conjunction.keyword, space].intercalate (p :: parts))
        else [space, .word conjunction.keyword, space].intercalate (p :: parts)) =
        (p :: parts).flatMap placeholders := by
      cases wrapped <;> simp
    cases negated with
    | false => simpa [combine] using hbody (nested && decide (1 < (p :: parts).length))
    | true => simp [combine]

end Token

/-- The placeholders of a relation are those of the positions that it compares with. -/
theorem Relation.placeholders_phrases (r : Relation) :
    r.phrases.flatMap Token.placeholders = r.slots.map Token.slot := by
  cases r with
  | like negated pattern escape => cases escape <;> simp [phrases, slots]
  | isNull negated => cases negated <;> simp [phrases, slots]
  | _ => simp [phrases, slots]

/-- The placeholders of a test are those of the positions that it compares with. -/
theorem Test.placeholders_tokens (t : Test) :
    Token.placeholders t.tokens = t.slots.map Token.slot := by
  simp [tokens, slots, t.relation.placeholders_phrases]

namespace Node

mutual

/-- The placeholders of a tree are those of its tests, in order. -/
theorem placeholders_phrase (n : Node Test) :
    n.phrase?.toList.flatMap Token.placeholders =
      (n.leaves.flatMap Test.slots).map Token.slot := by
  cases n with
  | leaf t => simp [phrase?, leaves, t.placeholders_tokens]
  | group conjunction negated children =>
    rw [phrase?, leaves, Token.placeholders_combine, placeholders_phrasesOf children]

/-- The placeholders of several trees are those of their tests, in order. -/
theorem placeholders_phrasesOf (ns : List (Node Test)) :
    (phrasesOf ns).flatMap Token.placeholders =
      ((leavesOf ns).flatMap Test.slots).map Token.slot := by
  cases ns with
  | nil => simp [phrasesOf, leavesOf]
  | cons child rest =>
    -- a child without a phrase has no tests, so it counts for nothing on either side
    have hchild := placeholders_phrase child
    have hrest := placeholders_phrasesOf rest
    rw [phrasesOf, leavesOf, List.flatMap_append, List.map_append, ← hchild, ← hrest]
    cases child.phrase? <;> simp

end

end Node

/-- The placeholders of a condition are those of its tests, in order. -/
theorem Group.placeholders_wherePhrases (g : Group Test) :
    g.wherePhrases.flatMap Token.placeholders = (g.leaves.flatMap Test.slots).map Token.slot := by
  have hphrase : g.phrase?.toList.flatMap Token.placeholders =
      (g.leaves.flatMap Test.slots).map Token.slot := by
    rw [phrase?, Token.placeholders_combine, Node.placeholders_phrasesOf, leaves]
  rw [wherePhrases, ← hphrase]
  cases g.phrase? <;> simp

/-- A table and its hint have no placeholders. -/
@[simp]
theorem TableName.placeholders_phrases (t : TableName) (d : Dialect) (hint : Option String) :
    (t.phrases d hint).flatMap Token.placeholders = [] := by
  unfold phrases
  split <;> rfl

/-- A hint in front of a statement has no placeholders. -/
@[simp]
theorem Dialect.placeholders_leadingHint (d : Dialect) (hint : Option String) :
    (d.leadingHint hint).flatMap Token.placeholders = [] := by
  unfold leadingHint
  split <;> rfl

/-- A list of names has no placeholders. -/
@[simp]
theorem Upsert.placeholders_nameList (names : List String) :
    Token.placeholders (nameList names) = [] := by
  simp [nameList]

namespace Select

/-- The placeholders of a `SELECT` are those of its condition. -/
theorem placeholders_tokens (s : Select) (d : Dialect) (hint : Option String) :
    Token.placeholders (s.tokens d hint) = (s.filter.leaves.flatMap Test.slots).map Token.slot := by
  have hprojection : Token.placeholders s.projection = [] := by
    unfold projection
    split <;> simp
  have horder : s.orderPhrases.flatMap Token.placeholders = [] := by
    unfold orderPhrases
    split
    · rfl
    · simp [List.flatMap_map]
  have htop : (s.window.topPhrases d).flatMap Token.placeholders = [] := by
    unfold Window.topPhrases
    split
    · split <;> simp
    · rfl
  have hwindow (limit offset : Option Int) :
      (d.windowPhrases limit offset).flatMap Token.placeholders = [] := by
    cases d <;> cases limit <;> cases offset <;> simp [Dialect.windowPhrases]
  have hend : (s.window.endPhrases d).flatMap Token.placeholders = [] := by
    unfold Window.endPhrases
    split
    · rfl
    · split
      · rfl
      · exact hwindow _ _
    · exact hwindow _ _
  simp [tokens, hprojection, horder, htop, hend,
    s.filter.placeholders_wherePhrases]

end Select

/-- The placeholders of a `SELECT COUNT(*)` are those of its condition. -/
theorem Count.placeholders_tokens (c : Count) (d : Dialect) (hint : Option String) :
    Token.placeholders (c.tokens d hint) = (c.filter.leaves.flatMap Test.slots).map Token.slot := by
  simp [tokens, c.filter.placeholders_wherePhrases]

namespace Upsert

variable (u : Upsert)

/-- Assignments of values without placeholders have none. -/
theorem placeholders_assignments (columns : List String) (value : String → List Token)
    (h : ∀ c, Token.placeholders (value c) = []) :
    Token.placeholders (assignments columns value) = [] := by
  simp [assignments, assignment, h]

/-- The placeholders of the bound values as a row source are those of all positions. -/
theorem placeholders_source :
    Token.placeholders u.source = (List.range u.bound.length).map Token.slot := by
  have hpositions : u.bound.zipIdx.map (·.2) = List.range u.bound.length := by
    rw [List.zipIdx_map_snd, List.range_eq_range']
  rw [← hpositions, List.map_map, List.map_eq_flatMap]
  simp [source, List.flatMap_map]

/-- The condition on which a bound row matches has no placeholders. -/
theorem placeholders_matching : Token.placeholders u.matching = [] := by
  simp [matching, aliased]

/-- The placeholders of a `MERGE` are those of all positions. -/
theorem placeholders_mergeTokens (d : Dialect) (hint : Option String) :
    Token.placeholders (u.mergeTokens d hint) =
      (List.range u.bound.length).map Token.slot := by
  have hvalues : (valuesPhrases u.inserted (u.inserted.map (aliased sourceAlias))).flatMap
      Token.placeholders = [] := by
    unfold valuesPhrases
    split <;> simp [aliased]
  have hassigned := placeholders_assignments u.updated (aliased sourceAlias)
    fun c => by simp [aliased]
  unfold mergeTokens
  simp only [Token.placeholders_append, Token.placeholders_spaced, List.flatMap_append, hvalues]
  -- what is left besides the source are the update and the reported column
  cases hupdated : u.updated <;> cases u.result <;> rw [hupdated] at hassigned <;>
    simp [placeholders_source, placeholders_matching, hassigned]

/-- The placeholders of an `INSERT` are those of all positions, when the bound values are those that
are inserted. -/
theorem placeholders_insertPhrases (h : u.bound = u.inserted) :
    u.insertPhrases.flatMap Token.placeholders = (List.range u.bound.length).map Token.slot := by
  have hplaceholders : u.placeholders.flatMap Token.placeholders =
      (List.range u.bound.length).map Token.slot := by
    simp [placeholders]
  unfold insertPhrases valuesPhrases
  split
  · next hnil => simp [TableName.token, h, hnil]
  · simp [TableName.token, hplaceholders]

/-- The placeholders of an `INSERT … ON CONFLICT …` are those of all positions. -/
theorem placeholders_onConflictTokens (d : Dialect) (hint : Option String)
    (h : u.bound = u.inserted) :
    Token.placeholders (u.onConflictTokens d hint) =
      (List.range u.bound.length).map Token.slot := by
  have hassigned := placeholders_assignments u.updated
    (fun c => [.word .excluded, .mark .dot, .ident c])
    fun c => by simp
  unfold onConflictTokens
  simp only [Token.placeholders_spaced, List.flatMap_append, u.placeholders_insertPhrases h,
    Dialect.placeholders_leadingHint, List.nil_append, List.append_assoc]
  rw [List.append_right_eq_self, List.append_eq_nil_iff]
  constructor
  · split
    · rfl
    · split <;> simp [hassigned]
  · split
    · split <;> simp
    · rfl

/-- The placeholders of an `INSERT … ON DUPLICATE KEY UPDATE …` are those of all positions. -/
theorem placeholders_onDuplicateKeyTokens (h : u.bound = u.inserted) :
    Token.placeholders u.onDuplicateKeyTokens = (List.range u.bound.length).map Token.slot := by
  have hassigned := placeholders_assignments u.updated
    (fun c => .word .values :: Token.parenthesized [.ident c])
    fun c => by simp
  have hkept : Token.placeholders (Token.commaSeparated
      ((u.qualifiers.take 1).map fun q => assignment q [.ident q])) = [] := by
    simp [assignment, -List.map_take]
  unfold onDuplicateKeyTokens
  simp only [Token.placeholders_spaced, List.flatMap_append, u.placeholders_insertPhrases h]
  rw [List.append_right_eq_self]
  split
  · rfl
  · split <;> simp [hassigned, hkept, -List.map_take]

/-- The placeholders of an upsert are those of all positions. Only a `MERGE` may bind other values
than it inserts. -/
theorem placeholders_tokens (d : Dialect) (hint : Option String)
    (h : d.upsertStyle = .merge ∨ u.bound = u.inserted) :
    Token.placeholders (u.tokens d hint) = (List.range u.bound.length).map Token.slot := by
  unfold tokens
  cases hstyle : d.upsertStyle with
  | merge => exact u.placeholders_mergeTokens d hint
  | onConflict => exact u.placeholders_onConflictTokens d hint (h.resolve_left (by simp [hstyle]))
  | onDuplicateKey =>
    exact u.placeholders_onDuplicateKeyTokens (h.resolve_left (by simp [hstyle]))

end Upsert

namespace Lexeme

/-- The text of a placeholder; other lexemes are none. -/
def placeholder? : Lexeme → Option (List Char)
  | placeholder text => some text
  | _ => none

/-- A fixed phrase has no placeholders. -/
theorem filterMap_placeholder?_keyword (w : Keyword) : w.lexemes.filterMap placeholder? = [] := by
  cases w <;> decide

/-- A token that is no placeholder has none among its lexemes. -/
theorem filterMap_placeholder?_lexemes (d : Dialect) {t : Token}
    (h : Token.placeholders [t] = []) : (t.lexemes d).filterMap placeholder? = [] := by
  cases t with
  | word w => exact filterMap_placeholder?_keyword w
  | mark m => cases m <;> rfl
  | qualified schema name => cases schema <;> rfl
  | param name index => cases h
  | _ => rfl

/-- The placeholders among the lexemes of some tokens are those of the placeholders among the
tokens. -/
theorem filterMap_placeholder? (d : Dialect) (ts : List Token) :
    (ts.flatMap (Token.lexemes d)).filterMap placeholder? =
      (Token.placeholders ts).map fun t => (t.render d).toList := by
  fun_induction Token.placeholders ts with
  | case1 => rfl
  | case2 name index ts ih =>
    rw [List.flatMap_cons, List.filterMap_append, ih]
    rfl
  | case3 t ts hother ih =>
    have hnone : Token.placeholders [t] = [] := Token.placeholders.eq_3 _ _ hother
    rw [List.flatMap_cons, List.filterMap_append, filterMap_placeholder?_lexemes d hnone, ih]
    rfl

end Lexeme

end FilterSql
