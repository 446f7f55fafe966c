import FilterSql.Proofs.Assignments

/-!
# Which tokens a clause is made of

A clause of a statement can only be told from the others by its words when these stand in no other
clause. Conditions are the clause that may grow without bound; whatever their shape, they are made of
a few kinds of tokens.

## Main definitions

* `Token.InCondition`: the tokens that conditions are made of.

## Main results

* `Group.inCondition_wherePhrases`: a condition is made of these tokens.
-/

namespace FilterSql

namespace Token

/-- The tokens that conditions are made of. Tables, text of the caller and the words of the other
clauses are none of them. -/
def InCondition : Token → Prop
  | word w => w ∈ [Keyword.and, .or, .not, .in, .between, .like, .escape, .isNull, .isNotNull]
  | qualified _ _ | raw _ => False
  | _ => True

variable {P : Token → Prop} {phrases : List (List Token)}

/-- What holds of a separator and of some phrases holds of the phrases with the separator between
each two. -/
theorem forall_mem_intercalate {sep : List Token} (hsep : ∀ t ∈ sep, P t)
    (h : ∀ p ∈ phrases, ∀ t ∈ p, P t) : ∀ t ∈ sep.intercalate phrases, P t :=
  intercalate_induction (P := fun ts => ∀ t ∈ ts, P t) (by simp)
    (fun hts hus => List.forall_mem_append.2 ⟨List.forall_mem_append.2 ⟨hts, hsep⟩, hus⟩) h

/-- What holds of the blank and of some phrases holds of the phrases with blanks between them. -/
theorem forall_mem_spaced (hspace : P space) (h : ∀ p ∈ phrases, ∀ t ∈ p, P t) :
    ∀ t ∈ spaced phrases, P t :=
  forall_mem_intercalate (by simpa using hspace) h

/-- What holds of comma and blank and of some phrases holds of the list of the phrases. -/
theorem forall_mem_commaSeparated (hcomma : P (.mark .comma)) (hspace : P space)
    (h : ∀ p ∈ phrases, ∀ t ∈ p, P t) : ∀ t ∈ commaSeparated phrases, P t :=
  forall_mem_intercalate (by simpa using ⟨hcomma, hspace⟩) h

/-- What holds of the parentheses and of a phrase holds of the phrase between parentheses. -/
theorem forall_mem_parenthesized (hopen : P (.mark .openParen)) (hclose : P (.mark .closeParen))
    {phrase : List Token} (h : ∀ t ∈ phrase, P t) : ∀ t ∈ parenthesized phrase, P t := by
  intro t ht
  rw [parenthesized, List.mem_append, List.mem_cons, List.mem_singleton] at ht
  obtain (rfl | ht) | rfl := ht
  · exact hopen
  · exact h t ht
  · exact hclose

end Token

open Token

/-- `NOT` in front of a test stands in conditions. -/
theorem Token.inCondition_notPhrase (negated : Bool) :
    ∀ p ∈ notPhrase negated, ∀ t ∈ p, t.InCondition := by
  cases negated <;> simp [notPhrase, InCondition]

/-- A test is made of tokens of conditions. -/
theorem Test.inCondition_tokens (t : Test) : ∀ u ∈ t.tokens, u.InCondition := by
  refine forall_mem_spaced (P := InCondition) trivial ?_
  rw [List.forall_mem_cons]
  refine ⟨by simp [InCondition], ?_⟩
  cases t.relation with
  | compare op operand => simp [Relation.phrases, slot, InCondition]
  | like negated pattern escape =>
    simp only [Relation.phrases, List.forall_mem_append]
    refine ⟨⟨inCondition_notPhrase negated, by simp [slot, InCondition]⟩, ?_⟩
    cases escape <;> simp [InCondition]
  | isIn negated operands =>
    have hslots : ∀ p ∈ operands.map fun i => [slot i], ∀ t ∈ p, t.InCondition := by
      simp [slot, InCondition]
    have hlist : ∀ t ∈ parenthesized (commaSeparated (operands.map fun i => [slot i])),
        t.InCondition :=
      forall_mem_parenthesized trivial trivial (forall_mem_commaSeparated trivial trivial hslots)
    simp only [Relation.phrases, List.forall_mem_append]
    refine ⟨inCondition_notPhrase negated, ?_⟩
    simpa [InCondition] using hlist
  | between negated low high =>
    simp only [Relation.phrases, List.forall_mem_append]
    exact ⟨inCondition_notPhrase negated, by simp [slot, InCondition]⟩
  | isNull negated => cases negated <;> simp [Relation.phrases, InCondition]

/-- A combination of parts is made of tokens of conditions when its parts are. -/
theorem Token.inCondition_combine {conjunction : Conjunction} {negated nested : Bool}
    {parts : List (List Token)} (h : ∀ p ∈ parts, ∀ t ∈ p, t.InCondition) {phrase : List Token}
    (hphrase : combine conjunction negated nested parts = some phrase) :
    ∀ t ∈ phrase, t.InCondition := by
  unfold combine at hphrase
  split at hphrase
  · split at hphrase
    · obtain rfl := Option.some.inj hphrase
      exact forall_mem_spaced trivial (by simp [InCondition])
    · cases hphrase
  · have hjoined : ∀ t ∈ [space, .word conjunction.keyword, space].intercalate parts,
        t.InCondition := by
      refine forall_mem_intercalate ?_ h
      cases conjunction <;> simp [Conjunction.keyword, InCondition]
    obtain rfl := Option.some.inj hphrase
    -- neither parentheses nor `NOT` bring in other tokens
    have hbody (wrapped : Bool) : ∀ t ∈ (if wrapped then
        parenthesized ([space, .word conjunction.keyword, space].intercalate parts)
        else [space, .word conjunction.keyword, space].intercalate parts), t.InCondition := by
      cases wrapped
      · exact hjoined
      · exact forall_mem_parenthesized trivial trivial hjoined
    split
    · rw [List.forall_mem_cons, List.forall_mem_cons]
      exact ⟨by simp [InCondition], trivial, hbody _⟩
    · exact hbody _

namespace Node

mutual

/-- The phrase of a tree is made of tokens of conditions. -/
theorem inCondition_phrase {n : Node Test} {phrase : List Token} (h : n.phrase? = some phrase) :
    ∀ t ∈ phrase, t.InCondition := by
  cases n with
  | leaf t =>
    obtain rfl := Option.some.inj h
    exact t.inCondition_tokens
  | group conjunction negated children =>
    exact inCondition_combine (inCondition_phrasesOf children) h

/-- The phrases of several trees are made of tokens of conditions. -/
theorem inCondition_phrasesOf (ns : List (Node Test)) :
    ∀ p ∈ phrasesOf ns, ∀ t ∈ p, t.InCondition := by
  cases ns with
  | nil => simp [phrasesOf]
  | cons child rest =>
    rw [phrasesOf]
    split
    · next p hp =>
      exact List.forall_mem_cons.2 ⟨inCondition_phrase hp, inCondition_phrasesOf rest⟩
    · exact inCondition_phrasesOf rest

end

end Node

/-- Besides its first word, the condition of a statement is made of tokens of conditions. -/
theorem Group.inCondition_wherePhrases (g : Group Test) :
    ∀ p ∈ g.wherePhrases, ∀ t ∈ p, t = .word .where ∨ t.InCondition := by
  unfold wherePhrases
  split
  · next phrase hphrase =>
    have h := inCondition_combine (Node.inCondition_phrasesOf g.children) hphrase
    simpa using fun t ht => .inr (h t ht)
  · simp

end FilterSql
