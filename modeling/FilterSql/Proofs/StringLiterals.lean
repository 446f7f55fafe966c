import FilterSql.Proofs.Requests
import FilterSql.Proofs.Separation

/-!
# String literals are read back

A string literal is written in the same way for every dialect: between quotes, with the quotes
inside it written twice. Not every dialect reads it so. In MySQL a backslash takes the next
character with it, and a backslash at the end of a literal takes the closing quote. A literal
therefore denotes its text in the other three dialects, and in MySQL as long as each backslash
stands in front of one of the two characters that it leaves alone.

## Main definitions

* `Dialect.readString`: how a dialect reads a string literal;
* `KeepsBackslashes`: a text with backslashes in front of percent signs and underscores only;
* `Token.literals`, `Token.LiteralsClosed`: the literals among some tokens, and that none of them
  runs into the token behind it.

## Main results

* `Dialect.readString_literal_iff`: the literals that denote their texts;
* `Select.literals_tokens`, `Count.literals_tokens`: the literals of a statement are the escape
  characters of its tests;
* `Builder.literals_read_iff`: where the escape characters of conditions are read back.
-/

namespace FilterSql

namespace Text

/-- A text with its delimiters twice is longer by their number. -/
theorem length_doubled (q : Char) (s : List Char) :
    (doubled q s).length = s.length + s.count q := by
  induction s with
  | nil => rfl
  | cons c s ih =>
    rw [doubled_cons, List.length_append, ih]
    by_cases hc : c = q
    · simp only [hc, if_true, List.length_cons, List.length_nil, List.count_cons_self]
      omega
    · simp only [hc, if_false, List.length_cons, List.length_nil, List.count_cons_of_ne hc]
      omega

/-- A text with its delimiters twice has twice as many of them. -/
theorem count_doubled (q : Char) (s : List Char) : (doubled q s).count q = 2 * s.count q := by
  induction s with
  | nil => rfl
  | cons c s ih =>
    rw [doubled_cons, List.count_append, ih]
    by_cases hc : c = q
    · simp only [hc, if_true, List.count_cons_self, List.count_nil]
      omega
    · simp only [hc, if_false, List.count_cons_of_ne hc, List.count_nil]
      omega

end Text

/-! ### Reading strings -/

namespace Dialect

/-- Whether a backslash in a string literal takes the next character with it. -/
def hasBackslashEscapes : Dialect → Bool
  | mysql => true
  | _ => false

/-- What a backslash and the character behind it stand for in a literal. For the sake of patterns
the backslash stays in front of a percent sign and an underscore; in front of a character without a
meaning of its own it is dropped. -/
def unescaped : Char → List Char
  | '0' => ['\x00']
  | 'b' => ['\x08']
  | 'n' => ['\n']
  | 'r' => ['\r']
  | 't' => ['\t']
  | 'Z' => ['\x1a']
  | '%' => ['\\', '%']
  | '_' => ['\\', '_']
  | c => [c]

/-- Read a string literal behind its opening quote: the text that it denotes, and what follows its
closing quote. A literal that never closes is refused. -/
def readBody (d : Dialect) : List Char → Option (List Char × List Char)
  | [] => none
  | '\'' :: '\'' :: cs => (readBody d cs).map fun (s, rest) => ('\'' :: s, rest)
  | '\'' :: cs => some ([], cs)
  | '\\' :: c :: cs =>
    if d.hasBackslashEscapes then (readBody d cs).map fun (s, rest) => (unescaped c ++ s, rest)
    else (readBody d (c :: cs)).map fun (s, rest) => ('\\' :: s, rest)
  | c :: cs => (readBody d cs).map fun (s, rest) => (c :: s, rest)

/-- Read a string literal: the text that it denotes, and what follows it. -/
def readString (d : Dialect) : List Char → Option (List Char × List Char)
  | '\'' :: cs => d.readBody cs
  | _ => none

end Dialect

/-- Every backslash of the text stands in front of a percent sign or an underscore. -/
inductive KeepsBackslashes : List Char → Prop
  | nil : KeepsBackslashes []
  | other {c : Char} {cs : List Char} (hc : c ≠ '\\') (h : KeepsBackslashes cs) :
      KeepsBackslashes (c :: cs)
  | kept {c : Char} {cs : List Char} (hc : c = '%' ∨ c = '_') (h : KeepsBackslashes cs) :
      KeepsBackslashes ('\\' :: c :: cs)

namespace Dialect

variable {d : Dialect} {s rest : List Char}

/-- Two quotes stand for one. -/
theorem readBody_quotes (d : Dialect) (cs : List Char) :
    d.readBody ('\'' :: '\'' :: cs) = (d.readBody cs).map fun (s, rest) => ('\'' :: s, rest) := by
  rw [readBody]

/-- A quote without another one behind it ends the literal. -/
theorem readBody_quote (hrest : ∀ c ∈ rest.head?, c ≠ '\'') :
    d.readBody ('\'' :: rest) = some ([], rest) := by
  cases rest with
  | nil => rw [readBody]; simp
  | cons c rest => rw [readBody]; simpa using hrest c rfl

/-- A character that is neither a quote nor a backslash stands for itself. -/
theorem readBody_cons {c : Char} (hquote : c ≠ '\'') (hc : c = '\\' → d.hasBackslashEscapes = false)
    (cs : List Char) :
    d.readBody (c :: cs) = (d.readBody cs).map fun (s, rest) => (c :: s, rest) := by
  by_cases hbackslash : c = '\\'
  · subst hbackslash
    cases cs with
    | nil => simp [readBody]
    | cons e cs => rw [readBody, if_neg (by simp [hc rfl])]
  · rw [readBody] <;> simp [hquote, hbackslash]

/-- Where a backslash takes the next character with it, the two stand for what they mean. -/
theorem readBody_backslash (hd : d.hasBackslashEscapes = true) (c : Char) (cs : List Char) :
    d.readBody ('\\' :: c :: cs) =
      (d.readBody cs).map fun (s, rest) => (unescaped c ++ s, rest) := by
  simp [readBody, hd]

/-- In front of a percent sign or an underscore the backslash stays. -/
theorem unescaped_of_kept {c : Char} (hc : c = '%' ∨ c = '_') : unescaped c = ['\\', c] := by
  rcases hc with rfl | rfl <;> rfl

/-- In front of any other character the backslash goes. -/
theorem unescaped_of_not_kept {c : Char} (hc : ¬ (c = '%' ∨ c = '_')) :
    ∃ e, unescaped c = [e] := by
  unfold unescaped
  split <;> simp_all

/-- What a backslash and a character stand for is no longer than the two, and shorter if the
character is a quote. -/
theorem length_unescaped_le (c : Char) :
    2 * (unescaped c).length + List.count '\'' [c] ≤ 4 := by
  by_cases hc : c = '%' ∨ c = '_'
  · rw [unescaped_of_kept hc]
    rcases hc with rfl | rfl <;> decide
  · obtain ⟨e, he⟩ := unescaped_of_not_kept hc
    have hcount := List.count_le_length (a := '\'') (l := [c])
    rw [he]
    simp only [List.length_singleton] at hcount ⊢
    omega

/-- A literal denotes a text of at most one character for each one that it takes up, and of at most
one for any two quotes. -/
theorem length_readBody {cs t r : List Char} (h : d.readBody cs = some (t, r)) :
    2 * t.length + cs.count '\'' + 1 + 2 * r.length ≤ 2 * cs.length + r.count '\'' := by
  fun_induction readBody d cs generalizing t r with
  | case1 => cases h
  | case2 cs ih =>
    obtain ⟨⟨s, r'⟩, hread, hpair⟩ := Option.map_eq_some_iff.1 h
    obtain ⟨rfl, rfl⟩ := Prod.mk.inj hpair
    have := ih hread
    simp only [List.length_cons, List.count_cons_self]
    omega
  | case3 cs _ =>
    obtain ⟨rfl, rfl⟩ : [] = t ∧ cs = r := by simpa using h
    simp only [List.length_nil, List.length_cons, List.count_cons_self]
    omega
  | case4 c cs hd ih =>
    obtain ⟨⟨s, r'⟩, hread, hpair⟩ := Option.map_eq_some_iff.1 h
    obtain ⟨rfl, rfl⟩ := Prod.mk.inj hpair
    have := ih hread
    have hunescaped := length_unescaped_le c
    have hcount : (c :: cs).count '\'' = cs.count '\'' + List.count '\'' [c] := by
      rw [List.count_cons, List.count_singleton]
    rw [List.count_cons_of_ne (by decide), hcount]
    simp only [List.length_append, List.length_cons]
    omega
  | case5 c cs hd ih =>
    obtain ⟨⟨s, r'⟩, hread, hpair⟩ := Option.map_eq_some_iff.1 h
    obtain ⟨rfl, rfl⟩ := Prod.mk.inj hpair
    have := ih hread
    rw [List.count_cons_of_ne (by decide)]
    simp only [List.length_cons] at this ⊢
    omega
  | case6 c cs _ hquote _ ih =>
    obtain ⟨⟨s, r'⟩, hread, hpair⟩ := Option.map_eq_some_iff.1 h
    obtain ⟨rfl, rfl⟩ := Prod.mk.inj hpair
    have := ih hread
    rw [List.count_cons_of_ne hquote]
    simp only [List.length_cons]
    omega

/-- What is read up to the closing quote of a text is no longer than the text. -/
theorem length_le_of_readBody {t : List Char}
    (h : d.readBody (Text.doubled '\'' s ++ '\'' :: rest) = some (t, rest)) :
    t.length ≤ s.length := by
  have hlength := length_readBody h
  simp only [List.length_append, List.count_append, Text.length_doubled, Text.count_doubled,
    List.length_cons, List.count_cons_self] at hlength
  omega

/-- A text that is written with its quotes twice is read back where backslashes have no meaning. -/
theorem readBody_doubled (hd : d.hasBackslashEscapes = false)
    (hrest : ∀ c ∈ rest.head?, c ≠ '\'') :
    d.readBody (Text.doubled '\'' s ++ '\'' :: rest) = some (s, rest) := by
  induction s with
  | nil => exact readBody_quote hrest
  | cons c s ih =>
    rw [Text.doubled_cons, List.append_assoc]
    by_cases hc : c = '\''
    · subst hc
      rw [if_pos rfl, List.cons_append, List.cons_append, List.nil_append, readBody_quotes, ih]
      rfl
    · rw [if_neg hc, List.singleton_append, readBody_cons hc fun _ => hd, ih]
      rfl

/-- A text that keeps its backslashes is read back by every dialect. -/
theorem readBody_doubled_of_keeps (hs : KeepsBackslashes s) (hrest : ∀ c ∈ rest.head?, c ≠ '\'') :
    d.readBody (Text.doubled '\'' s ++ '\'' :: rest) = some (s, rest) := by
  cases hd : d.hasBackslashEscapes with
  | false => exact readBody_doubled hd hrest
  | true =>
    induction hs with
    | nil => exact readBody_quote hrest
    | @other c s hc _ ih =>
      rw [Text.doubled_cons, List.append_assoc]
      by_cases hquote : c = '\''
      · subst hquote
        rw [if_pos rfl, List.cons_append, List.cons_append, List.nil_append, readBody_quotes, ih]
        rfl
      · rw [if_neg hquote, List.singleton_append, readBody_cons hquote fun h => absurd h hc, ih]
        rfl
    | @kept c s hc _ ih =>
      have hquote : c ≠ '\'' := by rcases hc with rfl | rfl <;> decide
      rw [Text.doubled_cons, Text.doubled_cons, if_neg (by decide), if_neg hquote]
      simp only [List.cons_append, List.nil_append]
      rw [readBody_backslash hd, ih, unescaped_of_kept hc]
      rfl

/-- What is read behind some characters is put behind what these stand for. -/
theorem map_append_eq_some_iff (p : List Char) {x : Option (List Char × List Char)} :
    (x.map fun (s, rest) => (p ++ s, rest)) = some (p ++ s, rest) ↔ x = some (s, rest) := by
  rcases x with _ | ⟨t, r⟩ <;> simp

/-- A backslash that goes is not read back, whatever follows. -/
theorem readBody_backslash_ne (hd : d.hasBackslashEscapes = true) {c : Char}
    (hc : ¬ (c = '%' ∨ c = '_')) :
    d.readBody ('\\' :: ((if c = '\'' then ['\'', '\''] else [c]) ++
      (Text.doubled '\'' s ++ '\'' :: rest))) ≠ some ('\\' :: c :: s, rest) := by
  intro h
  by_cases hquote : c = '\''
  · subst hquote
    rw [if_pos rfl, List.cons_append, readBody_backslash hd] at h
    obtain ⟨_, -, hpair⟩ := Option.map_eq_some_iff.1 h
    simp [unescaped] at hpair
  · obtain ⟨e, he⟩ := unescaped_of_not_kept hc
    rw [if_neg hquote, List.singleton_append, readBody_backslash hd, he] at h
    obtain ⟨⟨t, r⟩, hread, hpair⟩ := Option.map_eq_some_iff.1 h
    obtain ⟨-, rfl, rfl⟩ : e = '\\' ∧ t = c :: s ∧ r = rest := by
      simpa [and_assoc] using hpair
    -- what is read behind the two is too short to hold one of them
    have hlength := length_le_of_readBody hread
    rw [List.length_cons] at hlength
    omega

/-- Where a backslash takes the next character with it, a text that is read back keeps its
backslashes. -/
theorem keeps_of_readBody (hd : d.hasBackslashEscapes = true) :
    ∀ s : List Char, d.readBody (Text.doubled '\'' s ++ '\'' :: rest) = some (s, rest) →
      KeepsBackslashes s
  | [], _ => .nil
  | c :: s, h => by
    rw [Text.doubled_cons, List.append_assoc] at h
    by_cases hc : c = '\\'
    · subst hc
      rw [if_neg (by decide), List.singleton_append] at h
      match s, h with
      | [], h =>
        -- the backslash takes the closing quote
        rw [Text.doubled_nil, List.nil_append, readBody_backslash hd] at h
        obtain ⟨_, -, hpair⟩ := Option.map_eq_some_iff.1 h
        simp [unescaped] at hpair
      | e :: s, h =>
        rw [Text.doubled_cons, List.append_assoc] at h
        by_cases he : e = '%' ∨ e = '_'
        · have hquote : e ≠ '\'' := by rcases he with rfl | rfl <;> decide
          rw [if_neg hquote, List.singleton_append, readBody_backslash hd, unescaped_of_kept he]
            at h
          exact .kept he (keeps_of_readBody hd s ((map_append_eq_some_iff ['\\', e]).1 h))
        · -- the backslash goes, and what is read behind it is too short to make up for it
          exact absurd h (readBody_backslash_ne hd he)
    · by_cases hquote : c = '\''
      · subst hquote
        rw [if_pos rfl, List.cons_append, List.cons_append, List.nil_append, readBody_quotes] at h
        exact .other hc (keeps_of_readBody hd s ((map_append_eq_some_iff ['\'']).1 h))
      · rw [if_neg hquote, List.singleton_append, readBody_cons hquote fun h => absurd h hc] at h
        exact .other hc (keeps_of_readBody hd s ((map_append_eq_some_iff [c]).1 h))

/-- A literal, in front of anything but a quote, ends where it should and denotes its text; in MySQL
only if the text keeps its backslashes. -/
theorem readString_literal_iff {s : String} (hrest : ∀ c ∈ rest.head?, c ≠ '\'') :
    d.readString (((Token.literal s).render d).toList ++ rest) = some (s.toList, rest) ↔
      (d = .mysql → KeepsBackslashes s.toList) := by
  have htext : ((Token.literal s).render d).toList ++ rest =
      '\'' :: (Text.doubled '\'' s.toList ++ '\'' :: rest) := by
    simp [Token.render, Text.enclosed]
  rw [htext, readString]
  cases hd : d.hasBackslashEscapes with
  | false =>
    refine iff_of_true (readBody_doubled hd hrest) ?_
    rintro rfl
    cases hd
  | true =>
    have hmysql : d = .mysql := by cases d <;> first | rfl | cases hd
    exact ⟨fun h _ => keeps_of_readBody hd _ h,
      fun h => readBody_doubled_of_keeps (h hmysql) hrest⟩

end Dialect

/-- A single character keeps its backslashes unless it is one. -/
theorem keepsBackslashes_singleton {c : Char} : KeepsBackslashes [c] ↔ c ≠ '\\' := by
  constructor
  · rintro (_ | ⟨hc, -⟩)
    exact hc
  · exact fun hc => .other hc .nil

/-! ### The literals of statements -/

namespace Token

/-- The text of a literal. -/
def literal? : Token → Option String
  | literal s => some s
  | _ => none

/-- The texts of the literals among some tokens. -/
def literals (ts : List Token) : List String :=
  ts.filterMap literal?

/-- Every literal stands in front of a separator or at the end. -/
def LiteralsClosed (ts : List Token) : Prop :=
  ts.IsChain fun t u => t.literal?.isSome = true → u.isSeparator = true

variable {t : Token} {ts us phrase : List Token} {phrases : List (List Token)}

/-- No tokens hold no literal. -/
@[simp]
theorem literals_nil : literals [] = [] := rfl

/-- A token that is no literal counts for nothing. -/
@[simp]
theorem literals_cons (t : Token) (ts : List Token) :
    literals (t :: ts) = t.literal?.toList ++ literals ts := by
  rw [literals, List.filterMap_cons]
  cases t.literal? <;> rfl

/-- The literals of two parts are those of the first and then those of the second. -/
@[simp]
theorem literals_append (ts us : List Token) :
    literals (ts ++ us) = literals ts ++ literals us :=
  List.filterMap_append

/-- A separator without literals adds none. -/
theorem literals_intercalate {sep : List Token} (h : literals sep = []) :
    literals (sep.intercalate phrases) = phrases.flatMap literals :=
  collect_intercalate literals_append h

/-- Blanks between phrases are no literals. -/
@[simp]
theorem literals_spaced : literals (spaced phrases) = phrases.flatMap literals :=
  literals_intercalate rfl

/-- Commas between phrases are no literals. -/
@[simp]
theorem literals_commaSeparated : literals (commaSeparated phrases) = phrases.flatMap literals :=
  literals_intercalate rfl

/-- Parentheses are no literals. -/
@[simp]
theorem literals_parenthesized (phrase : List Token) :
    literals (parenthesized phrase) = literals phrase := by
  simp [parenthesized, literal?]

/-- A separator is no literal. -/
theorem literal?_of_isSeparator (h : t.isSeparator = true) : t.literal? = none := by
  unfold isSeparator at h
  split at h
  case h_8 => cases h
  all_goals rfl

/-- Tokens without literals have none that could run on. -/
theorem literalsClosed_of_literals_eq_nil (h : literals ts = []) : LiteralsClosed ts := by
  rw [LiteralsClosed, List.isChain_iff_forall_rel_of_append_cons_cons]
  rintro t u before after rfl ht
  rw [literals, List.filterMap_eq_nil_iff] at h
  simp [h t (by simp)] at ht

/-- Phrases without literals have none that could run on. -/
theorem literalsClosed_of_flatMap_eq_nil (h : phrases.flatMap literals = []) :
    ∀ p ∈ phrases, LiteralsClosed p :=
  fun p hp => literalsClosed_of_literals_eq_nil (List.flatMap_eq_nil_iff.1 h p hp)

/-- Where a literal is closed, the next token is a separator. -/
theorem LiteralsClosed.isSeparator_of_append {s : String}
    (h : LiteralsClosed (ts ++ literal s :: t :: us)) : t.isSeparator = true :=
  List.isChain_iff_forall_rel_of_append_cons_cons.1 h rfl rfl

namespace LiteralsClosed

/-- Closed literals may stand on both sides of a separator. -/
theorem append_cons (hts : LiteralsClosed ts) (ht : t.isSeparator = true)
    (hus : LiteralsClosed us) : LiteralsClosed (ts ++ t :: us) :=
  List.isChain_append.2 ⟨hts,
    List.isChain_cons.2 ⟨fun _ _ hliteral => by simp [literal?_of_isSeparator ht] at hliteral, hus⟩,
    fun _ _ _ hy _ => Option.some.inj hy ▸ ht⟩

/-- Phrases whose literals are closed with something between two of them are so with it between each
two. -/
theorem intercalate {sep : List Token}
    (hsep : ∀ {ts us}, LiteralsClosed ts → LiteralsClosed us → LiteralsClosed (ts ++ sep ++ us))
    (h : ∀ p ∈ phrases, LiteralsClosed p) : LiteralsClosed (sep.intercalate phrases) :=
  intercalate_induction (literalsClosed_of_literals_eq_nil rfl) hsep h

/-- A blank closes the literals in front of it. -/
theorem spaced (h : ∀ p ∈ phrases, LiteralsClosed p) : LiteralsClosed (Token.spaced phrases) :=
  intercalate (fun hts hus => by simpa using hts.append_cons rfl hus) h

/-- So does the blank in front of a word. -/
theorem joined (w : Keyword) (h : ∀ p ∈ phrases, LiteralsClosed p) :
    LiteralsClosed ([Token.space, .word w, Token.space].intercalate phrases) := by
  have hword : LiteralsClosed [.word w] := literalsClosed_of_literals_eq_nil rfl
  exact intercalate
    (fun hts hus => by simpa using hts.append_cons rfl (hword.append_cons rfl hus)) h

/-- A closing parenthesis closes the literals in front of it. -/
theorem parenthesized (h : LiteralsClosed phrase) :
    LiteralsClosed (Token.parenthesized phrase) := by
  have hnil : LiteralsClosed [] := literalsClosed_of_literals_eq_nil rfl
  exact hnil.append_cons rfl (h.append_cons rfl hnil)

end LiteralsClosed

end Token

open Token

/-- The escape character that a relation declares, as a text. -/
def Relation.escape? : Relation → Option String
  | like _ _ escape => escape.map Char.toString
  | _ => none

/-- The escape character that a test declares, as a text. -/
def Test.escape? (t : Test) : Option String :=
  t.relation.escape?

/-- The escape character of a condition that looks for a pattern, as a text. -/
def Condition.escapeText? (c : Condition) : Option String :=
  match c.operator with
  | .like | .notLike => c.escape.map Char.toString
  | _ => none

/-- `NOT` in front of a test is no literal. -/
@[simp]
theorem Token.literals_notPhrase (negated : Bool) :
    (notPhrase negated).flatMap literals = [] := by
  cases negated <;> rfl

/-- The literals that a relation adds are its escape character. -/
@[simp]
theorem Relation.literals_phrases (r : Relation) :
    r.phrases.flatMap literals = r.escape?.toList := by
  cases r with
  | compare op operand => rfl
  | like negated pattern escape =>
    cases escape <;> simp [phrases, escape?, slot, literal?]
  | isIn negated operands =>
    simp [phrases, escape?, slot, literal?, List.flatMap_map]
  | between negated low high => simp [phrases, escape?, slot, literal?]
  | isNull negated => rfl

/-- The literals of a test are its escape character. -/
@[simp]
theorem Test.literals_tokens (t : Test) : literals t.tokens = t.escape?.toList := by
  simp [tokens, escape?, literal?]

/-- The literals that a relation adds are closed, the escape character as a phrase of its own. -/
theorem Relation.literalsClosed_phrases (r : Relation) : ∀ p ∈ r.phrases, LiteralsClosed p := by
  cases r with
  | like negated pattern escape =>
    have hsingle (t : Token) : LiteralsClosed [t] := List.isChain_singleton t
    cases negated <;> cases escape <;> simp [phrases, notPhrase, hsingle]
  | _ =>
    -- the other relations hold no literal at all
    exact literalsClosed_of_flatMap_eq_nil (literals_phrases _)

/-- The literals of a test are closed. -/
theorem Test.literalsClosed_tokens (t : Test) : LiteralsClosed t.tokens :=
  .spaced (List.forall_mem_cons.2
    ⟨literalsClosed_of_literals_eq_nil rfl, t.relation.literalsClosed_phrases⟩)

/-- The literals of a combination are those of its parts. -/
theorem Token.literals_combine (conjunction : Conjunction) (negated nested : Bool)
    (parts : List (List Token)) :
    ((combine conjunction negated nested parts).toList.flatMap literals) =
      parts.flatMap literals := by
  have hjoined : literals ([space, .word conjunction.keyword, space].intercalate parts) =
      parts.flatMap literals := literals_intercalate rfl
  unfold combine
  split
  · split <;> rfl
  · -- neither parentheses nor `NOT` are literals
    dsimp only
    rw [Option.toList_some, List.flatMap_singleton]
    split <;> split <;> simp [hjoined, literal?]

/-- The literals of a combination are closed when those of its parts are. -/
theorem Token.literalsClosed_combine {conjunction : Conjunction} {negated nested : Bool}
    {parts : List (List Token)} (h : ∀ p ∈ parts, LiteralsClosed p) {phrase : List Token}
    (hphrase : combine conjunction negated nested parts = some phrase) :
    LiteralsClosed phrase := by
  unfold combine at hphrase
  split at hphrase
  · split at hphrase
    · obtain rfl := Option.some.inj hphrase
      exact literalsClosed_of_literals_eq_nil rfl
    · cases hphrase
  · have hjoined := LiteralsClosed.joined conjunction.keyword h
    have hbody (wrapped : Bool) : LiteralsClosed (if wrapped then
        parenthesized ([space, .word conjunction.keyword, space].intercalate parts)
        else [space, .word conjunction.keyword, space].intercalate parts) := by
      cases wrapped
      · exact hjoined
      · exact hjoined.parenthesized
    have hnot : LiteralsClosed [.word .not] := literalsClosed_of_literals_eq_nil rfl
    obtain rfl := Option.some.inj hphrase
    split
    · exact hnot.append_cons rfl (hbody _)
    · exact hbody _

namespace Node

mutual

/-- The literals of a tree are the escape characters of its leaves. -/
theorem literals_phrase : ∀ n : Node Test,
    n.phrase?.toList.flatMap literals = n.leaves.filterMap Test.escape?
  | leaf t => by
    cases h : t.escape? <;> simp [phrase?, leaves, h]
  | group conjunction negated children => by
    rw [phrase?, leaves, literals_combine, literals_phrasesOf children]

/-- The literals of several trees are the escape characters of their leaves. -/
theorem literals_phrasesOf : ∀ ns : List (Node Test),
    (phrasesOf ns).flatMap literals = (leavesOf ns).filterMap Test.escape?
  | [] => rfl
  | child :: rest => by
    rw [leavesOf, List.filterMap_append, ← literals_phrase child, ← literals_phrasesOf rest,
      phrasesOf]
    cases child.phrase? <;> simp

end

mutual

/-- The literals of a tree are closed. -/
theorem literalsClosed_phrase {n : Node Test} {phrase : List Token} (h : n.phrase? = some phrase) :
    LiteralsClosed phrase := by
  cases n with
  | leaf t =>
    obtain rfl := Option.some.inj h
    exact t.literalsClosed_tokens
  | group conjunction negated children =>
    exact literalsClosed_combine (literalsClosed_phrasesOf children) h

/-- The literals of several trees are closed. -/
theorem literalsClosed_phrasesOf (ns : List (Node Test)) :
    ∀ p ∈ phrasesOf ns, LiteralsClosed p := by
  cases ns with
  | nil => simp [phrasesOf]
  | cons child rest =>
    rw [phrasesOf]
    split
    · next p hp =>
      exact List.forall_mem_cons.2 ⟨literalsClosed_phrase hp, literalsClosed_phrasesOf rest⟩
    · exact literalsClosed_phrasesOf rest

end

end Node

namespace Group

/-- The literals of a condition are the escape characters of its tests. -/
@[simp]
theorem literals_wherePhrases (g : Group Test) :
    g.wherePhrases.flatMap literals = g.leaves.filterMap Test.escape? := by
  have hcombined := literals_combine g.conjunction g.negated false (Node.phrasesOf g.children)
  rw [leaves, ← Node.literals_phrasesOf, ← hcombined, wherePhrases, phrase?]
  cases combine g.conjunction g.negated false (Node.phrasesOf g.children) <;> simp [literal?]

/-- The literals of a condition are closed. -/
theorem literalsClosed_wherePhrases (g : Group Test) : ∀ p ∈ g.wherePhrases, LiteralsClosed p := by
  unfold wherePhrases
  split
  · next phrase hphrase =>
    have hclosed := literalsClosed_combine (Node.literalsClosed_phrasesOf g.children) hphrase
    simpa using ⟨literalsClosed_of_literals_eq_nil rfl, hclosed⟩
  · simp

end Group

/-- The clause of the wanted rows holds no literal. -/
theorem Window.literals_phrases (w : Window) (d : Dialect) :
    (w.topPhrases d).flatMap literals = [] ∧ (w.endPhrases d).flatMap literals = [] := by
  cases w <;> cases d <;>
    simp [topPhrases, endPhrases, Dialect.hasTop, Dialect.windowPhrases, literal?]

/-- A table is no literal, and neither is a hint behind it. -/
@[simp]
theorem TableName.literals_phrases (t : TableName) (d : Dialect) (hint : Option String) :
    (t.phrases d hint).flatMap literals = [] := by
  unfold phrases
  split <;> rfl

/-- A hint in front of a statement is no literal. -/
@[simp]
theorem Dialect.literals_leadingHint (d : Dialect) (hint : Option String) :
    (d.leadingHint hint).flatMap literals = [] := by
  unfold leadingHint
  split <;> rfl

/-- The literals of a `SELECT` are the escape characters of its tests, and they are closed. -/
theorem Select.literals_tokens (s : Select) (d : Dialect) (hint : Option String) :
    literals (s.tokens d hint) = s.filter.leaves.filterMap Test.escape? ∧
      LiteralsClosed (s.tokens d hint) := by
  have hprojection : literals s.projection = [] := by
    unfold projection
    split <;> simp [List.flatMap_map, literal?]
  have horder : s.orderPhrases.flatMap literals = [] := by
    unfold orderPhrases
    split <;> simp [List.flatMap_map, literal?]
  obtain ⟨htop, hend⟩ := s.window.literals_phrases d
  refine ⟨by simp [tokens, hprojection, horder, htop, hend, literal?], .spaced ?_⟩
  -- all phrases but the condition are without literals
  simp only [List.forall_mem_append]
  refine ⟨⟨⟨⟨⟨⟨⟨?_, ?_⟩, ?_⟩, ?_⟩, ?_⟩, s.filter.literalsClosed_wherePhrases⟩, ?_⟩, ?_⟩ <;>
    refine literalsClosed_of_flatMap_eq_nil ?_
  · exact d.literals_leadingHint hint
  · rfl
  · exact htop
  · simp [hprojection, literal?]
  · exact s.table.literals_phrases d hint
  · exact horder
  · exact hend

/-- The literals of a `SELECT COUNT(*)` are the escape characters of its tests, and they are
closed. -/
theorem Count.literals_tokens (c : Count) (d : Dialect) (hint : Option String) :
    literals (c.tokens d hint) = c.filter.leaves.filterMap Test.escape? ∧
      LiteralsClosed (c.tokens d hint) := by
  refine ⟨by simp [tokens, literal?], .spaced ?_⟩
  simp only [List.forall_mem_append]
  refine ⟨⟨⟨?_, ?_⟩, ?_⟩, c.filter.literalsClosed_wherePhrases⟩ <;>
    refine literalsClosed_of_flatMap_eq_nil ?_
  · exact d.literals_leadingHint hint
  · rfl
  · exact c.table.literals_phrases d hint

/-- A relation declares the escape character of its condition. -/
theorem Condition.escape?_relation (c : Condition) (start : Nat) :
    (c.relation start).escape? = c.escapeText? := by
  unfold relation escapeText?
  cases c.operator <;> cases c.value.isNull <;> rfl

/-- The tests of settled conditions declare the escape characters of these. -/
theorem Settled.filterMap_escape? {start : Nat} {cs : List (Condition × Column)} {ts : List Test}
    {ps : List Parameter} (h : Settled start cs ts ps) :
    ts.filterMap Test.escape? = (cs.map Prod.fst).filterMap Condition.escapeText? := by
  induction h with
  | nil => rfl
  | @cons start c column rest tests ps _ _ _ ih =>
    rw [List.map_cons, List.filterMap_cons, List.filterMap_cons, ih, Test.escape?,
      c.escape?_relation]

/-- A separator begins with no quote. -/
theorem Token.head_render_ne_quote {t : Token} (h : t.isSeparator = true) (d : Dialect)
    (us : List Token) : ∀ c ∈ (renderAll d (t :: us)).toList.head?, c ≠ '\'' := by
  unfold isSeparator at h
  split at h
  case h_8 => cases h
  all_goals simp [renderAll, render, Mark.text]

namespace Builder

variable {b : Builder} {r : Request} {types types' : TypeChain} {st : Statement}

/-- The literals of a statement that reads rows are the escape characters of the request's
conditions, and they are closed. -/
theorem literals_run (h : b.run r types = (.ok st, types'))
    (hreads : ∀ spec, r.operation ≠ .merge spec) :
    literals st.tokens = r.filter.leaves.filterMap Condition.escapeText? ∧
      LiteralsClosed st.tokens := by
  have hcommand : literals st.tokens = st.command.filter.leaves.filterMap Test.escape? ∧
      LiteralsClosed st.tokens := by
    obtain ⟨-, hoperation⟩ := run_eq_ok h
    rw [Statement.tokens]
    cases hop : r.operation with
    | query | page =>
      rw [hop] at hoperation
      obtain ⟨-, s, hs, -⟩ := hoperation
      rw [hs]
      exact s.literals_tokens _ _
    | count =>
      rw [hop] at hoperation
      obtain ⟨-, c, hc, -⟩ := hoperation
      rw [hc]
      exact c.literals_tokens _ _
    | merge spec => exact absurd hop (hreads spec)
  obtain ⟨children, hfilter, hbound⟩ := run_filter h hreads
  have hsettled := (Node.settled_bindAllFrom hbound).filterMap_escape?
  rw [Node.leavesOf_mapAll, List.map_map] at hsettled
  refine ⟨hcommand.1.trans ?_, hcommand.2⟩
  rw [hfilter]
  exact hsettled.trans (congrArg _ (List.map_id _))

/-- Where string literals are read back. The literals of a statement that reads rows are the escape
characters of its `LIKE` and `NOT LIKE` conditions, in order. Each one, read in the statement by the
rules of the dialect, ends where its token ends and denotes the escape character, unless the dialect
is MySQL and the escape character is a backslash. In general a literal denotes its text in every
dialect but MySQL, and there exactly if each backslash of the text stands in front of a percent sign
or an underscore. -/
theorem literals_read_iff (h : b.run r types = (.ok st, types'))
    (hreads : ∀ spec, r.operation ≠ .merge spec) :
    literals st.tokens = r.filter.leaves.filterMap Condition.escapeText? ∧
    (∀ before s after, st.tokens = before ++ .literal s :: after →
      st.sql = renderAll b.dialect before ++ (Token.literal s).render b.dialect ++
        renderAll b.dialect after ∧
      ∃ c : Char, s = c.toString ∧
        (b.dialect.readString
            (((Token.literal s).render b.dialect).toList ++ (renderAll b.dialect after).toList) =
          some ([c], (renderAll b.dialect after).toList) ↔
            ¬ (b.dialect = .mysql ∧ c = '\\'))) ∧
    ∀ (d : Dialect) (s : String),
      d.readString ((Token.literal s).render d).toList = some (s.toList, []) ↔
        (d = .mysql → KeepsBackslashes s.toList) := by
  obtain ⟨hliterals, hclosed⟩ := literals_run h hreads
  have hdialect : st.dialect = b.dialect := (run_eq_ok h).1
  refine ⟨hliterals, fun before s after htokens => ⟨?_, ?_⟩, fun d s => ?_⟩
  · rw [Statement.sql, hdialect, htokens, renderAll_append]
    simp [renderAll, String.append_assoc]
  · -- the literal is the escape character of one of the conditions
    have hmem : s ∈ r.filter.leaves.filterMap Condition.escapeText? := by
      rw [← hliterals, htokens]
      simp [literal?]
    obtain ⟨condition, -, hescape⟩ := List.mem_filterMap.1 hmem
    obtain ⟨c, rfl⟩ : ∃ c : Char, s = c.toString := by
      unfold Condition.escapeText? at hescape
      split at hescape
      · obtain ⟨c, -, rfl⟩ := Option.map_eq_some_iff.1 hescape
        exact ⟨c, rfl⟩
      · obtain ⟨c, -, rfl⟩ := Option.map_eq_some_iff.1 hescape
        exact ⟨c, rfl⟩
      · cases hescape
    refine ⟨c, rfl, ?_⟩
    have hrest : ∀ c ∈ (renderAll b.dialect after).toList.head?, c ≠ '\'' := by
      cases after with
      | nil => simp [renderAll]
      | cons t after =>
        rw [htokens] at hclosed
        exact head_render_ne_quote hclosed.isSeparator_of_append b.dialect after
    have htext : c.toString.toList = [c] := by simp
    rw [← htext, Dialect.readString_literal_iff hrest, htext, keepsBackslashes_singleton, not_and]
  · have hread :
        d.readString (((Token.literal s).render d).toList ++ []) = some (s.toList, []) ↔ _ :=
      Dialect.readString_literal_iff (by simp)
    rwa [List.append_nil] at hread

/-- In MySQL a quote as an escape character is read back, and a backslash behind it is not. -/
theorem literals_read_iff_quote :
    let e : Entity :=
      { name := "E", table := { name := "E" },
        properties := [{ name := "A", kind := .text }, { name := "B", kind := .text }] }
    let c : Condition := (Condition.like { name := "A" } "x").withEscape '\''
    let c' : Condition := (Condition.like { name := "B" } "y").negated.withEscape '\\'
    let r : Request := { entity := e, operation := .count, filter := .all [c, c'] }
    ∃ st types', run { dialect := .mysql } r {} = (.ok st, types') ∧
      st.sql = "SELECT COUNT(*) AS \x60CountValue\x60 FROM \x60E\x60 WHERE \x60A\x60 LIKE ? " ++
        "ESCAPE '''' AND \x60B\x60 NOT LIKE ? ESCAPE '\\'" ∧
      literals st.tokens = ["'", "\\"] ∧
      Dialect.mysql.readString "'''' AND \x60B\x60 NOT LIKE ? ESCAPE '\\'".toList =
        some (['\''], " AND \x60B\x60 NOT LIKE ? ESCAPE '\\'".toList) ∧
      Dialect.mysql.readString "'\\'".toList ≠ some (['\\'], []) := by
  intro e c c' r
  have hrun : run { dialect := .mysql } r {} = (.ok _, _) := rfl
  obtain ⟨hliterals, hread, hany⟩ := literals_read_iff hrun (by nofun)
  refine ⟨_, _, hrun, by decide, hliterals.trans (by decide), ?_, ?_⟩
  · let before : List Token :=
      [.word .select, .space, .word .count, .mark .openParen, .mark .star, .mark .closeParen,
        .space, .word .as, .space, .ident "CountValue", .space, .word .from, .space,
        .qualified none "E", .space, .word .where, .space, .ident "A", .space, .word .like, .space,
        Token.slot 0, .space, .word .escape, .space]
    let after : List Token :=
      [.space, .word .and, .space, .ident "B", .space, .word .not, .space, .word .like, .space,
        Token.slot 1, .space, .word .escape, .space, .literal "\\"]
    obtain ⟨-, c, hc, hfirst⟩ := hread before "'" after (by decide)
    obtain rfl : '\'' = c := by simpa using congrArg String.toList hc
    have hafter : renderAll .mysql after = " AND \x60B\x60 NOT LIKE ? ESCAPE '\\'" := by decide
    have hquote : (Token.literal "'").render .mysql = "''''" := by decide
    have hread := hfirst.2 (by decide)
    rw [hafter, hquote, ← String.toList_append] at hread
    exact hread
  · exact fun h => keepsBackslashes_singleton.1 ((hany .mysql "\\").1 h rfl) rfl

/-- A backslash as an escape character takes the closing quote of its literal in MySQL. -/
theorem mysql_backslash_literal :
    let e : Entity :=
      { name := "E", table := { name := "E" }, properties := [{ name := "A", kind := .text }] }
    let c : Condition := (Condition.like { name := "A" } "x").withEscape '\\'
    let r : Request := { entity := e, operation := .count, filter := .all [c] }
    ∃ st types', run { dialect := .mysql } r {} = (.ok st, types') ∧
      st.sql = "SELECT COUNT(*) AS \x60CountValue\x60 FROM \x60E\x60 WHERE \x60A\x60 LIKE ? " ++
        "ESCAPE '\\'" ∧
      literals st.tokens = ["\\"] ∧
      Dialect.mysql.readString ((Token.literal "\\").render .mysql).toList = none := by
  intro e c r
  have hrun : run { dialect := .mysql } r {} = (.ok _, _) := rfl
  exact ⟨_, _, hrun, by decide, by decide, by decide⟩

end Builder

end FilterSql
