import FilterSql.Proofs.Lexeme
import FilterSql.Proofs.Numerals
import FilterSql.Statement.Where

/-!
# Tokens that stand apart

A token stands for one or several lexemes, and tokens are written one behind the other. Their text
is split where one token ends and the next one begins as long as no two tokens stand side by side
without a separator. Phrases that are put together with blanks, commas and parentheses keep to that.

## Main definitions

* `Token.lexemes`: the lexemes that a token stands for;
* `Token.Tidy`: tokens without text of the caller, of which no two stand side by side without a
  separator.

## Main results

* `Token.split_renderAll`: the text of tidy tokens is split into their lexemes;
* `Token.Tidy.spaced`, `Token.Tidy.commaSeparated`, `Token.Tidy.joined`,
  `Token.Tidy.append_parenthesized`: the ways in which phrases are put together keep them tidy.
-/

namespace FilterSql

/-- The words of a fixed phrase, with a blank between each two. -/
def Keyword.lexemes (w : Keyword) : List Lexeme :=
  [Lexeme.space].intercalate ((w.text.toList.splitOn ' ').map fun cs => [.word cs])

namespace Token

/-- The lexemes that a token stands for. Text of the caller may stand for anything and counts as
none. -/
def lexemes (d : Dialect) : Token → List Lexeme
  | word w => w.lexemes
  | mark .space => [.space]
  | mark m => [.punctuation m.text.toList]
  | ident name => [.identifier name]
  | qualified none name => [.identifier name]
  | qualified (some schema) name =>
    [.identifier schema, .punctuation ['.'], .identifier name]
  | integer n => [.integer (Numeral.ofInt n)]
  | literal s => [.string s]
  | param name index => [.placeholder (d.placeholder name index).toList]
  | raw _ => []

/-- Whether a token separates its neighbours from each other. -/
def isSeparator : Token → Bool
  | mark .comma | mark .dot | mark .star | mark .openParen | mark .closeParen | mark .semicolon
  | mark .space => true
  | _ => false

/-- The token is one that commands are made of, and no text of the caller: integers have no sign,
and parameters are named by their positions. -/
def Plain : Token → Prop
  | integer n => 0 ≤ n
  | param name index => name = parameterName index
  | raw _ => False
  | _ => True

/-- All of the tokens are plain, and of two that stand side by side one is a separator. -/
structure Tidy (ts : List Token) : Prop where
  /-- All of the tokens are plain. -/
  plain : ∀ t ∈ ts, t.Plain
  /-- Of two neighbours one is a separator. -/
  separated : ts.IsChain fun t u => t.isSeparator = true ∨ u.isSeparator = true

end Token

namespace Keyword

/-- Words with blanks between them have their texts with blanks between them. -/
theorem text_words (d : Dialect) (words : List (List Char)) :
    ([Lexeme.space].intercalate (words.map fun cs => [.word cs])).flatMap (Lexeme.text d) =
      [' '].intercalate words := by
  induction words with
  | nil => rfl
  | cons cs words ih =>
    cases words with
    | nil => simp [Lexeme.text]
    | cons cs' words =>
      rw [List.map_cons, List.map_cons, List.intercalate_cons_cons, List.flatMap_append,
        List.flatMap_append, List.intercalate_cons_cons, ← ih]
      simp [Lexeme.text]

/-- Words with blanks between them are apart. -/
theorem apart_words (words : List (List Char)) :
    ([Lexeme.space].intercalate (words.map fun cs => [.word cs])).IsChain Lexeme.Apart := by
  induction words with
  | nil => simp
  | cons cs words ih =>
    cases words with
    | nil => simp
    | cons cs' words =>
      rw [List.map_cons, List.map_cons, List.intercalate_cons_cons, List.append_assoc,
        List.singleton_append, List.singleton_append, List.isChain_cons_cons, List.isChain_cons]
      exact ⟨.inr rfl, fun _ _ => .inl rfl, ih⟩

/-- The text of a fixed phrase consists of words. -/
theorem words_text (w : Keyword) : ∀ cs ∈ w.text.toList.splitOn ' ',
    cs.head?.any Dialect.startsWord = true ∧ cs.all Dialect.continuesWord = true := by
  cases w <;> decide

/-- The lexemes of a fixed phrase have its text. -/
theorem text_lexemes (d : Dialect) (w : Keyword) :
    w.lexemes.flatMap (Lexeme.text d) = w.text.toList := by
  rw [lexemes, text_words, List.intercalate_splitOn]

/-- What stands in a list of words is a blank or one of the words. -/
theorem mem_words {words : List (List Char)} {l : Lexeme}
    (h : l ∈ [Lexeme.space].intercalate (words.map fun cs => [.word cs])) :
    l = .space ∨ ∃ cs ∈ words, l = .word cs := by
  induction words with
  | nil => simp at h
  | cons cs words ih =>
    cases words with
    | nil => exact .inr ⟨cs, by simp, by simpa using h⟩
    | cons cs' words =>
      rw [List.map_cons, List.map_cons, List.intercalate_cons_cons, List.append_assoc,
        List.singleton_append, List.singleton_append, List.mem_cons, List.mem_cons] at h
      rcases h with rfl | rfl | h
      · exact .inr ⟨cs, by simp, rfl⟩
      · exact .inl rfl
      · exact (ih h).imp_right fun ⟨e, he, heq⟩ => ⟨e, List.mem_cons_of_mem _ he, heq⟩

/-- A fixed phrase has some lexeme. -/
theorem lexemes_ne_nil (w : Keyword) : w.lexemes ≠ [] := by
  cases w <;> decide

/-- The lexemes of a fixed phrase are words and blanks. -/
theorem wellFormed_lexemes (d : Dialect) (w : Keyword) : ∀ l ∈ w.lexemes, l.WellFormed d := by
  intro l hl
  rcases mem_words hl with rfl | ⟨cs, hcs, rfl⟩
  · trivial
  · obtain ⟨hstart, hrest⟩ := w.words_text cs hcs
    obtain ⟨c, rest, rfl⟩ : ∃ c rest, cs = c :: rest := by
      cases cs with
      | nil => simp at hstart
      | cons c rest => exact ⟨c, rest, rfl⟩
    simp only [List.all_cons, Bool.and_eq_true, List.all_eq_true] at hrest
    exact ⟨c, rest, rfl, by simpa using hstart, hrest.2⟩

end Keyword

namespace Token

variable {d : Dialect} {t : Token}

/-- A separator stands for a single lexeme that is one. -/
theorem lexemes_of_isSeparator (d : Dialect) (h : t.isSeparator = true) :
    ∃ l, t.lexemes d = [l] ∧ l.isSeparator = true := by
  unfold isSeparator at h
  split at h
  case h_8 => cases h
  all_goals exact ⟨_, rfl, rfl⟩

/-- A plain token has the text of its lexemes. -/
theorem text_lexemes (h : t.Plain) :
    (t.lexemes d).flatMap (Lexeme.text d) = (t.render d).toList := by
  cases t with
  | word w => exact w.text_lexemes d
  | mark m => cases m <;> simp [lexemes, Lexeme.text, render, Mark.text]
  | ident name => simp [lexemes, Lexeme.text, render, Dialect.quote, Text.enclosed]
  | qualified schema name =>
    cases schema <;> simp [lexemes, Lexeme.text, render, Dialect.quote, Text.enclosed]
  | integer n => simp [lexemes, Lexeme.text, render, Numeral.text]
  | literal s => simp [lexemes, Lexeme.text, render, Text.enclosed]
  | param name index => simp [lexemes, Lexeme.text, render]
  | raw sql => exact h.elim

/-- The placeholder of a parameter is one lexeme of the dialect. -/
theorem wellFormed_placeholder (d : Dialect) (index : Nat) :
    (Lexeme.placeholder (d.placeholder (parameterName index) index).toList).WellFormed d := by
  have hword : ∀ c ∈ Numeral.ofNat index, Dialect.continuesWord c = true := fun c hc => by
    simp [Dialect.continuesWord, Char.isAlphanum, (Numeral.isDigits_ofNat index).2 c hc]
  cases d with
  | sqlite | tsql =>
    -- parameters are placed by their names, `p` and the position
    refine ⟨'p' :: Numeral.ofNat index, ?_, ?_⟩
    · simp [Dialect.placeholder, Dialect.placeholderMark, parameterName, Numeral.text,
        Numeral.ofInt]
    · exact List.forall_mem_cons.2 ⟨by decide, hword⟩
  | postgres =>
    refine ⟨Numeral.ofNat (index + 1), ?_, (Numeral.isDigits_ofNat (index + 1)).2⟩
    simp [Dialect.placeholder, Dialect.placeholderMark, Numeral.text, Numeral.ofInt]
  | mysql => exact ⟨[], by simp [Dialect.placeholder, Dialect.placeholderMark], by simp⟩

/-- The lexemes of a plain token are of their kinds. -/
theorem wellFormed_lexemes (h : t.Plain) : ∀ l ∈ t.lexemes d, l.WellFormed d := by
  cases t with
  | word w => exact w.wellFormed_lexemes d
  | mark m =>
    cases m
    case space => simp [lexemes, Lexeme.WellFormed]
    all_goals
      simp only [lexemes, List.mem_singleton, forall_eq]
      exact ⟨by decide, by decide⟩
  | ident name => simp [lexemes, Lexeme.WellFormed]
  | qualified schema name =>
    cases schema
    · simp [lexemes, Lexeme.WellFormed]
    · simp [lexemes, Lexeme.WellFormed, Lexeme.signs]
  | integer n =>
    obtain ⟨n, rfl⟩ := Int.eq_ofNat_of_zero_le h
    simp only [lexemes, List.mem_singleton, forall_eq]
    exact Numeral.isDigits_ofNat n
  | literal s => simp [lexemes, Lexeme.WellFormed]
  | param name index =>
    obtain rfl : name = parameterName index := h
    simpa [lexemes] using wellFormed_placeholder d index
  | raw sql => exact h.elim

/-- The lexemes of a plain token stand side by side as they should. -/
theorem apart_lexemes (h : t.Plain) : (t.lexemes d).IsChain Lexeme.Apart := by
  cases t with
  | word w => exact Keyword.apart_words _
  | mark m => cases m <;> simp [lexemes]
  | qualified schema name =>
    cases schema <;> simp [lexemes, Lexeme.Apart, Lexeme.isSeparator, Lexeme.separators]
  | raw sql => exact h.elim
  | _ => simp [lexemes]

/-- A plain token stands for some lexeme. -/
theorem lexemes_ne_nil (h : t.Plain) : t.lexemes d ≠ [] := by
  cases t with
  | word w => exact w.lexemes_ne_nil
  | mark m => cases m <;> simp [lexemes]
  | qualified schema name => cases schema <;> simp [lexemes]
  | raw sql => exact h.elim
  | _ => simp [lexemes]

/-- The text of plain tokens is the text of their lexemes. -/
theorem text_flatMap_lexemes {ts : List Token} (h : ∀ t ∈ ts, t.Plain) :
    (ts.flatMap (lexemes d)).flatMap (Lexeme.text d) = (renderAll d ts).toList := by
  induction ts with
  | nil => simp [renderAll]
  | cons t ts ih =>
    obtain ⟨ht, hts⟩ := List.forall_mem_cons.1 h
    rw [List.flatMap_cons, List.flatMap_append, text_lexemes ht, ih hts]
    simp [renderAll]

/-- The lexemes of tidy tokens stand side by side as they should. -/
theorem Tidy.apart {ts : List Token} (h : Tidy ts) :
    (ts.flatMap (lexemes d)).IsChain Lexeme.Apart := by
  -- the lexemes of each token are apart, and so are the last one and the first one of the next
  rw [List.flatMap_def, List.isChain_flatten]
  · refine ⟨fun ls hls => ?_, ?_⟩
    · obtain ⟨t, ht, rfl⟩ := List.mem_map.1 hls
      exact apart_lexemes (h.plain t ht)
    · -- a token that is a separator is a single lexeme, the one that its neighbour meets
      rw [List.isChain_map]
      refine h.separated.imp fun t u hseparated l hl l' hl' => ?_
      rcases hseparated with ht | hu
      · obtain ⟨s, hs, hseparator⟩ := lexemes_of_isSeparator d ht
        obtain rfl : s = l := by simpa [hs] using hl
        exact .inl hseparator
      · obtain ⟨s, hs, hseparator⟩ := lexemes_of_isSeparator d hu
        obtain rfl : s = l' := by simpa [hs] using hl'
        exact .inr hseparator
  · intro hnil
    obtain ⟨t, ht, hlexemes⟩ := List.mem_map.1 hnil
    exact lexemes_ne_nil (h.plain t ht) hlexemes

/-- The text of tidy tokens is split into their lexemes. -/
theorem split_renderAll {ts : List Token} (h : Tidy ts) :
    Lexeme.split d (renderAll d ts).toList = some (ts.flatMap (lexemes d)) := by
  rw [← text_flatMap_lexemes h.plain]
  refine Lexeme.split_texts (fun l hl => ?_) h.apart
  obtain ⟨t, ht, hl⟩ := List.mem_flatMap.1 hl
  exact wellFormed_lexemes (h.plain t ht) l hl

/-- No tokens at all are tidy. -/
@[simp]
theorem tidy_nil : Tidy [] :=
  ⟨by simp, by simp⟩

/-- A single token is tidy if it is plain. -/
@[simp]
theorem tidy_singleton : Tidy [t] ↔ t.Plain :=
  ⟨fun h => h.plain t (by simp), fun h => ⟨by simpa using h, by simp⟩⟩

/-- A separator is plain. -/
theorem plain_of_isSeparator (h : t.isSeparator = true) : t.Plain := by
  unfold isSeparator at h
  split at h
  case h_8 => cases h
  all_goals trivial

namespace Tidy

variable {s u sep : List Token} {phrases : List (List Token)}

/-- Tidy tokens may stand on both sides of a separator. -/
theorem append_cons (hs : Tidy s) (ht : t.isSeparator = true) (hu : Tidy u) :
    Tidy (s ++ t :: u) where
  plain := List.forall_mem_append.2
    ⟨hs.plain, List.forall_mem_cons.2 ⟨plain_of_isSeparator ht, hu.plain⟩⟩
  separated := List.isChain_append.2
    ⟨hs.separated, List.isChain_cons.2 ⟨fun _ _ => .inl ht, hu.separated⟩,
      fun _ _ _ hy => .inr (Option.some.inj hy ▸ ht)⟩

/-- Phrases that are tidy with something between two of them are so with it between each two. -/
theorem intercalate (hsep : ∀ {s u}, Tidy s → Tidy u → Tidy (s ++ sep ++ u))
    (h : ∀ p ∈ phrases, Tidy p) : Tidy (sep.intercalate phrases) :=
  intercalate_induction tidy_nil hsep h

/-- Tidy phrases are tidy with blanks between them. -/
theorem spaced (h : ∀ p ∈ phrases, Tidy p) : Tidy (Token.spaced phrases) :=
  intercalate (fun hs hu => by simpa using hs.append_cons rfl hu) h

/-- Tidy phrases are tidy with commas and blanks between them. -/
theorem commaSeparated (h : ∀ p ∈ phrases, Tidy p) : Tidy (Token.commaSeparated phrases) :=
  intercalate (fun hs hu => by simpa using hs.append_cons rfl (tidy_nil.append_cons rfl hu)) h

/-- Tidy phrases are tidy with a word and blanks between them. -/
theorem joined (w : Keyword) (h : ∀ p ∈ phrases, Tidy p) :
    Tidy ([Token.space, .word w, Token.space].intercalate phrases) := by
  have hword : Tidy [.word w] := tidy_singleton.2 trivial
  exact intercalate (fun hs hu => by simpa using hs.append_cons rfl (hword.append_cons rfl hu)) h

/-- A tidy phrase is tidy between parentheses, and with a token in front of them. -/
theorem append_parenthesized (hs : Tidy s) (h : Tidy u) : Tidy (s ++ Token.parenthesized u) :=
  hs.append_cons rfl (h.append_cons rfl tidy_nil)

/-- A tidy phrase is tidy between parentheses. -/
theorem parenthesized (h : Tidy u) : Tidy (Token.parenthesized u) :=
  tidy_nil.append_parenthesized h

end Tidy

end Token

end FilterSql
