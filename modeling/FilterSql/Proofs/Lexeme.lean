import FilterSql.Token
import Mathlib.Data.List.Chain

/-!
# Splitting statements

How a database splits the text of a statement: names and strings end at their closing delimiter,
which stands twice where it is meant, words, integers and placeholders go on as long as they can,
and some pairs of signs are read as one.

## Main definitions

* `Lexeme`: what a text is split into, with names and strings decoded;
* `Lexeme.next`, `Lexeme.split`: the first lexeme of a text, and all of them;
* `Lexeme.Apart`: one of two neighbours ends the other, whatever it is.

## Main results

* `Text.readEnclosed_doubled`: what is quoted is read back up to its closing delimiter;
* `Lexeme.next_text`: a lexeme in front of something that ends it is read as it is;
* `Lexeme.split_texts`: lexemes whose neighbours are apart are split as they are.
-/

namespace FilterSql

namespace Text

/-- A quoted text is read back up to its closing delimiter, unless another one follows. -/
theorem readEnclosed_doubled (q : Char) (s rest : List Char) (h : ∀ c ∈ rest.head?, c ≠ q) :
    readEnclosed q (doubled q s ++ q :: rest) = some (s, rest) := by
  -- inside, a delimiter is followed by another one; the closing one is not
  induction s with
  | nil =>
    cases rest with
    | nil => simp [readEnclosed]
    | cons c rest => simp [readEnclosed, h c rfl]
  | cons c s ih =>
    by_cases hc : c = q
    · simp [doubled_cons, hc, readEnclosed, ih]
    · rw [doubled_cons, if_neg hc, List.singleton_append, List.cons_append, readEnclosed.eq_def]
      simp [hc, ih]

/-- Reading a quoted text takes some of it. -/
theorem length_readEnclosed {q : Char} {cs s rest : List Char}
    (h : readEnclosed q cs = some (s, rest)) : rest.length < cs.length := by
  fun_induction readEnclosed q cs generalizing s rest with
  | case1 => cases h
  | case2 rest' ih =>
    obtain ⟨⟨s', r⟩, hread, hpair⟩ := Option.map_eq_some_iff.1 h
    obtain ⟨rfl, rfl⟩ := Prod.mk.inj hpair
    have := ih hread
    simp only [List.length_cons]
    omega
  | case3 d rest' hd =>
    obtain ⟨rfl, rfl⟩ : [] = s ∧ d :: rest' = rest := by simpa using h
    simp
  | case4 =>
    obtain ⟨rfl, rfl⟩ : [] = s ∧ [] = rest := by simpa using h
    simp
  | case5 c rest' hc ih =>
    obtain ⟨⟨s', r⟩, hread, hpair⟩ := Option.map_eq_some_iff.1 h
    obtain ⟨rfl, rfl⟩ := Prod.mk.inj hpair
    have := ih hread
    simp only [List.length_cons]
    omega

end Text

/-- What a statement is split into. Names and strings are without their delimiters. -/
inductive Lexeme where
  | space
  | word (text : List Char)
  | integer (digits : List Char)
  | identifier (name : String)
  | string (s : String)
  | placeholder (text : List Char)
  | punctuation (text : List Char)
deriving DecidableEq

namespace Dialect

/-- Whether a word may begin with a character. -/
def startsWord (c : Char) : Bool :=
  c.isAlpha || c == '_' || 128 ≤ c.toNat

/-- Whether a word goes on with a character. -/
def continuesWord (c : Char) : Bool :=
  c.isAlphanum || c == '_' || c == '$' || c == '@' || c == '#' || 128 ≤ c.toNat

/-- The character that a placeholder begins with. -/
def placeholderMark : Dialect → Char
  | sqlite | tsql => '@'
  | postgres => '$'
  | mysql => '?'

/-- Whether a placeholder goes on with a character. -/
def continuesPlaceholder : Dialect → Char → Bool
  | sqlite | tsql => continuesWord
  | postgres => Char.isDigit
  | mysql => fun _ => false

end Dialect

namespace Lexeme

/-- The signs that stand for themselves. -/
def signs : List Char :=
  [',', '.', '*', '(', ')', ';', '=', '<', '>', '+', '-', '/', '%', '!', '|', '&', '^', '~', ':']

/-- The pairs of signs that are read as one. The last two begin comments. -/
def pairs : List (Char × Char) :=
  [('<', '>'), ('<', '='), ('>', '='), ('!', '='), ('=', '='), ('|', '|'), ('<', '<'), ('>', '>'),
    (':', ':'), ('-', '-'), ('/', '*')]

/-- Read a sign, together with the next one if they are a pair. -/
def readSign (c : Char) : List Char → Lexeme × List Char
  | [] => (.punctuation [c], [])
  | e :: cs =>
    if pairs.contains (c, e) then (.punctuation [c, e], cs) else (.punctuation [c], e :: cs)

/-- The first lexeme of a text, and what follows it. -/
def next (d : Dialect) : List Char → Option (Lexeme × List Char)
  | [] => none
  | c :: cs =>
    if Dialect.startsWord c then
      some (.word (c :: cs.takeWhile Dialect.continuesWord), cs.dropWhile Dialect.continuesWord)
    else if c.isDigit then
      some (.integer (c :: cs.takeWhile Char.isDigit), cs.dropWhile Char.isDigit)
    else if c = d.placeholderMark then
      some (.placeholder (c :: cs.takeWhile d.continuesPlaceholder),
        cs.dropWhile d.continuesPlaceholder)
    else if c = d.delimiters.1 then
      (Text.readEnclosed d.delimiters.2 cs).map fun (s, rest) =>
        (.identifier (String.ofList s), rest)
    else if c = '\'' then
      (Text.readEnclosed '\'' cs).map fun (s, rest) => (.string (String.ofList s), rest)
    else if c = ' ' then some (.space, cs)
    else if signs.contains c then some (readSign c cs)
    else none

/-- A sign takes at most one more character. -/
theorem length_readSign (c : Char) (cs : List Char) : (readSign c cs).2.length ≤ cs.length := by
  unfold readSign
  split
  · simp
  · split <;> simp

/-- A lexeme takes some of the text. -/
theorem length_next {d : Dialect} {cs rest : List Char} {l : Lexeme}
    (h : next d cs = some (l, rest)) : rest.length < cs.length := by
  -- words, integers and placeholders go on with a part of the rest
  have htake (p : Char → Bool) (c : Char) (cs : List Char) :
      (cs.dropWhile p).length < (c :: cs).length :=
    Nat.lt_succ_of_le (List.dropWhile_suffix p).length_le
  -- names and strings take at least their closing delimiter
  have hquoted {q c : Char} {cs s rest : List Char}
      (hread : Text.readEnclosed q cs = some (s, rest)) :
      rest.length < (c :: cs).length :=
    Nat.lt_succ_of_lt (Text.length_readEnclosed hread)
  cases cs with
  | nil => cases h
  | cons c cs =>
    rw [next] at h
    split_ifs at h
    · obtain ⟨-, rfl⟩ := Prod.mk.inj (Option.some.inj h)
      exact htake _ c cs
    · obtain ⟨-, rfl⟩ := Prod.mk.inj (Option.some.inj h)
      exact htake _ c cs
    · obtain ⟨-, rfl⟩ := Prod.mk.inj (Option.some.inj h)
      exact htake _ c cs
    · obtain ⟨⟨s, r⟩, hread, hpair⟩ := Option.map_eq_some_iff.1 h
      obtain ⟨-, rfl⟩ := Prod.mk.inj hpair
      exact hquoted hread
    · obtain ⟨⟨s, r⟩, hread, hpair⟩ := Option.map_eq_some_iff.1 h
      obtain ⟨-, rfl⟩ := Prod.mk.inj hpair
      exact hquoted hread
    · obtain ⟨-, rfl⟩ := Prod.mk.inj (Option.some.inj h)
      simp
    · have hsign := length_readSign c cs
      rw [Option.some.inj h] at hsign
      exact Nat.lt_succ_of_le hsign

/-- The lexemes of a text, if it can be split at all. -/
def split (d : Dialect) (cs : List Char) : Option (List Lexeme) :=
  if cs.isEmpty then some []
  else
    match _h : next d cs with
    | some (l, rest) => (split d rest).map (l :: ·)
    | none => none
termination_by cs.length
decreasing_by exact length_next ‹_›

/-- The text of a lexeme. -/
def text (d : Dialect) : Lexeme → List Char
  | space => [' ']
  | word cs | integer cs | placeholder cs | punctuation cs => cs
  | identifier name =>
    d.delimiters.1 :: Text.doubled d.delimiters.2 name.toList ++ [d.delimiters.2]
  | string s => '\'' :: Text.doubled '\'' s.toList ++ ['\'']

/-- The text of a lexeme is of its kind. -/
def WellFormed (d : Dialect) : Lexeme → Prop
  | word cs => ∃ c rest, cs = c :: rest ∧ Dialect.startsWord c = true ∧
      ∀ e ∈ rest, Dialect.continuesWord e = true
  | integer cs => cs ≠ [] ∧ ∀ c ∈ cs, c.isDigit = true
  | placeholder cs => ∃ rest, cs = d.placeholderMark :: rest ∧
      ∀ e ∈ rest, d.continuesPlaceholder e = true
  | punctuation [c] => c ∈ signs ∧ c ≠ '/'
  | punctuation [c, e] => c ∈ signs ∧ (c, e) ∈ pairs
  | punctuation _ => False
  | space | identifier _ | string _ => True

/-- The characters that end every lexeme in front of them and go on with none behind them. -/
def separators : List Char :=
  [' ', ',', '.', '*', '(', ')', ';']

/-- Whether a lexeme is a separator. -/
def isSeparator : Lexeme → Bool
  | space => true
  | punctuation [c] => separators.contains c
  | _ => false

/-- One of two neighbours is a separator, so that the first one ends where it should. -/
def Apart (l l' : Lexeme) : Prop :=
  l.isSeparator = true ∨ l'.isSeparator = true

variable {d : Dialect} {l : Lexeme}

/-- A separator does not go on with a word. -/
theorem continuesWord_separator : ∀ c ∈ separators, Dialect.continuesWord c = false := by
  have hall : separators.all (!Dialect.continuesWord ·) = true := by decide
  simpa using hall

/-- A separator does not go on with a placeholder. -/
theorem continuesPlaceholder_separator (d : Dialect) :
    ∀ c ∈ separators, d.continuesPlaceholder c = false := by
  have hall : separators.all (!d.continuesPlaceholder ·) = true := by cases d <;> decide
  simpa using hall

/-- A separator is no closing delimiter. -/
theorem ne_delimiter_of_separator (d : Dialect) : ∀ c ∈ separators, c ≠ d.delimiters.2 := by
  have hall : separators.all (· != d.delimiters.2) = true := by cases d <;> decide
  simpa using hall

/-- A separator is no quote. -/
theorem ne_quote_of_separator : ∀ c ∈ separators, c ≠ '\'' := by
  have hall : separators.all (· != '\'') = true := by decide
  simpa using hall

/-- A separator begins no pair. -/
theorem not_pair_separator : ∀ c ∈ separators, ∀ e, (c, e) ∉ pairs := by
  have hfirst : pairs.all (fun p => !separators.contains p.1) = true := by decide
  intro c hc e hpair
  have hnot := List.all_eq_true.1 hfirst (c, e) hpair
  simp [hc] at hnot

/-- A separator ends no pair, except with a slash. -/
theorem not_pair_of_separator : ∀ e ∈ separators, ∀ c, c ≠ '/' → (c, e) ∉ pairs := by
  have hsecond : pairs.all (fun p => p.1 == '/' || !separators.contains p.2) = true := by decide
  intro e he c hc hpair
  have hnot := List.all_eq_true.1 hsecond (c, e) hpair
  simp [hc, he] at hnot

/-- A separator is no digit. -/
theorem isDigit_separator : ∀ c ∈ separators, c.isDigit = false := by
  have hall : separators.all (!Char.isDigit ·) = true := by decide
  simpa using hall

/-- A digit begins no word. -/
theorem startsWord_of_isDigit {c : Char} (h : c.isDigit = true) : Dialect.startsWord c = false := by
  have hrange : 48 ≤ c.toNat ∧ c.toNat ≤ 57 := by
    simpa [Char.isDigit, UInt32.le_iff_toNat_le] using h
  have hunderscore : c ≠ '_' := by
    rintro rfl
    exact absurd h (by decide)
  have hletter : c.isAlpha =
      (decide ('A'.val ≤ c.val ∧ c.val ≤ 'Z'.val) || ('a'.val ≤ c.val && c.val ≤ 'z'.val)) := rfl
  rw [Dialect.startsWord, hletter]
  simp [UInt32.le_iff_toNat_le, hunderscore]
  omega

/-- What goes on as long as it can ends at the first character that it cannot go on with. -/
theorem span_append {p : Char → Bool} {cs rest : List Char} (h : ∀ c ∈ cs, p c = true)
    (hrest : ∀ c ∈ rest.head?, p c = false) :
    (cs ++ rest).takeWhile p = cs ∧ (cs ++ rest).dropWhile p = rest := by
  rw [List.takeWhile_append_of_pos h, List.dropWhile_append_of_pos h]
  cases rest with
  | nil => simp
  | cons c rest => simp [hrest c rfl]

/-- A sign is read as a sign. -/
theorem next_sign {c : Char} (h : c ∈ signs) (cs : List Char) :
    next d (c :: cs) = some (readSign c cs) := by
  -- no sign begins a lexeme of another kind
  have hall : signs.all (fun c => !Dialect.startsWord c && !c.isDigit && c != d.placeholderMark &&
      c != d.delimiters.1 && c != '\'' && c != ' ') = true := by
    cases d <;> decide
  have hc := List.all_eq_true.1 hall c h
  simp only [Bool.and_eq_true, Bool.not_eq_true', bne_iff_ne, ne_eq] at hc
  obtain ⟨⟨⟨⟨⟨hword, hdigit⟩, hmark⟩, hopening⟩, hquote⟩, hblank⟩ := hc
  simp [next, hword, hdigit, hmark, hopening, hquote, hblank, h]

/-- A sign that makes no pair with what follows stands alone. -/
theorem readSign_of_not_pair {c : Char} {cs : List Char} (h : ∀ e ∈ cs.head?, (c, e) ∉ pairs) :
    readSign c cs = (.punctuation [c], cs) := by
  cases cs with
  | nil => rfl
  | cons e cs => simp [readSign, h e rfl]

/-- A lexeme in front of something that ends it is read as it is. -/
theorem next_text (hwf : l.WellFormed d) {rest : List Char}
    (hrest : l.isSeparator = true ∨ ∀ c ∈ rest.head?, c ∈ separators) :
    next d (l.text d ++ rest) = some (l, rest) := by
  -- nothing that a lexeme ends with goes on with what follows it
  cases l with
  | space => cases d <;> rfl
  | word cs =>
    obtain ⟨c, cs, rfl, hstart, hcs⟩ := hwf
    have hends : ∀ e ∈ rest.head?, Dialect.continuesWord e = false := fun e he =>
      continuesWord_separator e (hrest.resolve_left (by simp [isSeparator]) e he)
    obtain ⟨htake, hdrop⟩ := span_append hcs hends
    simp [text, next, hstart, htake, hdrop]
  | integer cs =>
    obtain ⟨hne, hcs⟩ := hwf
    obtain ⟨c, cs, rfl⟩ := List.exists_cons_of_ne_nil hne
    obtain ⟨hc, hcs⟩ := List.forall_mem_cons.1 hcs
    have hends : ∀ e ∈ rest.head?, e.isDigit = false := fun e he =>
      isDigit_separator e (hrest.resolve_left (by simp [isSeparator]) e he)
    obtain ⟨htake, hdrop⟩ := span_append hcs hends
    simp [text, next, startsWord_of_isDigit hc, hc, htake, hdrop]
  | placeholder cs =>
    obtain ⟨cs, rfl, hcs⟩ := hwf
    have hends : ∀ e ∈ rest.head?, d.continuesPlaceholder e = false := fun e he =>
      continuesPlaceholder_separator d e (hrest.resolve_left (by simp [isSeparator]) e he)
    obtain ⟨htake, hdrop⟩ := span_append hcs hends
    have hword : Dialect.startsWord d.placeholderMark = false := by cases d <;> decide
    have hdigit : d.placeholderMark.isDigit = false := by cases d <;> decide
    simp [text, next, hword, hdigit, htake, hdrop]
  | identifier name =>
    have hends : ∀ e ∈ rest.head?, e ≠ d.delimiters.2 := fun e he =>
      ne_delimiter_of_separator d e (hrest.resolve_left (by simp [isSeparator]) e he)
    have hread := Text.readEnclosed_doubled d.delimiters.2 name.toList rest hends
    have hword : Dialect.startsWord d.delimiters.1 = false := by cases d <;> decide
    have hdigit : d.delimiters.1.isDigit = false := by cases d <;> decide
    have hmark : d.delimiters.1 ≠ d.placeholderMark := by cases d <;> decide
    simp [text, next, hword, hdigit, hmark, hread]
  | string s =>
    have hends : ∀ e ∈ rest.head?, e ≠ '\'' := fun e he =>
      ne_quote_of_separator e (hrest.resolve_left (by simp [isSeparator]) e he)
    have hread := Text.readEnclosed_doubled '\'' s.toList rest hends
    have hword : Dialect.startsWord '\'' = false := by decide
    have hdigit : '\''.isDigit = false := by decide
    have hmark : '\'' ≠ d.placeholderMark := by cases d <;> decide
    have hopening : '\'' ≠ d.delimiters.1 := by cases d <;> decide
    simp [text, next, hword, hdigit, hmark, hopening, hread]
  | punctuation cs =>
    -- a sign by itself makes no pair, either as a separator or in front of one
    match cs, hwf with
    | [c], ⟨hsign, hslash⟩ =>
      refine (next_sign hsign _).trans (congrArg some (readSign_of_not_pair fun e he => ?_))
      rcases hrest with hseparator | hseparator
      · exact not_pair_separator c (by simpa [isSeparator] using hseparator) e
      · exact not_pair_of_separator e (hseparator e he) c hslash
    | [c, e], ⟨hsign, hpair⟩ =>
      exact (next_sign hsign _).trans (congrArg some (by simp [readSign, hpair]))

/-- A text is split into its first lexeme and the lexemes of what follows. -/
theorem split_of_next {cs rest : List Char} (h : next d cs = some (l, rest)) :
    split d cs = (split d rest).map (l :: ·) := by
  have hne : cs.isEmpty = false := by
    cases cs with
    | nil => cases h
    | cons c cs => rfl
  rw [split, hne, if_neg (by simp)]
  split
  · next l' rest' h' =>
    obtain ⟨rfl, rfl⟩ := Prod.mk.inj (Option.some.inj (h.symm.trans h'))
    rfl
  · next h' => cases h.symm.trans h'

/-- The text of a separator begins with it. -/
theorem head_text_separator (h : l.isSeparator = true) (rest : List Char) :
    ∀ c ∈ (l.text d ++ rest).head?, c ∈ separators := by
  unfold isSeparator at h
  split at h
  · simp [text, separators]
  · next c => simpa [text] using h
  · cases h

/-- Lexemes whose neighbours are apart are split as they are. -/
theorem split_texts {ls : List Lexeme} (hwf : ∀ l ∈ ls, l.WellFormed d)
    (hapart : ls.IsChain Apart) : split d (ls.flatMap (text d)) = some ls := by
  induction ls with
  | nil => rw [List.flatMap_nil, split, List.isEmpty_nil, if_pos rfl]
  | cons l ls ih =>
    obtain ⟨hl, hwf⟩ := List.forall_mem_cons.1 hwf
    obtain ⟨hnext, hapart⟩ := List.isChain_cons.1 hapart
    -- the first lexeme is a separator, or the text behind it begins with one
    have hends : l.isSeparator = true ∨
        ∀ c ∈ (ls.flatMap (text d)).head?, c ∈ separators := by
      cases ls with
      | nil => exact .inr (by simp)
      | cons l' ls =>
        rw [List.flatMap_cons]
        exact (hnext l' rfl).imp_right fun h => head_text_separator h _
    rw [List.flatMap_cons, split_of_next (next_text hl hends), ih hwf hapart]
    rfl

end Lexeme

end FilterSql
