import FilterSql.Proofs.Precedence
import Mathlib.Computability.Language

/-!
# The grammar of statements

What a database accepts, as languages over the tokens of a statement without the blanks between
them: one language for each dialect, put together from words, names and parameters by union,
concatenation and repetition. Only conditions refer to themselves; they are derived by the three
levels of precedence.

## Main definitions

* `Grammar.Derives`, `Grammar.condition`: conditions;
* `Grammar.select`, `Grammar.count`, `Grammar.upsert`: the commands of a dialect;
* `Grammar.sentence`: the statements of a dialect.

## Main results

* `Grammar.cons_mem_word_mul`, `Grammar.cons_mem_mark_mul`, `Grammar.cons_mem_table_mul`: what a
  sequence starts with decides how it goes on;
* `Grammar.intercalate_mem_listed`: items with commas between them are a list;
* `Node.derives_phrase`, `Group.words_wherePhrases_mem`: what is written for a tree is a condition.
-/

namespace FilterSql

open Computability

namespace Grammar

/-- A fixed word. -/
def word (w : Keyword) : Language Token := {[.word w]}

/-- A mark. -/
def mark (m : Mark) : Language Token := {[.mark m]}

/-- Something that may be left out. -/
def optional (l : Language Token) : Language Token := 1 + l

/-- One or more items with a separator between each two. -/
def separated (separator item : Language Token) : Language Token := item * (separator * item)∗

/-- One or more items with commas between them. -/
def listed (item : Language Token) : Language Token := separated (mark .comma) item

/-- Something between parentheses. -/
def enclosed (l : Language Token) : Language Token := mark .openParen * l * mark .closeParen

/-- The name of a column, or an alias. -/
def name : Language Token := {ts | ∃ n, ts = [.ident n]}

/-- The name of a table, with or without a schema. -/
def table : Language Token := {ts | ∃ schema n, ts = [.qualified schema n]}

/-- The placeholder of a parameter. -/
def parameter : Language Token := {ts | ∃ n i, ts = [.param n i]}

/-- A number without a sign. -/
def number : Language Token := {ts | ∃ n : Nat, ts = [.integer n]}

/-- A string of one character. -/
def character : Language Token := {ts | ∃ c : Char, ts = [.literal c.toString]}

/-- A column of an alias or of a row that has a name of its own. -/
def columnOf (row : Language Token) : Language Token := row * mark .dot * name

/-! ### Conditions -/

/-- What stands in a test. -/
def operand : Language Token := name + number + parameter

/-- The sign of a comparison. -/
def sign : Language Token :=
  mark .eq + mark .ne + mark .lt + mark .le + mark .gt + mark .ge

/-- A membership, range or pattern test, behind its subject. -/
def plainTest : Language Token :=
  word .in * enclosed (listed operand) + word .between * operand * word .and * operand +
    word .like * operand * optional (word .escape * character)

/-- A single test. -/
def test : Language Token :=
  operand * (sign * operand + word .isNull + word .isNotNull + optional (word .not) * plainTest)

/-- Conditions by levels of precedence: `NOT` binds tighter than `AND`, and `AND` tighter than
`OR`. -/
inductive Derives : Expression.Level → List Token → Prop
  /-- A single test. -/
  | test {ts : List Token} (h : ts ∈ Grammar.test) : Derives .factor ts
  /-- A negation. -/
  | not {ts : List Token} (h : Derives .factor ts) : Derives .factor (.word .not :: ts)
  /-- Any condition between parentheses. -/
  | parenthesized {ts : List Token} (h : Derives .disjunction ts) :
    Derives .factor (.mark .openParen :: ts ++ [.mark .closeParen])
  /-- A conjunction of one part. -/
  | conjunction {ts : List Token} (h : Derives .factor ts) : Derives .conjunction ts
  /-- A longer conjunction. -/
  | and {ts ts' : List Token} (h : Derives .factor ts) (h' : Derives .conjunction ts') :
    Derives .conjunction (ts ++ .word .and :: ts')
  /-- A disjunction of one part. -/
  | disjunction {ts : List Token} (h : Derives .conjunction ts) : Derives .disjunction ts
  /-- A longer disjunction. -/
  | or {ts ts' : List Token} (h : Derives .conjunction ts) (h' : Derives .disjunction ts') :
    Derives .disjunction (ts ++ .word .or :: ts')

/-- A condition. -/
def condition : Language Token := {ts | Derives .disjunction ts}

/-- A condition on rows, if there is one. -/
def whereClause : Language Token := optional (word .where * condition)

/-! ### Reading rows -/

/-- `TOP (n)` -/
def top : Language Token := word .top * enclosed number

/-- `ORDER BY` with its terms. -/
def orderBy : Language Token :=
  word .orderBy * listed (name * optional (word .asc + word .desc))

/-- `LIMIT n [OFFSET m]` -/
def limit : Language Token := word .limit * number * optional (word .offset * number)

/-- `OFFSET m ROWS FETCH NEXT n ROWS ONLY` -/
def offsetFetch : Language Token :=
  word .offset * number * word .rows * word .fetch * word .next * number * word .rows * word .only

/-- The ordering and the wanted rows. In T-SQL, rows can only be skipped in an ordered result. -/
def ending : Dialect → Language Token
  | .tsql => optional (orderBy * optional offsetFetch)
  | _ => optional orderBy * optional limit

/-- A row limit in front of the columns, which only T-SQL knows. -/
def beginning : Dialect → Language Token
  | .tsql => optional top
  | _ => 1

/-- A `SELECT`. -/
def select (d : Dialect) : Language Token :=
  word .select * beginning d * (mark .star + listed name) * word .from * table * whereClause *
    ending d

/-- A `SELECT COUNT(*)`. -/
def count : Language Token :=
  word .select * word .count * enclosed (mark .star) * word .as * name * word .from * table *
    whereClause

/-! ### Writing rows -/

/-- Assignments of values to columns. -/
def assignments (value : Language Token) : Language Token := listed (name * mark .eq * value)

/-- The columns and the values of a new row. -/
def row (value : Language Token) : Language Token :=
  enclosed (listed name) * word .values * enclosed (listed value)

/-- A new row of default values. -/
def defaultRow : Language Token := word .default * word .values

/-- `INSERT … ON CONFLICT … [RETURNING …]` -/
def insertOnConflict : Language Token :=
  word .insert * word .into * table *
    (row parameter * word .on * word .conflict * enclosed (listed name) * word .do *
        (word .nothing + word .update * word .set * assignments (columnOf (word .excluded))) +
      defaultRow) *
    optional (word .returning * name)

/-- `INSERT … ON DUPLICATE KEY UPDATE …`, where default values cannot be asked for. -/
def insertOnDuplicateKey : Language Token :=
  word .insert * word .into * table * row parameter * word .on * word .duplicate * word .key *
    word .update * assignments (word .values * enclosed name + name)

/-- Equalities that all have to hold. -/
def equalities : Language Token :=
  separated (word .and) (columnOf name * mark .eq * columnOf name)

/-- `MERGE … USING … WHEN NOT MATCHED … [WHEN MATCHED …] [OUTPUT …] ;` -/
def merge : Language Token :=
  word .merge * word .into * table * word .as * name * word .using *
    enclosed (word .select * listed (parameter * word .as * name)) * word .as * name * word .on *
    enclosed equalities * word .when * word .not * word .matched * word .then * word .insert *
    (row (columnOf name) + defaultRow) *
    optional (word .when * word .matched * word .then * word .update * word .set *
      assignments (columnOf name)) *
    optional (word .output * columnOf (word .inserted) * word .as * name) * mark .semicolon

/-- An upsert. -/
def upsert : Dialect → Language Token
  | .sqlite | .postgres => insertOnConflict
  | .mysql => insertOnDuplicateKey
  | .tsql => merge

/-- A statement of a dialect. -/
def sentence (d : Dialect) : Language Token := select d + count + upsert d

/-! ### Sequences -/

variable {l m : Language Token} {t u : Token} {ts us : List Token}

/-- A sequence that begins with something of one token. -/
theorem cons_mem_mul_iff (h : ∀ us ∈ l, us.length = 1) : t :: ts ∈ l * m ↔ [t] ∈ l ∧ ts ∈ m := by
  rw [Language.mem_mul]
  constructor
  · rintro ⟨us, hus, vs, hvs, heq⟩
    obtain ⟨u, rfl⟩ := List.length_eq_one_iff.1 (h us hus)
    obtain ⟨rfl, rfl⟩ := List.cons.inj heq
    exact ⟨hus, hvs⟩
  · rintro ⟨ht, hts⟩
    exact ⟨[t], ht, ts, hts, rfl⟩

/-- A sequence that begins with a word. -/
@[simp]
theorem cons_mem_word_mul {w : Keyword} : t :: ts ∈ word w * l ↔ t = .word w ∧ ts ∈ l :=
  (cons_mem_mul_iff (by rintro _ rfl; rfl)).trans (and_congr_left' List.singleton_inj)

/-- A sequence that begins with a mark. -/
@[simp]
theorem cons_mem_mark_mul {k : Mark} : t :: ts ∈ mark k * l ↔ t = .mark k ∧ ts ∈ l :=
  (cons_mem_mul_iff (by rintro _ rfl; rfl)).trans (and_congr_left' List.singleton_inj)

/-- A sequence that begins with a table. -/
@[simp]
theorem cons_mem_table_mul : t :: ts ∈ table * l ↔ [t] ∈ table ∧ ts ∈ l :=
  cons_mem_mul_iff (by rintro _ ⟨schema, n, rfl⟩; rfl)

/-- A sequence that begins with a name. -/
@[simp]
theorem cons_mem_name_mul : t :: ts ∈ name * l ↔ [t] ∈ name ∧ ts ∈ l :=
  cons_mem_mul_iff (by rintro _ ⟨n, rfl⟩; rfl)

/-- A sequence that begins with a number. -/
@[simp]
theorem cons_mem_number_mul : t :: ts ∈ number * l ↔ [t] ∈ number ∧ ts ∈ l :=
  cons_mem_mul_iff (by rintro _ ⟨n, rfl⟩; rfl)

/-- A sequence that begins with a parameter. -/
@[simp]
theorem cons_mem_parameter_mul : t :: ts ∈ parameter * l ↔ [t] ∈ parameter ∧ ts ∈ l :=
  cons_mem_mul_iff (by rintro _ ⟨n, i, rfl⟩; rfl)

/-- A single word. -/
@[simp]
theorem singleton_mem_word {w : Keyword} : [t] ∈ word w ↔ t = .word w :=
  List.singleton_inj

/-- A single mark. -/
@[simp]
theorem singleton_mem_mark {k : Mark} : [t] ∈ mark k ↔ t = .mark k :=
  List.singleton_inj

/-- A name is a name. -/
@[simp]
theorem ident_mem_name (n : String) : [.ident n] ∈ name :=
  ⟨n, rfl⟩

/-- A placeholder is a parameter. -/
@[simp]
theorem slot_mem_parameter (i : Nat) : [Token.slot i] ∈ parameter :=
  ⟨_, i, rfl⟩

/-- A table is a table. -/
@[simp]
theorem qualified_mem_table (schema : Option String) (n : String) : [.qualified schema n] ∈ table :=
  ⟨schema, n, rfl⟩

/-- A natural number has no sign. -/
@[simp]
theorem natCast_mem_number (n : Nat) : [.integer n] ∈ number :=
  ⟨n, rfl⟩

/-- What may be left out may be left out. -/
@[simp]
theorem nil_mem_optional : [] ∈ optional l :=
  .inl rfl

/-- What may be left out may be there. -/
theorem mem_optional (h : ts ∈ l) : ts ∈ optional l :=
  .inr h

/-- Items with a separator between each two are a separated list. -/
theorem intercalate_mem_separated {separator item : Language Token} {sep : List Token}
    (hsep : sep ∈ separator) {phrases : List (List Token)} (hne : phrases ≠ [])
    (h : ∀ p ∈ phrases, p ∈ item) : sep.intercalate phrases ∈ separated separator item := by
  induction phrases with
  | nil => exact absurd rfl hne
  | cons p phrases ih =>
    obtain ⟨hp, hphrases⟩ := List.forall_mem_cons.1 h
    cases phrases with
    | nil =>
      rw [List.intercalate_singleton, ← List.append_nil p]
      exact Language.append_mem_mul hp (Language.nil_mem_kstar _)
    | cons q phrases =>
      rw [List.intercalate_cons_cons, List.append_assoc]
      refine Language.append_mem_mul hp ?_
      -- the rest of the list is one more item behind a separator, and what follows that
      have hrest := Language.append_mem_mul hsep (ih (List.cons_ne_nil q phrases) hphrases)
      rw [separated, ← mul_assoc] at hrest
      rw [← Language.one_add_self_mul_kstar_eq_kstar]
      exact .inr hrest

/-! ### Phrases -/

end Grammar

namespace Token

/-- Phrases without the blanks in and between them. -/
def words (phrases : List (List Token)) : List Token :=
  (phrases.map blankless).flatten

/-- No phrases. -/
@[simp]
theorem words_nil : words [] = [] := rfl

/-- A phrase and further ones. -/
@[simp]
theorem words_cons (p : List Token) (phrases : List (List Token)) :
    words (p :: phrases) = blankless p ++ words phrases := rfl

/-- Phrases and further ones. -/
@[simp]
theorem words_append (phrases phrases' : List (List Token)) :
    words (phrases ++ phrases') = words phrases ++ words phrases' := by
  rw [words, words, words, List.map_append, List.flatten_append]

/-- Without the blanks, only the words of phrases are left. -/
theorem blankless_spaced_eq_words (phrases : List (List Token)) :
    blankless (spaced phrases) = words phrases :=
  blankless_spaced phrases

/-- A blank is left out. -/
@[simp]
theorem blankless_space_cons (ts : List Token) : blankless (space :: ts) = blankless ts := rfl

end Token

namespace Grammar

variable {l : Language Token} {ts : List Token}

/-- Phrases with commas between them are a list. -/
theorem commaSeparated_mem_listed {phrases : List (List Token)} (hne : phrases ≠ [])
    (h : ∀ p ∈ phrases, Token.blankless p ∈ l) :
    Token.blankless (Token.commaSeparated phrases) ∈ listed l := by
  rw [Token.blankless_commaSeparated]
  refine intercalate_mem_separated (singleton_mem_mark.2 rfl) (mt List.map_eq_nil_iff.1 hne) ?_
  exact List.forall_mem_map.2 h

/-- A phrase between parentheses is enclosed. -/
theorem parenthesized_mem_enclosed (h : Token.blankless ts ∈ l) :
    Token.blankless (Token.parenthesized ts) ∈ enclosed l := by
  rw [Token.blankless_parenthesized, enclosed, mul_assoc, List.cons_append, cons_mem_mark_mul]
  exact ⟨rfl, Language.append_mem_mul h rfl⟩

/-! ### Writing conditions -/

/-- A placeholder may stand in a test. -/
theorem slot_mem_operand (i : Nat) : [Token.slot i] ∈ operand :=
  .inr (slot_mem_parameter i)

/-- The sign of a comparison is one. -/
theorem mark_mem_sign (op : Comparison) : [.mark op.mark] ∈ sign := by
  cases op <;> simp only [sign, Language.mem_add, singleton_mem_mark] <;> decide

/-- The words of a relation, negated or not, are a test of whatever stands in front of them. -/
theorem negated_mem {negated : Bool} {phrases : List (List Token)}
    (h : Token.words phrases ∈ plainTest) :
    Token.words (Token.notPhrase negated ++ phrases) ∈ optional (word .not) * plainTest := by
  rw [Token.words_append]
  refine Language.append_mem_mul ?_ h
  cases negated with
  | true => exact mem_optional rfl
  | false => exact nil_mem_optional

/-- What a relation adds behind the column is what may stand behind the subject of a test. -/
theorem words_phrases_mem {r : Relation} (h : ∀ negated, r ≠ .isIn negated []) :
    Token.words r.phrases ∈
      sign * operand + word .isNull + word .isNotNull + optional (word .not) * plainTest := by
  cases r with
  | compare op i =>
    refine .inl (.inl (.inl ?_))
    have hmark := Language.append_mem_mul (mark_mem_sign op) (slot_mem_operand i)
    cases op <;> exact hmark
  | isNull negated => cases negated with
    | true => exact .inl (.inr rfl)
    | false => exact .inl (.inl (.inr rfl))
  | isIn negated is =>
    have hne : is ≠ [] := fun hnil => h negated (hnil ▸ rfl)
    have hlist : Token.blankless (Token.commaSeparated (is.map fun i => [Token.slot i])) ∈
        listed operand :=
      commaSeparated_mem_listed (mt List.map_eq_nil_iff.1 hne)
        (List.forall_mem_map.2 fun i _ => slot_mem_operand i)
    refine .inr (negated_mem (.inl (.inl ?_)))
    rw [Token.words_cons, Token.words_cons, Token.words_nil, List.append_nil]
    exact Language.append_mem_mul rfl (parenthesized_mem_enclosed hlist)
  | between negated low high =>
    refine .inr (negated_mem (.inl (.inr ?_)))
    simp only [mul_assoc]
    refine Language.append_mem_mul rfl ?_
    refine Language.append_mem_mul (slot_mem_operand low) ?_
    exact Language.append_mem_mul rfl (slot_mem_operand high)
  | like negated pattern escape =>
    rw [Relation.phrases.eq_def]
    dsimp only
    rw [List.append_assoc]
    refine .inr (negated_mem (.inr ?_))
    simp only [mul_assoc]
    refine Language.append_mem_mul (a := [Token.word .like]) rfl ?_
    refine Language.append_mem_mul (slot_mem_operand pattern) ?_
    cases escape with
    | none => exact nil_mem_optional
    | some c => exact mem_optional (Language.append_mem_mul (a := [Token.word .escape]) rfl ⟨c, rfl⟩)

/-- A test is a condition. -/
theorem derives_test {t : Test} (h : t.Writable) :
    Derives .factor (Token.blankless t.tokens) := by
  rw [Test.tokens, Token.blankless_spaced_eq_words, Token.words_cons]
  exact .test (Language.append_mem_mul (.inl (.inl (ident_mem_name _))) (words_phrases_mem h))

/-- The condition that no row meets is a condition. -/
theorem derives_never : Derives .factor (Token.blankless Token.never) := by
  have hnumber (n : Nat) : [.integer n] ∈ operand := .inl (.inr (natCast_mem_number n))
  have hcompared := Language.append_mem_mul (mark_mem_sign .eq) (hnumber 0)
  exact .test (Language.append_mem_mul (hnumber 1) (.inl (.inl (.inl hcompared))))

/-- Factors joined by a connective are a condition. -/
theorem Derives.joined (conjunction : Conjunction) {p : List Token} {parts : List (List Token)}
    (h : Derives .factor p) (hs : ∀ q ∈ parts, Derives .factor q) :
    Derives .disjunction ([Token.word conjunction.keyword].intercalate (p :: parts)) := by
  -- factors make up a conjunction as they are; a disjunction takes each as a conjunction of one
  cases conjunction with
  | and =>
    refine .disjunction ?_
    induction parts generalizing p with
    | nil =>
      rw [List.intercalate_singleton]
      exact .conjunction h
    | cons q parts ih =>
      obtain ⟨hq, hparts⟩ := List.forall_mem_cons.1 hs
      rw [List.intercalate_cons_cons, List.append_assoc]
      exact .and h (ih hq hparts)
  | or =>
    induction parts generalizing p with
    | nil =>
      rw [List.intercalate_singleton]
      exact .disjunction (.conjunction h)
    | cons q parts ih =>
      obtain ⟨hq, hparts⟩ := List.forall_mem_cons.1 hs
      rw [List.intercalate_cons_cons, List.append_assoc]
      exact .or (.conjunction h) (ih hq hparts)

/-- What is written for a group is a condition: a factor where the group is nested, so that it may
stand between any neighbours. -/
theorem derives_combine {conjunction : Conjunction} {negated : Bool} (nested : Bool)
    {parts : List (List Token)} (hparts : ∀ p ∈ parts, Derives .factor (Token.blankless p))
    {p : List Token} (h : Token.combine conjunction negated nested parts = some p) :
    Derives (if nested then .factor else .disjunction) (Token.blankless p) := by
  have loosen {ts : List Token} (hts : Derives .factor ts) :
      Derives (if nested then .factor else .disjunction) ts := by
    cases nested
    · exact .disjunction (.conjunction hts)
    · exact hts
  cases parts with
  | nil =>
    cases negated with
    | false => cases h
    | true =>
      obtain rfl := Option.some.inj h
      exact loosen derives_never
  | cons q parts =>
    obtain ⟨hq, hrest⟩ := List.forall_mem_cons.1 hparts
    have hjoined := hq.joined conjunction (List.forall_mem_map.2 hrest)
    rw [← List.map_cons] at hjoined
    have hblankless : Token.blankless
        ([Token.space, .word conjunction.keyword, Token.space].intercalate (q :: parts)) =
        [Token.word conjunction.keyword].intercalate ((q :: parts).map Token.blankless) := by
      rw [Token.blankless_intercalate]
      rfl
    rw [← hblankless] at hjoined
    have hwrapped := hjoined.parenthesized
    rw [← Token.blankless_parenthesized] at hwrapped
    obtain rfl := Option.some.inj h
    -- parentheses are left out at the root and around a single part, unless they are negated
    cases negated with
    | true => exact loosen hwrapped.not
    | false => cases nested with
      | false => exact hjoined
      | true => cases parts with
        | nil => simpa using hq
        | cons => exact hwrapped

end Grammar

namespace Node

open Grammar

mutual

/-- What is written for a nested tree is a condition that may stand between any neighbours. -/
theorem derives_phrase {n : Node Test} (hn : ∀ t ∈ n.leaves, t.Writable) {p : List Token}
    (h : n.phrase? = some p) : Derives .factor (Token.blankless p) := by
  cases n with
  | leaf t =>
    obtain rfl := Option.some.inj h
    exact derives_test (hn t (List.mem_singleton.2 rfl))
  | group conjunction negated children =>
    exact derives_combine true (derives_phrasesOf children hn) h

/-- What is written for nested trees are such conditions. -/
theorem derives_phrasesOf (ns : List (Node Test)) (hns : ∀ t ∈ leavesOf ns, t.Writable) :
    ∀ p ∈ phrasesOf ns, Derives .factor (Token.blankless p) := by
  cases ns with
  | nil => nofun
  | cons child rest =>
    have hrest := derives_phrasesOf rest fun t ht => hns t (List.mem_append_right _ ht)
    rw [phrasesOf]
    split
    · next p hp =>
      have hchild := derives_phrase (n := child) (fun t ht => hns t (List.mem_append_left _ ht)) hp
      exact List.forall_mem_cons.2 ⟨hchild, hrest⟩
    · exact hrest

end

end Node

/-- What is written for the condition of a statement is a condition, or nothing. -/
theorem Group.words_wherePhrases_mem {g : Group Test}
    (h : ∀ t ∈ Node.leavesOf g.children, t.Writable) :
    Token.words g.wherePhrases ∈ Grammar.whereClause := by
  unfold wherePhrases
  cases hp : g.phrase? with
  | none => exact Grammar.nil_mem_optional
  | some p =>
    have hcondition := Grammar.derives_combine false (Node.derives_phrasesOf g.children h) hp
    rw [← List.append_nil (Token.blankless p)] at hcondition
    exact Grammar.mem_optional (Language.append_mem_mul (a := [Token.word .where]) rfl hcondition)

end FilterSql
