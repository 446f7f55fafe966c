import FilterSql.Dialect

/-!
# Tokens

Statements are put together from tokens and become text at the very end, when the quoting and
placeholder rules of a dialect are applied.
-/

namespace FilterSql

/-- The fixed words of statements. -/
inductive Keyword where
  | select | «from» | «where» | and | or | not | as | on | orderBy | asc | desc | limit | offset
  | fetch | next | rows | only | top | «in» | between | like | escape | isNull | isNotNull | count
  | insert | into | values | default | update | set | returning | output | inserted | excluded
  | «using» | conflict | «do» | nothing | merge | when | matched | «then» | duplicate | key
deriving DecidableEq, Repr

/-- Punctuation, comparison signs and the blank between words. -/
inductive Mark where
  | comma | dot | star | openParen | closeParen | semicolon
  | eq | ne | lt | gt | le | ge
  | space
deriving DecidableEq, Repr

/-- The text of a fixed word. -/
def Keyword.text : Keyword → String
  | select => "SELECT"
  | «from» => "FROM"
  | «where» => "WHERE"
  | and => "AND"
  | or => "OR"
  | not => "NOT"
  | as => "AS"
  | on => "ON"
  | orderBy => "ORDER BY"
  | asc => "ASC"
  | desc => "DESC"
  | limit => "LIMIT"
  | offset => "OFFSET"
  | fetch => "FETCH"
  | next => "NEXT"
  | rows => "ROWS"
  | only => "ONLY"
  | top => "TOP"
  | «in» => "IN"
  | between => "BETWEEN"
  | like => "LIKE"
  | escape => "ESCAPE"
  | isNull => "IS NULL"
  | isNotNull => "IS NOT NULL"
  | count => "COUNT"
  | insert => "INSERT"
  | into => "INTO"
  | values => "VALUES"
  | default => "DEFAULT"
  | update => "UPDATE"
  | set => "SET"
  | returning => "RETURNING"
  | output => "OUTPUT"
  | inserted => "INSERTED"
  | excluded => "excluded"
  | «using» => "USING"
  | conflict => "CONFLICT"
  | «do» => "DO"
  | nothing => "NOTHING"
  | merge => "MERGE"
  | when => "WHEN"
  | matched => "MATCHED"
  | «then» => "THEN"
  | duplicate => "DUPLICATE"
  | key => "KEY"

/-- The text of a mark. -/
def Mark.text : Mark → String
  | comma => ","
  | dot => "."
  | star => "*"
  | openParen => "("
  | closeParen => ")"
  | semicolon => ";"
  | eq => "="
  | ne => "<>"
  | lt => "<"
  | gt => ">"
  | le => "<="
  | ge => ">="
  | space => " "

/-- An element of a statement. -/
inductive Token where
  | word (w : Keyword)
  | mark (m : Mark)
  /-- A table, column or alias name. -/
  | ident (name : String)
  /-- A name with an optional schema in front. -/
  | qualified (schema : Option String) (name : String)
  | integer (n : Int)
  /-- A string literal. -/
  | literal (s : String)
  /-- The placeholder of the parameter at a zero-based position. -/
  | param (name : String) (index : Nat)
  /-- Text of the caller, passed on as it is. It has to be trusted. -/
  | raw (sql : String)
deriving DecidableEq, Repr

namespace Token

/-- The blank between words. -/
abbrev space : Token := .mark .space

/-- The text of a token that is the same in every dialect and carries no data. -/
def fixedText? : Token → Option String
  | word w => some w.text
  | mark m => some m.text
  | _ => none

/-- The text of a token in a dialect. -/
def render (d : Dialect) : Token → String
  | word w => w.text
  | mark m => m.text
  | ident name => d.quote name
  | qualified none name => d.quote name
  | qualified (some schema) name => d.quote schema ++ "." ++ d.quote name
  | integer n => Numeral.text n
  | literal s => Text.enclosed '\'' '\'' s
  | param name index => d.placeholder name index
  | raw sql => sql

/-- The text of several tokens, one behind the other. -/
def renderAll (d : Dialect) (ts : List Token) : String :=
  String.join (ts.map (render d))

/-- Phrases with a blank between each two. -/
def spaced (phrases : List (List Token)) : List Token :=
  [space].intercalate phrases

/-- Phrases with a comma and a blank between each two. -/
def commaSeparated (phrases : List (List Token)) : List Token :=
  [.mark .comma, space].intercalate phrases

/-- A phrase between parentheses. -/
def parenthesized (phrase : List Token) : List Token :=
  .mark .openParen :: phrase ++ [.mark .closeParen]

section

variable {sep : List Token} {phrases : List (List Token)}

/-- What holds of no tokens and of two parts around a separator holds of phrases with the separator
between each two when it holds of each of them. -/
theorem intercalate_induction {P : List Token → Prop} (hnil : P [])
    (hsep : ∀ {ts us}, P ts → P us → P (ts ++ sep ++ us)) (h : ∀ p ∈ phrases, P p) :
    P (sep.intercalate phrases) := by
  induction phrases with
  | nil => simpa using hnil
  | cons p phrases ih =>
    obtain ⟨hp, hphrases⟩ := List.forall_mem_cons.1 h
    cases phrases with
    | nil => simpa using hp
    | cons q phrases =>
      rw [List.intercalate_cons_cons]
      exact hsep hp (ih hphrases)

/-- What is collected from tokens part by part is collected from the phrases between separators in
which there is nothing of it. -/
theorem collect_intercalate {α : Type} {collect : List Token → List α}
    (happend : ∀ ts us, collect (ts ++ us) = collect ts ++ collect us) (hsep : collect sep = []) :
    collect (sep.intercalate phrases) = phrases.flatMap collect := by
  induction phrases with
  | nil => simpa using happend [] []
  | cons p phrases ih =>
    cases phrases with
    | nil => simp
    | cons q phrases =>
      rw [List.intercalate_cons_cons, happend, happend, hsep, ih]
      simp

end

/-- The text of a sequence is the text of its parts. -/
theorem renderAll_append (d : Dialect) (s t : List Token) :
    renderAll d (s ++ t) = renderAll d s ++ renderAll d t := by
  simp [renderAll]

end Token

end FilterSql
