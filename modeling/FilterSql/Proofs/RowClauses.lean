import FilterSql.Proofs.Assignments
import FilterSql.Proofs.Paging
import FilterSql.Proofs.Requests
import FilterSql.Proofs.Vocabulary
import FilterSql.Store.Engine
import Mathlib.Algebra.Group.Nat.Defs

/-!
# Clauses that pick rows

A dialect is told which rows of an ordered result are wanted in a clause of its own. The clauses
name the two numbers of a page in different orders, and one of them stands in front of the columns;
each of them has to mean what the page means.

## Main definitions

* `RowClause`: a clause that picks rows, and the rows that it picks;
* `Statement.rowClauses`: the clauses of a statement that pick rows;
* `Statement.Picks`: a statement picks the rows that a request asks for.

## Main results

* `Select.rowClauses_tokens`: the clause that picks the rows of a `SELECT`;
* `Builder.picks_run`: the statement of a request picks the rows that it asks for;
* `Builder.pages_tile`: pages and their clauses taken together.
-/

namespace FilterSql

/-- A clause that picks rows of an ordered result. -/
inductive RowClause where
  /-- `TOP (n)` -/
  | top (count : Int)
  /-- `LIMIT n`, and `OFFSET m` behind it or not -/
  | limit (count : Int) (offset : Option Int)
  /-- `OFFSET m ROWS`, and `FETCH NEXT n ROWS ONLY` behind it or not -/
  | offset (start : Int) (fetch : Option Int)
deriving DecidableEq

namespace RowClause

variable {α : Type}

/-- The rows that a clause picks. An offset counts the rows that are passed over, and the other
number is the greatest number of rows that are picked. -/
def rows (c : RowClause) (result : List α) : List α :=
  match c with
  | top count | limit count none => result.take count.toNat
  | limit count (some start) => (result.drop start.toNat).take count.toNat
  | offset start none => result.drop start.toNat
  | offset start (some count) => (result.drop start.toNat).take count.toNat

/-- The clause that tokens begin with. -/
def read? : List Token → Option RowClause
  | .word .top :: .mark .openParen :: .integer n :: .mark .closeParen :: _ => some (top n)
  | .word .limit :: .integer n :: .word .offset :: .integer m :: _ => some (limit n (some m))
  | .word .limit :: .integer n :: _ => some (limit n none)
  | .word .offset :: .integer m :: .word .rows :: .word .fetch :: .word .next :: .integer n ::
      .word .rows :: .word .only :: _ => some (offset m (some n))
  | .word .offset :: .integer m :: .word .rows :: _ => some (offset m none)
  | _ => none

/-- The words that a clause begins with. -/
def openers : List Keyword :=
  [.top, .limit, .offset]

/-- No clause begins with another token. -/
theorem read?_cons_eq_none {t : Token} (h : ∀ w ∈ openers, .word w ≠ t) (ts : List Token) :
    read? (t :: ts) = none := by
  unfold read?
  split
  case h_6 => rfl
  all_goals
    rename_i heq
    obtain ⟨rfl, -⟩ := List.cons.inj heq
    simp [openers] at h

/-- Tokens without the words that a clause begins with hold no clause. -/
theorem findings_append {ts us : List Token} (h : ∀ w ∈ openers, .word w ∉ ts) :
    Token.findings read? (ts ++ us) = Token.findings read? us := by
  induction ts with
  | nil => rfl
  | cons t ts ih =>
    have hhead : ∀ w ∈ openers, .word w ≠ t := fun w hw => List.ne_of_not_mem_cons (h w hw)
    have htail : ∀ w ∈ openers, .word w ∉ ts := fun w hw => List.not_mem_of_not_mem_cons (h w hw)
    rw [List.cons_append, Token.findings_cons_of_none (read?_cons_eq_none hhead _), ih htail]

end RowClause

/-- The clauses among some tokens that pick rows. -/
def Token.rowClauses (ts : List Token) : List RowClause :=
  findings RowClause.read? (blankless ts)

/-- The clauses of a statement that pick rows. -/
def Statement.rowClauses (st : Statement) : List RowClause :=
  Token.rowClauses st.tokens

/-- Phrases without the words that a clause begins with. -/
def RowClause.Free (phrases : List (List Token)) : Prop :=
  ∀ w ∈ openers, ∀ p ∈ phrases, .word w ∉ p

namespace RowClause

variable {before after : List (List Token)}

/-- Phrases are free of clauses when their parts are. -/
theorem Free.append (h : Free before) (h' : Free after) : Free (before ++ after) := fun w hw =>
  List.forall_mem_append.2 ⟨h w hw, h' w hw⟩

/-- A phrase is free of clauses when no opening word is in it. -/
theorem free_singleton {p : List Token} (h : ∀ w ∈ openers, .word w ∉ p) : Free [p] := fun w hw =>
  List.forall_mem_singleton.2 (h w hw)

end RowClause

namespace Token

open RowClause (Free)

variable {before after : List (List Token)}

/-- The first word of a clause stands in no phrase in front of it. -/
theorem rowClauses_spaced_append (h : Free before) :
    rowClauses (spaced (before ++ after)) = rowClauses (spaced after) := by
  have hbefore : ∀ w ∈ RowClause.openers, .word w ∉ (before.map blankless).flatten := by
    intro w hw hmem
    obtain ⟨_, hphrase, hmem⟩ := List.mem_flatten.1 hmem
    obtain ⟨p, hp, rfl⟩ := List.mem_map.1 hphrase
    exact h w hw p hp (List.mem_of_mem_filter hmem)
  unfold rowClauses
  rw [blankless_spaced, List.map_append, List.flatten_append, RowClause.findings_append hbefore,
    ← blankless_spaced]

/-- Phrases that are free of clauses hold none. -/
theorem rowClauses_spaced_eq_nil (h : Free before) : rowClauses (spaced before) = [] := by
  rw [← List.append_nil before, rowClauses_spaced_append h]
  rfl

/-- A limit in front of the columns is a clause, and the only one if none follows. -/
theorem rowClauses_top (n : Int) (h : Free after) :
    rowClauses (spaced ([[.word .top], parenthesized [.integer n]] ++ after)) = [.top n] := by
  have hafter := rowClauses_spaced_eq_nil h
  have hopeners : ∀ w ∈ RowClause.openers,
      .word w ∉ [.mark .openParen, Token.integer n, .mark .closeParen] := by
    simp
  unfold rowClauses at hafter ⊢
  rw [blankless_spaced] at hafter ⊢
  have hread : ∀ rest, RowClause.read? (.word .top ::
      ([.mark .openParen, .integer n, .mark .closeParen] ++ rest)) = some (.top n) := fun _ => rfl
  show findings RowClause.read? (.word .top ::
    ([.mark .openParen, .integer n, .mark .closeParen] ++ (after.map blankless).flatten)) = _
  rw [findings_cons_of_some (hread _), RowClause.findings_append hopeners, hafter]

end Token

namespace Select

open RowClause (Free)

variable (s : Select) (d : Dialect) (hint : Option String)

/-- What stands in front of the columns besides the clause of the rows. -/
theorem free_before : Free (d.leadingHint hint ++ [[.word .select]]) := by
  refine .append (fun w _ => Upsert.word_not_mem_leadingHint d hint) (RowClause.free_singleton ?_)
  simp [RowClause.openers]

/-- What stands behind the columns besides the clause of the rows. -/
theorem free_behind : Free ([s.projection, [.word .from]] ++ s.table.phrases d hint ++
    s.filter.wherePhrases ++ s.orderPhrases) := by
  have hprojection : ∀ w ∈ RowClause.openers, .word w ∉ s.projection := by
    intro w _
    unfold projection
    split <;> simp
  have hcolumns : Free ([s.projection] ++ [[.word .from]]) :=
    .append (RowClause.free_singleton hprojection)
      (RowClause.free_singleton (by simp [RowClause.openers]))
  have htable : Free (s.table.phrases d hint) := fun _ _ =>
    Upsert.word_not_mem_phrases s.table d hint
  have hfilter : Free s.filter.wherePhrases := by
    intro w hw p hp hmem
    -- the words of conditions are others
    have hnone : ∀ w ∈ RowClause.openers,
        ¬(Token.word w = .word .where ∨ (Token.word w).InCondition) := by
      simp [RowClause.openers, Token.InCondition]
    exact hnone w hw (s.filter.inCondition_wherePhrases p hp _ hmem)
  have horder : Free s.orderPhrases := by
    unfold orderPhrases
    split
    · exact fun _ _ _ hp => absurd hp List.not_mem_nil
    · have hdirection (direction : Direction) : ∀ w ∈ RowClause.openers, w ≠ direction.keyword := by
        cases direction <;> decide
      have hword : ∀ w ∈ RowClause.openers, w ≠ .orderBy := by decide
      intro w hw
      simp [hword w hw, hdirection _ w hw]
  exact ((hcolumns.append htable).append hfilter).append horder

end Select

/-- The clause that a dialect has for a window. -/
def Window.rowClause? (w : Window) (d : Dialect) : Option RowClause :=
  match w, d with
  | all, _ => none
  | first n, .tsql => some (.top n)
  | first n, _ => some (.limit n none)
  | page p, .tsql => some (.offset p.offset (some p.limit))
  | page p, _ => some (.limit p.limit (some p.offset))

/-- The clause of a window picks the rows of the window. -/
theorem Window.rows_rowClause {α : Type} {w : Window} {d : Dialect} {c : RowClause}
    (h : w.rowClause? d = some c) (result : List α) : c.rows result = Store.windowOf w result := by
  cases w with
  | all => cases h
  | first n => cases d <;> obtain rfl := Option.some.inj h <;> rfl
  | page p => cases d <;> obtain rfl := Option.some.inj h <;> rfl

/-- A `SELECT` has the clause of its window, and no other that picks rows. -/
theorem Select.rowClauses_tokens (s : Select) (d : Dialect) (hint : Option String) :
    Token.rowClauses (s.tokens d hint) = (s.window.rowClause? d).toList := by
  have hbefore := free_before d hint
  have hbehind := s.free_behind d hint
  have htokens : s.tokens d hint =
      Token.spaced ((d.leadingHint hint ++ [[.word .select]]) ++ (s.window.topPhrases d ++
        (([s.projection, [.word .from]] ++ s.table.phrases d hint ++ s.filter.wherePhrases ++
          s.orderPhrases) ++ s.window.endPhrases d))) := by
    simp [tokens]
  rw [htokens, Token.rowClauses_spaced_append hbefore]
  generalize [s.projection, [.word .from]] ++ s.table.phrases d hint ++ s.filter.wherePhrases ++
    s.orderPhrases = behind at hbehind
  -- a window has a clause in front of the columns, one at the end, or none
  cases s.window with
  | all =>
    show Token.rowClauses (Token.spaced (behind ++ [])) = []
    rw [List.append_nil, Token.rowClauses_spaced_eq_nil hbehind]
  | first n =>
    cases d with
    | tsql =>
      show Token.rowClauses (Token.spaced ([[.word .top], Token.parenthesized [.integer n]] ++
        (behind ++ []))) = [.top n]
      rw [List.append_nil, Token.rowClauses_top n hbehind]
    | sqlite | postgres | mysql => exact Token.rowClauses_spaced_append hbehind
  | page p => cases d <;> exact Token.rowClauses_spaced_append hbehind

/-- The statement of a query has one clause that picks rows when the request asks for a page or for
the first rows, and that clause picks these. -/
def Statement.Picks (st : Statement) (r : Request) : Prop :=
  match r.operation, r.top with
  | .page p, _ => ∃ c, (Window.page p).rowClause? st.dialect = some c ∧ st.rowClauses = [c] ∧
      ∀ {α : Type} (result : List α), c.rows result = p.window result
  | .query, some n => ∃ c, (Window.first n).rowClause? st.dialect = some c ∧ st.rowClauses = [c] ∧
      ∀ {α : Type} (result : List α), c.rows result = result.take n
  | .query, none => st.rowClauses = []
  | _, _ => True

namespace Builder

variable {b : Builder} {r : Request} {types types' : TypeChain} {st : Statement}

/-- The clause that picks the rows of a query is that of the request's window. -/
theorem rowClauses_run (h : b.run r types = (.ok st, types'))
    (hop : r.operation = .query ∨ ∃ p, r.operation = .page p) :
    ∃ w, window r = .ok w ∧ st.rowClauses = (w.rowClause? st.dialect).toList := by
  obtain ⟨-, hcommand⟩ := run_eq_ok h
  have hselect : ∃ s, st.command = .select s ∧
      (b.select r).run.run types = (.ok (s, st.parameters), types') := by
    obtain hop | ⟨p, hop⟩ := hop <;> rw [hop] at hcommand <;> exact hcommand.2
  obtain ⟨s, hs, hselect⟩ := hselect
  refine ⟨s.window, (select_eq_ok hselect).2.1, ?_⟩
  rw [Statement.rowClauses, Statement.tokens, hs]
  exact s.rowClauses_tokens st.dialect st.hint

/-- A window that is not the whole result is picked by one clause. -/
theorem exists_rowClause_run {w : Window} (h : b.run r types = (.ok st, types'))
    (hop : r.operation = .query ∨ ∃ p, r.operation = .page p) (hwindow : window r = .ok w)
    (hpart : w ≠ .all) :
    ∃ c, w.rowClause? st.dialect = some c ∧ st.rowClauses = [c] ∧
      ∀ {α : Type} (result : List α), c.rows result = Store.windowOf w result := by
  obtain ⟨w', hwindow', hclauses⟩ := rowClauses_run h hop
  obtain rfl : w = w' := Except.ok.inj (hwindow.symm.trans hwindow')
  cases hclause : w.rowClause? st.dialect with
  | none =>
    cases w with
    | all => exact absurd rfl hpart
    | first n | page p => cases hd : st.dialect <;> rw [hd] at hclause <;> cases hclause
  | some c =>
    rw [hclause] at hclauses
    exact ⟨c, rfl, hclauses, fun result => Window.rows_rowClause hclause result⟩

/-- The statement of a query picks the rows that the request asks for. -/
theorem picks_run (h : b.run r types = (.ok st, types')) : st.Picks r := by
  unfold Statement.Picks
  cases hop : r.operation with
  | page p =>
    have hwindow : window r = .ok (.page p) := by rw [window, hop]
    exact exists_rowClause_run h (.inr ⟨p, hop⟩) hwindow nofun
  | query =>
    obtain ⟨w, hwindow, hclauses⟩ := rowClauses_run h (.inl hop)
    cases htop : r.top with
    | none =>
      have hall : window r = .ok .all := by rw [window, hop, htop]
      obtain rfl : w = .all := Except.ok.inj (hwindow.symm.trans hall)
      exact hclauses
    | some n =>
      have hfirst : window r = .ok (.first n) := by
        rw [window, hop, htop] at hwindow ⊢
        dsimp only at hwindow ⊢
        split at hwindow
        · next hn => rw [if_pos hn]
        · cases hwindow
      exact exists_rowClause_run h (.inl hop) hfirst nofun
  | count | merge spec => trivial

/-- Pages tile the result, in every dialect. There is a page when it has rows, and row count and
offset, as exact numbers, fit a statement; it then asks for these numbers. The pages with any row
count that is accepted tile every result. A dialect's clause picks the rows of the page, and that of
a row limit picks as many rows from the start. A row limit is void for a page. -/
theorem pages_tile (b : Builder) (types : TypeChain) :
    (∀ index rows : UInt64,
      PageWords.of index rows = (Page.of index.toNat rows.toNat).map Page.words ∧
      ((∃ w, PageWords.of index rows = .ok w) ↔
        1 ≤ rows.toNat ∧ rows.toNat ≤ 2 ^ 63 - 1 ∧ index.toNat * rows.toNat ≤ 2 ^ 63 - 1) ∧
      ∀ w, PageWords.of index rows = .ok w →
        w.index = index ∧ w.limit.toInt = rows.toNat ∧
          w.offset.toInt = index.toNat * rows.toNat ∧ Page.Tile rows.toNat) ∧
    (∀ (r : Request) (st : Statement) (types' : TypeChain),
      b.run r types = (.ok st, types') → st.Picks r) ∧
    ∀ (r : Request) (p : Page) (top top' : Option Nat),
      b.run { r with operation := .page p, top } types =
        b.run { r with operation := .page p, top := top' } types := by
  refine ⟨fun index rows => ?_, fun _ _ _ => picks_run, fun _ _ _ _ => rfl⟩
  have hof := PageWords.of_eq index rows
  have haccepted : (∃ w, PageWords.of index rows = .ok w) ↔
      ∃ p, Page.of index.toNat rows.toNat = .ok p := by
    rw [hof]
    cases Page.of index.toNat rows.toNat with
    | error e => exact ⟨nofun, nofun⟩
    | ok p => exact ⟨fun _ => ⟨p, rfl⟩, fun _ => ⟨p.words, rfl⟩⟩
  refine ⟨hof, ?_, fun w hw => ?_⟩
  · rw [haccepted, Page.exists_of_eq_ok_iff]
    unfold rowBound
    omega
  · obtain ⟨p, hp⟩ := haccepted.1 ⟨w, hw⟩
    rw [hof, hp] at hw
    obtain rfl := Except.ok.inj hw
    obtain ⟨hindex, hrows⟩ := Page.of_eq_ok_iff.1 hp
    obtain ⟨hlimit, hoffset⟩ := p.toInt_words
    refine ⟨?_, ?_, ?_, ?_⟩
    · show UInt64.ofNat p.index = index
      rw [hindex, UInt64.ofNat_toNat]
    · rw [hlimit, ← hrows]
      rfl
    · rw [hoffset, ← hindex, ← hrows]
      exact Int.natCast_mul p.index p.rows
    · rw [← hrows]
      exact p.tile

/-- The third page of ten rows begins behind twenty rows, whatever the row limit of the request. -/
theorem pages_tile_third :
    let e : Entity :=
      { name := "E", table := { name := "t" }, properties := [{ name := "Id", kind := .int }] }
    let p : Page := ⟨2, 10, by decide, by decide, by decide⟩
    let r : Request :=
      { entity := e, operation := .page p, order := [{ field := { name := "Id" } }], top := some 7 }
    (∃ st types', run { dialect := .tsql } r {} = (.ok st, types') ∧
      st.sql = "SELECT [Id] FROM [t] ORDER BY [Id] ASC OFFSET 20 ROWS FETCH NEXT 10 ROWS ONLY" ∧
      st.Picks r) ∧
    ∃ w, PageWords.of 2 10 = .ok w ∧ w.limit.toInt = 10 ∧ w.offset.toInt = 20 ∧ Page.Tile 10 := by
  intro e p r
  obtain ⟨hwords, hpicks, -⟩ := pages_tile { dialect := .tsql } {}
  have hrun : run { dialect := .tsql } r {} = (.ok _, _) := rfl
  have hof : PageWords.of 2 10 = .ok { index := 2, limit := 10, offset := 20 } := by decide
  obtain ⟨-, -, hnumbers⟩ := hwords 2 10
  obtain ⟨-, hlimit, hoffset, htile⟩ := hnumbers _ hof
  exact ⟨⟨_, _, hrun, by decide, hpicks r _ _ hrun⟩, _, hof, hlimit, hoffset, htile⟩

end Builder

end FilterSql
