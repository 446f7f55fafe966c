import FilterSql.Page

/-!
# Pages tile a result

A page is cut out of an ordered result by two numbers, and these are computed and passed on as
machine words. Pages are of use when they fit together: every row that a page can begin with has to
be on one of them and on no other.

## Main definitions

* `PageWords`: the numbers of a page in machine words;
* `Page.Covers`: a row is on a page;
* `Page.upTo`: the pages from the first one on;
* `Page.Tile`: pages with a given row count tile every result.

## Main results

* `PageWords.of_eq`: in machine words there are the same pages with the same numbers;
* `Page.covers_iff`: the page that a row is on;
* `Page.flatMap_window_upTo`: pages one behind the other;
* `Page.tile`: pages tile every result.
-/

namespace FilterSql

/-! ### Pages in machine words -/

/-- A word as a word with a sign, unless it is too large for one. -/
def signedWord? (w : UInt64) : Option Int64 :=
  if w.toNat < rowBound then some w.toInt64 else none

/-- The product of two words, unless it is too large for a word. -/
def wordProduct? (a b : UInt64) : Option UInt64 :=
  if a.toNat * b.toNat < UInt64.size then some (a * b) else none

/-- The numbers of a page as machine words. -/
structure PageWords where
  /-- The number of the page, counted from zero. -/
  index : UInt64
  /-- The number of rows that the page asks for. -/
  limit : Int64
  /-- The number of rows in front of the page. -/
  offset : Int64
deriving DecidableEq

/-- The numbers of the page with a given number and row count, computed in machine words. -/
def PageWords.of (index rows : UInt64) : Except PageFault PageWords :=
  if rows = 0 then .error .noRows
  else
    match signedWord? rows, (wordProduct? index rows).bind signedWord? with
    | none, _ => .error (.tooManyRows rows.toNat)
    | some _, none => .error (.offsetTooLarge index.toNat rows.toNat)
    | some limit, some offset => .ok { index, limit, offset }

/-- The numbers of a page in machine words. -/
def Page.words (p : Page) : PageWords :=
  { index := .ofNat p.index, limit := .ofNat p.limit, offset := .ofNat p.offset }

/-- A word that is small enough keeps its value when it gets a sign. -/
theorem signedWord?_eq (w : UInt64) :
    signedWord? w = if w.toNat < rowBound then some (Int64.ofNat w.toNat) else none := by
  have hword : w.toInt64 = Int64.ofNat w.toNat := by
    apply Int64.toBitVec_inj.1
    simp
  rw [signedWord?, hword]

/-- A product that fits a word with a sign did not wrap around. -/
theorem wordProduct?_bind_signedWord? (a b : UInt64) :
    (wordProduct? a b).bind signedWord? =
      if a.toNat * b.toNat < rowBound then some (Int64.ofNat (a.toNat * b.toNat)) else none := by
  unfold wordProduct?
  by_cases hword : a.toNat * b.toNat < UInt64.size
  · have hproduct : (a * b).toNat = a.toNat * b.toNat := by
      rw [UInt64.toNat_mul]
      exact Nat.mod_eq_of_lt hword
    rw [if_pos hword, Option.bind_some, signedWord?_eq, hproduct]
  · have hlarge : ¬a.toNat * b.toNat < rowBound := by
      unfold UInt64.size at hword
      unfold rowBound
      omega
    rw [if_neg hword, if_neg hlarge, Option.bind_none]

/-- In machine words there are the same pages with the same numbers, and the others are refused for
the same reason. -/
theorem PageWords.of_eq (index rows : UInt64) :
    PageWords.of index rows = (Page.of index.toNat rows.toNat).map Page.words := by
  have hzero : rows = 0 ↔ ¬0 < rows.toNat := by
    rw [← UInt64.toNat_inj, UInt64.toNat_zero]
    omega
  unfold PageWords.of Page.of
  rw [signedWord?_eq, wordProduct?_bind_signedWord?]
  by_cases hpos : 0 < rows.toNat
  · by_cases hfits : rows.toNat < rowBound
    · by_cases hlt : index.toNat * rows.toNat < rowBound <;>
        simp [hzero, hpos, hfits, hlt, Except.map, Page.words, Page.limit, Page.offset]
    · simp [hzero, hpos, hfits, Except.map]
  · simp [hzero, hpos, Except.map]

namespace Page

/-- The row count and the offset of a page are the same numbers in machine words. -/
theorem toInt_words (p : Page) :
    p.words.limit.toInt = p.limit ∧ p.words.offset.toInt = p.offset :=
  ⟨Int64.toInt_ofNat_of_lt p.rows_lt, Int64.toInt_ofNat_of_lt p.offset_lt⟩

/-! ### Every row is on one page -/

/-- There is a page with a given number and row count, or none. -/
theorem of_eq_ok_iff {index rows : Nat} {p : Page} :
    Page.of index rows = .ok p ↔ p.index = index ∧ p.rows = rows := by
  constructor
  · intro h
    unfold Page.of at h
    split at h
    · split at h
      · split at h
        · obtain rfl := Except.ok.inj h
          exact ⟨rfl, rfl⟩
        · cases h
      · cases h
    · cases h
  · rintro ⟨rfl, rfl⟩
    simp [Page.of, p.rows_pos, p.rows_lt, p.offset_lt]

/-- A page needs rows, and its row count and offset have to fit a statement. -/
theorem exists_of_eq_ok_iff {index rows : Nat} :
    (∃ p, Page.of index rows = .ok p) ↔
      0 < rows ∧ rows < rowBound ∧ index * rows < rowBound := by
  constructor
  · rintro ⟨p, hp⟩
    obtain ⟨rfl, rfl⟩ := of_eq_ok_iff.1 hp
    exact ⟨p.rows_pos, p.rows_lt, p.offset_lt⟩
  · rintro ⟨hpos, hfits, hlt⟩
    exact ⟨⟨index, rows, hpos, hfits, hlt⟩, of_eq_ok_iff.2 ⟨rfl, rfl⟩⟩

/-- The row at a position is on the page. -/
def Covers (p : Page) (i : Nat) : Prop :=
  p.offset ≤ i ∧ i < p.offset + p.limit

/-- A row is on the page whose number is its position divided by the row count. -/
theorem covers_iff {p : Page} {i : Nat} : p.Covers i ↔ i / p.rows = p.index := by
  rw [Nat.div_eq_iff p.rows_pos]
  have hrows := p.rows_pos
  unfold Covers offset limit
  omega

/-- The pages with a given row count, from the first one on up to a page number. -/
def upTo (n rows : Nat) : List Page :=
  (List.range n).filterMap fun index => (Page.of index rows).toOption

/-- How many pages there are with a given row count. -/
def pageCount (rows : Nat) : Nat :=
  (rowBound - 1) / rows + 1

section

variable {α : Type} {rows : Nat}

variable (hpos : 0 < rows) (hfits : rows < rowBound)

include hpos

/-- A page number is that of a page when it is less than the number of pages. -/
theorem mul_lt_rowBound_iff {index : Nat} : index * rows < rowBound ↔ index < pageCount rows := by
  have hbound : 0 < rowBound := by decide
  rw [pageCount, Nat.lt_succ_iff, Nat.le_div_iff_mul_le hpos]
  omega

/-- All pages together have room for all rows that a page can begin with. -/
theorem rowBound_le_pageCount_mul : rowBound ≤ pageCount rows * rows := by
  apply Nat.le_of_not_lt
  intro hlt
  exact Nat.lt_irrefl _ ((mul_lt_rowBound_iff hpos).1 hlt)

include hfits

/-- The pages up to the next number are those up to the number, and the next one if there is one. -/
theorem upTo_succ (n : Nat) :
    upTo (n + 1) rows =
      upTo n rows ++ if lt : n * rows < rowBound then [⟨n, rows, hpos, hfits, lt⟩] else [] := by
  rw [upTo, List.range_succ, List.filterMap_append, ← upTo]
  by_cases hlt : n * rows < rowBound <;> simp [Page.of, hpos, hfits, hlt, Except.toOption]

/-- Pages one behind the other are the result from its start, as far as there are pages. -/
theorem flatMap_window_upTo (result : List α) (n : Nat) :
    (upTo n rows).flatMap (fun p => p.window result) =
      result.take (min n (pageCount rows) * rows) := by
  induction n with
  | zero => simp [upTo]
  | succ n ih =>
    rw [upTo_succ hpos hfits, List.flatMap_append, ih]
    have hpage : n * rows < rowBound ↔ n < pageCount rows := mul_lt_rowBound_iff hpos
    by_cases hlt : n * rows < rowBound
    · have hn : n < pageCount rows := hpage.1 hlt
      rw [dif_pos hlt, Nat.min_eq_left (Nat.le_of_lt hn), Nat.min_eq_left hn, Nat.succ_mul,
        List.take_add]
      simp [window, offset, limit]
    · -- behind the last page nothing is added
      have hn : pageCount rows ≤ n := Nat.le_of_not_lt fun hlt' => hlt (hpage.2 hlt')
      rw [dif_neg hlt, Nat.min_eq_right hn, Nat.min_eq_right (Nat.le_succ_of_le hn)]
      simp

/-- Enough pages one behind the other are the result. -/
theorem flatMap_window_upTo_eq_self {result : List α} (hresult : result.length ≤ rowBound) {n : Nat}
    (hn : result.length ≤ n * rows) :
    (upTo n rows).flatMap (fun p => p.window result) = result := by
  rw [flatMap_window_upTo hpos hfits]
  apply List.take_of_length_le
  rcases Nat.le_total n (pageCount rows) with h | h
  · rwa [Nat.min_eq_left h]
  · rw [Nat.min_eq_right h]
    exact Nat.le_trans hresult (rowBound_le_pageCount_mul hpos)

end

/-- What stands on a page is what the result has at the positions that the page covers. -/
theorem getElem?_window {α : Type} {p : Page} {i : Nat} (h : p.Covers i) (result : List α) :
    (p.window result)[i - p.offset]? = result[i]? := by
  obtain ⟨hle, hlt⟩ := h
  rw [window, List.getElem?_take_of_lt (by omega), List.getElem?_drop, Nat.add_sub_cancel' hle]

/-- A row that a page can begin with is on a page. -/
theorem exists_covers (p : Page) {i : Nat} (h : i < rowBound) :
    ∃ q, Page.of (i / p.rows) p.rows = .ok q ∧ q.Covers i := by
  have hoffset : i / p.rows * p.rows < rowBound :=
    Nat.lt_of_le_of_lt (Nat.div_mul_le_self i p.rows) h
  obtain ⟨q, hq⟩ := exists_of_eq_ok_iff.2 ⟨p.rows_pos, p.rows_lt, hoffset⟩
  obtain ⟨hindex, hrows⟩ := of_eq_ok_iff.1 hq
  refine ⟨q, hq, covers_iff.2 ?_⟩
  rw [hrows, hindex]

/-- Pages with a given row count tile every result. -/
structure Tile (rows : Nat) : Prop where
  /-- A row is on one page, and the number of that page is the row's position divided by the row
  count. -/
  covered : ∀ i < rowBound, ∃ p, Page.of (i / rows) rows = .ok p ∧ p.Covers i ∧
    ∀ index q, Page.of index rows = .ok q → q.Covers i → q = p
  /-- What stands on a page is what the result has at the positions that the page covers. -/
  placed : ∀ {α : Type} (result : List α) (index : Nat) (p : Page), Page.of index rows = .ok p →
    ∀ i, p.Covers i → (p.window result)[i - p.offset]? = result[i]?
  /-- A page holds at most so many rows. -/
  short : ∀ {α : Type} (result : List α) (index : Nat) (p : Page), Page.of index rows = .ok p →
    (p.window result).length ≤ rows
  /-- Pages one behind the other are the result from its start, as far as there are pages. -/
  begun : ∀ {α : Type} (result : List α) (n : Nat),
    (upTo n rows).flatMap (fun p => p.window result) =
      result.take (min n (pageCount rows) * rows)
  /-- Enough pages one behind the other are the result. -/
  joined : ∀ {α : Type} (result : List α) (n : Nat), result.length ≤ rowBound →
    result.length ≤ n * rows → (upTo n rows).flatMap (fun p => p.window result) = result

/-- Pages tile every result. -/
theorem tile (p : Page) : Tile p.rows where
  covered i hi := by
    obtain ⟨q, hq, hcovers⟩ := p.exists_covers hi
    refine ⟨q, hq, hcovers, fun index q' hq' hcovers' => ?_⟩
    -- the row and the row count determine the number of the page
    obtain ⟨rfl, hrows'⟩ := of_eq_ok_iff.1 hq'
    have hindex : q'.index = i / p.rows := by rw [← hrows', covers_iff.1 hcovers']
    rw [hindex, hq] at hq'
    exact (Except.ok.inj hq').symm
  placed result _ _ _ _ hcovers := getElem?_window hcovers result
  short result _ q hq := by
    rw [← (of_eq_ok_iff.1 hq).2]
    exact q.length_window_le result
  begun result n := flatMap_window_upTo p.rows_pos p.rows_lt result n
  joined _ _ hresult hn := flatMap_window_upTo_eq_self p.rows_pos p.rows_lt hresult hn

end Page

end FilterSql
