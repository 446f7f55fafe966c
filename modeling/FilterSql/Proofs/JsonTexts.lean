import FilterSql.Json.Reading
import FilterSql.Proofs.JsonFilters
import FilterSql.Proofs.NumberTexts

/-!
# JSON texts are read back

A value is written without any white space. Its text is cut into the lexemes that spell the value:
strings are unescaped as they were escaped, and number literals tell integers from floats. From the
lexemes the value is put together again, container by container, as long as not too many containers
are open at once.

## Main definitions

* `Json.Lexes`: the lexemes of a text;
* `Json.spelling`, `Json.depth`: the lexemes that spell a value, and how deep it is nested;
* `Json.ReadsBack`: the text of a float denotes the float;
* `Json.Legible`: a value that a text can spell.

## Main results

* `Json.scanString_flatMap`: a text is read back from its string;
* `Json.ReadsBack.exists_parts`: the text of a float is not read as an integer;
* `Json.lexes_compact`: the text of a value has the lexemes that spell the value;
* `Json.run_spelling`: the lexemes that spell a value are read as the value;
* `Json.read_compact`: the text of a value is read as the value;
* `Value.ofJson?_read_compact`: bindable values survive JSON.
-/

namespace FilterSql

namespace Json

variable {rest : List Char}

/-! ### Strings -/

/-- The digits of an escaped control character denote it. -/
theorem hexNumber?_hexDigit : ∀ n < 0x20,
    Numeral.hexNumber? ['0', '0', hexDigit (n / 16), hexDigit (n % 16)] = some n := by
  decide

/-- A character is written with a backslash and a letter, as a number, or as it is. -/
theorem escape_eq (c : Char) :
    (∃ e, e ≠ 'u' ∧ unescape? e = some c ∧ escape c = ['\\', e]) ∨
      (c.toNat < 0x20 ∧
        escape c = ['\\', 'u', '0', '0', hexDigit (c.toNat / 16), hexDigit (c.toNat % 16)]) ∨
      (c ≠ '"' ∧ c ≠ '\\' ∧ ¬ c.toNat < 0x20 ∧ escape c = [c]) := by
  by_cases hshort : c = '"' ∨ c = '\\' ∨ c = '\n' ∨ c = '\r' ∨ c = '\t' ∨ c = '\x08' ∨ c = '\x0c'
  · rcases hshort with rfl | rfl | rfl | rfl | rfl | rfl | rfl <;>
      exact .inl ⟨_, by decide, by decide, rfl⟩
  · simp only [not_or] at hshort
    obtain ⟨hquote, hbackslash, hn, hr, ht, hb, hf⟩ := hshort
    by_cases hcontrol : c.toNat < 0x20
    · exact .inr (.inl ⟨hcontrol, by simp [escape, *]⟩)
    · exact .inr (.inr ⟨hquote, hbackslash, hcontrol, by simp [escape, *]⟩)

/-- An escaped character is read back. -/
theorem scanString_escape (c : Char) (cs : List Char) :
    scanString (escape c ++ cs) = addChar c (scanString cs) := by
  rcases escape_eq c with ⟨e, he, hc, h⟩ | ⟨hcontrol, h⟩ | ⟨hquote, hbackslash, hcontrol, h⟩
  · rw [h]
    simp [scanString, he, hc]
  · rw [h]
    simp only [List.cons_append, List.nil_append, scanString, hexNumber?_hexDigit _ hcontrol]
    rw [if_pos (.inl (by omega)), Char.ofNat_toNat]
  · rw [h]
    simp [scanString, hbackslash, hcontrol]

/-- A text is read back from its string. -/
theorem scanString_flatMap (s : List Char) :
    scanString (s.flatMap escape ++ '"' :: rest) = some (s, rest) := by
  induction s with
  | nil => rfl
  | cons c s ih =>
    rw [List.flatMap_cons, List.append_assoc, scanString_escape, ih]
    rfl

/-! ### Lexemes -/

/-- The lexemes of a text, however many more steps than characters there are. -/
def Lexes (cs : List Char) (ls : List Lexeme) : Prop :=
  ∀ fuel, cs.length ≤ fuel → lexemesWithin fuel cs = some ls

/-- The empty text has no lexemes. -/
theorem Lexes.nil : Lexes [] [] := by
  rintro fuel -
  cases fuel <;> rfl

/-- The lexemes of a text from the first one and those of the rest. -/
theorem Lexes.cons {c : Char} {cs : List Char} {l : Lexeme} {ls : List Lexeme}
    (hscan : scan (c :: cs ++ rest) = some (l, rest)) (hspace : isSpace c = false)
    (h : Lexes rest ls) : Lexes (c :: cs ++ rest) (l :: ls) := by
  intro fuel hfuel
  obtain ⟨fuel, rfl⟩ : ∃ n, fuel = n + 1 :=
    Nat.exists_eq_succ_of_ne_zero (by rintro rfl; simp at hfuel)
  have hrest : lexemesWithin fuel rest = some ls := h fuel (by simp at hfuel; omega)
  rw [List.cons_append] at hscan ⊢
  simp [lexemesWithin, hspace, hscan, hrest]

/-- The lexemes of a text from a punctuation mark and those of the rest. -/
theorem Lexes.mark {c : Char} {l : Lexeme} {ls : List Lexeme}
    (hscan : scan (c :: rest) = some (l, rest)) (hspace : isSpace c = false)
    (h : Lexes rest ls) : Lexes (c :: rest) (l :: ls) :=
  .cons (show scan (c :: [] ++ rest) = some (l, rest) from hscan) hspace h

/-- What follows a value in a text: nothing, a comma or the end of a container. -/
def EndsValue (rest : List Char) : Prop :=
  ∀ c ∈ rest.head?, c = ',' ∨ c = ']' ∨ c = '\x7d'

/-- What follows a value does not go on with a number. -/
theorem EndsValue.endsNumber (h : EndsValue rest) : EndsNumber rest := by
  intro c hc
  rcases h c hc with rfl | rfl | rfl <;> decide

/-- The characters that a number begins with. -/
abbrev StartsNumber (c : Char) : Prop :=
  c = '-' ∨ c.isDigit = true

/-- A number literal begins with a minus sign or a digit. -/
theorem NumberParts.exists_text_eq_cons {parts : NumberParts} (h : parts.WellFormed)
    (plus : Bool) : ∃ c cs, parts.text plus = c :: cs ∧ StartsNumber c := by
  obtain ⟨hne, hdigits⟩ := h.whole
  rw [text, body]
  cases parts.negative with
  | true => exact ⟨_, _, rfl, .inl rfl⟩
  | false =>
    obtain ⟨c, whole, hwhole⟩ := List.exists_cons_of_ne_nil hne
    rw [hwhole] at hdigits ⊢
    exact ⟨_, _, rfl, .inr (hdigits c List.mem_cons_self)⟩

/-- A character that begins a number is none of the other characters. -/
theorem ne_of_startsNumber {c mark : Char} (h : StartsNumber c)
    (hmark : ¬ StartsNumber mark) : c ≠ mark := by
  rintro rfl
  exact hmark h

/-- A text that begins with a minus sign or a digit begins with a number. -/
theorem scan_of_startsNumber {c : Char} {cs : List Char} (h : StartsNumber c) :
    scan (c :: cs) = (scanNumber (c :: cs)).bind fun (parts, rest) =>
      parts.value.map fun v => (.scalar v, rest) := by
  rw [scan, if_pos h]
  all_goals exact ne_of_startsNumber h (by decide)

/-- A character that begins a number is no white space. -/
theorem isSpace_of_startsNumber {c : Char} (h : StartsNumber c) : isSpace c = false := by
  have hne (mark : Char) (hmark : ¬ StartsNumber mark) : (c == mark) = false :=
    beq_eq_false_iff_ne.2 (ne_of_startsNumber h hmark)
  rw [isSpace, hne _ (by decide), hne _ (by decide), hne _ (by decide), hne _ (by decide)]
  rfl

/-- A number literal is the lexeme of its value. -/
theorem lexes_number {parts : NumberParts} (plus : Bool) (h : parts.WellFormed) {v : Json}
    (hvalue : parts.value = some v) (hrest : EndsNumber rest) {ls : List Lexeme}
    (hlexes : Lexes rest ls) : Lexes (parts.text plus ++ rest) (.scalar v :: ls) := by
  obtain ⟨c, cs, hcs, hc⟩ := NumberParts.exists_text_eq_cons h plus
  have hscan : scanNumber (parts.text plus ++ rest) = _ := NumberParts.scanNumber_text h hrest
  rw [hcs] at hscan ⊢
  refine .cons ?_ (isSpace_of_startsNumber hc) hlexes
  rw [List.cons_append] at hscan ⊢
  simp [scan_of_startsNumber hc, hscan, hvalue]

/-- A text that is one scalar lexeme spells its value. -/
theorem read_of_lexes {s : String} {v : Json} (h : Lexes s.toList [.scalar v]) :
    read s = some v := by
  rw [read, lexemes, h _ (Nat.le_refl _)]
  rfl

/-- A text that is a number literal spells its value, if it has one. -/
theorem read_number {parts : NumberParts} (plus : Bool) (h : parts.WellFormed) {s : String}
    (hs : s.toList = parts.text plus) : read s = parts.value := by
  cases hvalue : parts.value with
  | some v =>
    have hlexes := lexes_number plus h hvalue (by simp [EndsNumber]) Lexes.nil
    rw [List.append_nil, ← hs] at hlexes
    exact read_of_lexes hlexes
  | none =>
    obtain ⟨c, cs, hcs, hc⟩ := NumberParts.exists_text_eq_cons h plus
    have hscan : scanNumber (parts.text plus ++ []) = _ :=
      NumberParts.scanNumber_text h (by simp [EndsNumber])
    rw [List.append_nil, hcs] at hscan
    simp [read, lexemes, hs, hcs, lexemesWithin, isSpace_of_startsNumber hc,
      scan_of_startsNumber hc, hscan, hvalue]

/-- A number with a point or an exponent is no integer. -/
theorem NumberParts.exists_value_eq_real {parts : NumberParts}
    (h : parts.fraction.isSome = true ∨ parts.exponent.isSome = true) {v : Json}
    (hvalue : parts.value = some v) : ∃ x, v = .real x := by
  have hreal : (parts.fraction.isNone && parts.exponent.isNone) = false := by
    rcases h with h | h <;> simp [← Option.not_isSome, h]
  unfold value at hvalue
  simp only [hreal, Bool.false_and, Bool.false_eq_true, if_false] at hvalue
  obtain ⟨x, -, rfl⟩ := Option.map_eq_some_iff.1 hvalue
  exact ⟨_, rfl⟩

/-- The float that a number denotes. -/
def float? : Json → Option Float
  | .integer n => some (Float.ofInt n)
  | .real x => some x
  | _ => none

/-- The text of a float denotes the float. -/
def ReadsBack (x : Float) : Prop :=
  (read (realText x)).bind float? = some x

/-- Whether the text of a float denotes the float can be decided. -/
instance (x : Float) : Decidable (ReadsBack x) :=
  inferInstanceAs (Decidable (_ = _))

/-- The text of a finite float that denotes the float is a number literal, and not that of an
integer. -/
theorem ReadsBack.exists_parts {x : Float} (h : ReadsBack x) (hx : Decimal.isFinite x = true) :
    ∃ parts : NumberParts, parts.WellFormed ∧ (realText x).toList = parts.text true ∧
      parts.value = some (.real x) := by
  obtain ⟨parts, hparts, hreal, htext⟩ := floatLayout.exists_parts_text hx
  have htext : (realText x).toList = parts.text true := by
    rw [realText, if_pos hx]
    exact htext
  refine ⟨parts, hparts, htext, ?_⟩
  rw [ReadsBack, read_number true hparts htext] at h
  obtain ⟨v, hvalue, hv⟩ := Option.bind_eq_some_iff.1 h
  obtain ⟨y, rfl⟩ := NumberParts.exists_value_eq_real hreal hvalue
  obtain rfl : y = x := Option.some.inj hv
  exact hvalue

/-- A text is the lexeme of its string. -/
theorem lexes_quote (t : String) {ls : List Lexeme} (hlexes : Lexes rest ls) :
    Lexes ((quote t).toList ++ rest) (.scalar (.text t) :: ls) := by
  have htext : (quote t).toList ++ rest = '"' :: (t.toList.flatMap escape ++ ['"']) ++ rest := by
    simp [quote]
  rw [htext]
  refine .cons ?_ (by decide) hlexes
  simp [scan, scanString_flatMap]

mutual

/-- A value that a text can spell: its integers have at most sixty-four bits, its floats are finite
and denoted by their texts, and the members of its objects are in ascending order of names. -/
def Legible : Json → Prop
  | .null | .bool _ | .text _ => True
  | .integer n => -2 ^ 63 ≤ n ∧ n < 2 ^ 64
  | .real x => Decimal.isFinite x = true ∧ ReadsBack x
  | .array items => LegibleItems items
  | .object members => members.Pairwise (fun m m' => m.1 < m'.1) ∧ LegibleMembers members

/-- All elements of an array are legible. -/
def LegibleItems : List Json → Prop
  | [] => True
  | v :: rest => Legible v ∧ LegibleItems rest

/-- All members of an object are legible. -/
def LegibleMembers : List (String × Json) → Prop
  | [] => True
  | (_, v) :: rest => Legible v ∧ LegibleMembers rest

end

mutual

/-- The lexemes that spell a value. -/
def spelling : Json → List Lexeme
  | .array items => .openArray :: (spellingItems items ++ [.closeArray])
  | .object members => .openObject :: (spellingMembers members ++ [.closeObject])
  | v => [.scalar v]

/-- The lexemes that spell the elements of an array. -/
def spellingItems : List Json → List Lexeme
  | [] => []
  | [v] => spelling v
  | v :: rest => spelling v ++ .comma :: spellingItems rest

/-- The lexemes that spell the members of an object. -/
def spellingMembers : List (String × Json) → List Lexeme
  | [] => []
  | [(name, v)] => .scalar (.text name) :: .colon :: spelling v
  | (name, v) :: rest =>
    .scalar (.text name) :: .colon :: (spelling v ++ .comma :: spellingMembers rest)

end

mutual

/-- How many containers stand around the innermost place of a value. -/
def depth : Json → Nat
  | .array items => depthItems items + 1
  | .object members => depthMembers members + 1
  | _ => 0

/-- The greatest depth among the elements of an array. -/
def depthItems : List Json → Nat
  | [] => 0
  | v :: rest => max (depth v) (depthItems rest)

/-- The greatest depth among the members of an object. -/
def depthMembers : List (String × Json) → Nat
  | [] => 0
  | (_, v) :: rest => max (depth v) (depthMembers rest)

end

mutual

/-- The text of a legible value has the lexemes that spell the value. -/
theorem lexes_compact : ∀ (v : Json), v.Legible → ∀ {rest : List Char} {ls : List Lexeme},
    EndsValue rest → Lexes rest ls → Lexes (v.compact.toList ++ rest) (v.spelling ++ ls)
  | .null, _, rest, ls, _, hlexes => by
    have hscan : scan ('n' :: ['u', 'l', 'l'] ++ rest) = some (.scalar .null, rest) := rfl
    simpa [compact, spelling] using Lexes.cons hscan (by decide) hlexes
  | .bool b, _, rest, ls, _, hlexes => by
    cases b with
    | true =>
      have hscan : scan ('t' :: ['r', 'u', 'e'] ++ rest) = some (.scalar (.bool true), rest) := rfl
      simpa [compact, spelling] using Lexes.cons hscan (by decide) hlexes
    | false =>
      have hscan :
          scan ('f' :: ['a', 'l', 's', 'e'] ++ rest) = some (.scalar (.bool false), rest) := rfl
      simpa [compact, spelling] using Lexes.cons hscan (by decide) hlexes
  | .integer n, h, rest, ls, hrest, hlexes => by
    have htext : (compact (.integer n)).toList = (NumberParts.ofInt n).text true := by
      rw [NumberParts.text_ofInt, compact, Numeral.text, String.toList_ofList]
    rw [htext]
    exact lexes_number true (NumberParts.wellFormed_ofInt n) (NumberParts.value_ofInt h.1 h.2)
      hrest.endsNumber hlexes
  | .real x, h, rest, ls, hrest, hlexes => by
    -- the text has a point or an exponent, so that no integer is read
    obtain ⟨parts, hparts, htext, hvalue⟩ := h.2.exists_parts h.1
    rw [compact, htext]
    exact lexes_number true hparts hvalue hrest.endsNumber hlexes
  | .text t, _, rest, ls, _, hlexes => by
    rw [compact]
    exact lexes_quote t hlexes
  | .array items, h, rest, ls, _, hlexes => by
    have hclose : Lexes (']' :: rest) (.closeArray :: ls) := .mark rfl (by decide) hlexes
    have hitems := lexes_compactItems items h (by simp [EndsValue]) hclose
    have hopen : Lexes ('[' :: _) (.openArray :: _) := .mark rfl (by decide) hitems
    simpa [compact, spelling] using hopen
  | .object members, h, rest, ls, _, hlexes => by
    have hclose : Lexes ('\x7d' :: rest) (.closeObject :: ls) := .mark rfl (by decide) hlexes
    have hmembers := lexes_compactMembers members h.2 (by simp [EndsValue]) hclose
    have hopen : Lexes ('\x7b' :: _) (.openObject :: _) := .mark rfl (by decide) hmembers
    simpa [compact, spelling] using hopen

/-- The texts of the elements of an array have the lexemes that spell them. -/
theorem lexes_compactItems : ∀ (items : List Json), LegibleItems items →
    ∀ {rest : List Char} {ls : List Lexeme}, EndsValue rest → Lexes rest ls →
      Lexes ((",".intercalate (compactItems items)).toList ++ rest) (spellingItems items ++ ls)
  | [], _, rest, ls, _, hlexes => by simpa [compactItems, spellingItems] using hlexes
  | [v], h, rest, ls, hrest, hlexes => by
    simpa [compactItems, spellingItems] using lexes_compact v h.1 hrest hlexes
  | v :: w :: items, h, rest, ls, hrest, hlexes => by
    have htail := lexes_compactItems (w :: items) h.2 hrest hlexes
    have hcomma : Lexes (',' :: _) (.comma :: _) := .mark rfl (by decide) htail
    have hhead := lexes_compact v h.1 (by simp [EndsValue]) hcomma
    rw [compactItems, compactItems, String.intercalate_cons_cons, ← compactItems]
    simpa [spellingItems] using hhead

/-- The texts of the members of an object have the lexemes that spell them. -/
theorem lexes_compactMembers : ∀ (members : List (String × Json)), LegibleMembers members →
    ∀ {rest : List Char} {ls : List Lexeme}, EndsValue rest → Lexes rest ls →
      Lexes ((",".intercalate (compactMembers members)).toList ++ rest)
        (spellingMembers members ++ ls)
  | [], _, rest, ls, _, hlexes => by simpa [compactMembers, spellingMembers] using hlexes
  | [(name, v)], h, rest, ls, hrest, hlexes => by
    have hcolon : Lexes (':' :: _) (.colon :: _) :=
      .mark rfl (by decide) (lexes_compact v h.1 hrest hlexes)
    simpa [compactMembers, spellingMembers] using lexes_quote name hcolon
  | (name, v) :: (name', v') :: members, h, rest, ls, hrest, hlexes => by
    have htail := lexes_compactMembers ((name', v') :: members) h.2 hrest hlexes
    have hcomma : Lexes (',' :: _) (.comma :: _) := .mark rfl (by decide) htail
    have hcolon : Lexes (':' :: _) (.colon :: _) :=
      .mark rfl (by decide) (lexes_compact v h.1 (by simp [EndsValue]) hcomma)
    have hhead := lexes_quote name hcolon
    rw [compactMembers, compactMembers, String.intercalate_cons_cons, ← compactMembers]
    simpa [spellingMembers] using hhead

end

/-! ### Containers -/

/-- A member with the last name is put at the end. -/
theorem insertMember_of_last {name : String} {v : Json} {members : List (String × Json)}
    (h : ∀ m ∈ members, m.1 < name) : insertMember name v members = members ++ [(name, v)] := by
  induction members with
  | nil => rfl
  | cons m members ih =>
    obtain ⟨hm, hmembers⟩ := List.forall_mem_cons.1 h
    rw [insertMember, if_neg (by rintro rfl; exact String.lt_irrefl _ hm),
      if_neg (String.lt_asymm hm), ih hmembers]
    rfl

/-- Two bounds in a row are one on the greater number. -/
theorem ite_add_max {α : Type} {n a b bound : Nat} {x : Option α} :
    (if n + a ≤ bound then if n + b ≤ bound then x else none else none) =
      if n + max a b ≤ bound then x else none := by
  by_cases ha : n + a ≤ bound
  · by_cases hb : n + b ≤ bound
    · rw [if_pos ha, if_pos hb, if_pos (by omega)]
    · rw [if_pos ha, if_neg hb, if_neg (by omega)]
  · rw [if_neg ha, if_neg (by omega)]

/-- A member behind others in ascending order is put at the end. -/
theorem insertMember_of_pairwise {name : String} {v : Json} {read members : List (String × Json)}
    (h : (read ++ (name, v) :: members).Pairwise (fun m m' => m.1 < m'.1)) :
    insertMember name v read = read ++ [(name, v)] :=
  insertMember_of_last fun m hm => (List.pairwise_append.1 h).2.2 m hm _ List.mem_cons_self

namespace Progress

variable {stack : List Container} {ls : List Lexeme}

/-- An array is opened when not too many containers are open. -/
theorem run_openArray :
    (mk stack .value).run (.openArray :: ls) =
      if stack.length < maxDepth then (mk (.array [] :: stack) .valueOrClose).run ls else none := by
  change (deepen stack (.array []) .valueOrClose).bind (·.run ls) = _
  unfold deepen
  split <;> rfl

/-- An object is opened when not too many containers are open. -/
theorem run_openObject :
    (mk stack .value).run (.openObject :: ls) =
      if stack.length < maxDepth then
        (mk (.object [] "" :: stack) .nameOrClose).run ls
      else none := by
  change (deepen stack (.object [] "") .nameOrClose).bind (·.run ls) = _
  unfold deepen
  split <;> rfl

/-- Right behind the bracket that opens an array its first element is read like any other. -/
theorem run_valueOrClose (v : Json) :
    (mk stack .valueOrClose).run (v.spelling ++ ls) = (mk stack .value).run (v.spelling ++ ls) := by
  cases v <;> rfl

/-- The elements of an array begin with the first one. -/
theorem run_valueOrClose_items (v : Json) (items : List Json) :
    (mk stack .valueOrClose).run (spellingItems (v :: items) ++ ls) =
      (mk stack .value).run (spellingItems (v :: items) ++ ls) := by
  cases items with
  | nil => exact run_valueOrClose v
  | cons w items =>
    rw [spellingItems, List.append_assoc]
    · exact run_valueOrClose v
    · simp

/-- Right behind the brace that opens an object its first name is read like any other. -/
theorem run_nameOrClose (c : Container) (name : String) (v : Json)
    (members : List (String × Json)) :
    (mk (c :: stack) .nameOrClose).run (spellingMembers ((name, v) :: members) ++ ls) =
      (mk (c :: stack) (.name [])).run (spellingMembers ((name, v) :: members) ++ ls) := by
  cases members <;> rfl

end Progress

mutual

/-- The lexemes of a value are read as the value wherever one may stand, unless there are too many
containers around some place of it. -/
theorem run_spelling : ∀ (v : Json), v.Legible → ∀ (stack : List Container) (ls : List Lexeme),
    stack.length ≤ maxDepth → (Progress.mk stack .value).run (v.spelling ++ ls) =
      if stack.length + v.depth ≤ maxDepth then (Progress.mk stack (.separator v)).run ls else none
  | .null, _, stack, ls, hstack | .bool _, _, stack, ls, hstack | .integer _, _, stack, ls, hstack
  | .real _, _, stack, ls, hstack | .text _, _, stack, ls, hstack =>
    (if_pos hstack).symm
  | .array [], _, stack, ls, hstack => by
    exact Progress.run_openArray
  | .array (v :: items), h, stack, ls, hstack => by
    -- the array stays open while its elements are read, so that it counts for each of them
    rw [spelling, List.cons_append, Progress.run_openArray, List.append_assoc,
      Progress.run_valueOrClose_items, depth]
    by_cases hdepth : stack.length < maxDepth
    · rw [if_pos hdepth]
      have hitems := run_spellingItems (v :: items) (List.cons_ne_nil _ _) h [] stack ls hdepth
      rw [List.singleton_append, hitems, Nat.add_right_comm, Nat.add_assoc]
      rfl
    · rw [if_neg hdepth, if_neg (by omega)]
  | .object [], _, stack, ls, hstack => by
    exact Progress.run_openObject
  | .object ((name, v) :: members), h, stack, ls, hstack => by
    rw [spelling, List.cons_append, Progress.run_openObject, List.append_assoc, depth]
    by_cases hdepth : stack.length < maxDepth
    · rw [if_pos hdepth]
      have hmembers :=
        run_spellingMembers ((name, v) :: members) (List.cons_ne_nil _ _) h.2 [] h.1
          (.object [] "") stack ls hdepth
      rw [List.singleton_append, Progress.run_nameOrClose, hmembers, Nat.add_right_comm,
        Nat.add_assoc]
      rfl
    · rw [if_neg hdepth, if_neg (by omega)]

/-- The lexemes of the elements of an array are read behind those before them. -/
theorem run_spellingItems : ∀ (items : List Json), items ≠ [] → LegibleItems items →
    ∀ (read : List Json) (stack : List Container) (ls : List Lexeme), stack.length < maxDepth →
      (Progress.mk (.array read :: stack) .value).run (spellingItems items ++ .closeArray :: ls) =
        if stack.length + 1 + depthItems items ≤ maxDepth then
          (Progress.mk stack (.separator (.array (read.reverse ++ items)))).run ls
        else none
  | [], hne, _, _, _, _, _ => absurd rfl hne
  | [v], _, h, read, stack, ls, hstack => by
    rw [spellingItems, run_spelling v h.1 (.array read :: stack) _ hstack, depthItems, depthItems,
      Nat.max_zero, List.length_cons]
    split
    · rw [← List.reverse_cons]
      rfl
    · rfl
  | v :: w :: items, _, h, read, stack, ls, hstack => by
    have hitems :=
      run_spellingItems (w :: items) (List.cons_ne_nil _ _) h.2 (v :: read) stack ls hstack
    rw [List.reverse_cons, List.append_assoc, List.singleton_append] at hitems
    rw [spellingItems, List.append_assoc, run_spelling v h.1 (.array read :: stack) _ hstack,
      depthItems, ← ite_add_max, ← hitems]
    · rfl
    · simp

/-- The lexemes of the members of an object are read behind those before them. -/
theorem run_spellingMembers : ∀ (members : List (String × Json)), members ≠ [] →
    LegibleMembers members → ∀ (read : List (String × Json)),
      (read ++ members).Pairwise (fun m m' => m.1 < m'.1) →
      ∀ (c : Container) (stack : List Container) (ls : List Lexeme), stack.length < maxDepth →
        (Progress.mk (c :: stack) (.name read)).run
            (spellingMembers members ++ .closeObject :: ls) =
          if stack.length + 1 + depthMembers members ≤ maxDepth then
            (Progress.mk stack (.separator (.object (read ++ members)))).run ls
          else none
  | [], hne, _, _, _, _, _, _, _ => absurd rfl hne
  | [(name, v)], _, h, read, hnames, c, stack, ls, hstack => by
    change (Progress.mk (.object read name :: stack) .value).run (v.spelling ++ _) = _
    rw [run_spelling v h.1 (.object read name :: stack) _ hstack, depthMembers, depthMembers,
      Nat.max_zero, List.length_cons]
    split
    · rw [← insertMember_of_pairwise hnames]
      rfl
    · rfl
  | (name, v) :: m :: members, _, h, read, hnames, c, stack, ls, hstack => by
    -- the member is put behind those before it, since its name is greater than theirs
    have hmembers := run_spellingMembers (m :: members) (List.cons_ne_nil _ _) h.2
      (read ++ [(name, v)]) (by rwa [List.append_assoc]) (.object read name) stack ls hstack
    rw [List.append_assoc, List.singleton_append, ← insertMember_of_pairwise hnames] at hmembers
    rw [spellingMembers, List.cons_append, List.cons_append, List.append_assoc]
    · change (Progress.mk (.object read name :: stack) .value).run (v.spelling ++ _) = _
      rw [run_spelling v h.1 (.object read name :: stack) _ hstack, depthMembers, ← ite_add_max,
        ← hmembers]
      rfl
    · simp

end

/-- The text of a legible value is read as the value, unless there are too many containers around
some place of it. -/
theorem read_compact {v : Json} (h : v.Legible) :
    read v.compact = if v.depth ≤ maxDepth then some v else none := by
  have hlexes : Lexes v.compact.toList v.spelling := by
    simpa using lexes_compact v h (by simp [EndsValue]) Lexes.nil
  have hrun := run_spelling v h [] [] (Nat.zero_le _)
  rw [List.append_nil, List.length_nil, Nat.zero_add] at hrun
  rw [read, lexemes, hlexes _ (Nat.le_refl _), Option.bind_some, ofLexemes?, hrun]
  split <;> rfl

end Json

namespace Value

mutual

/-- The floats that a value is made of. -/
def floats : Value → List Float
  | .float x => [x]
  | .list items => floatsOfAll items
  | _ => []

/-- The floats that some values are made of. -/
def floatsOfAll : List Value → List Float
  | [] => []
  | v :: vs => floats v ++ floatsOfAll vs

end

mutual

/-- A value with a counterpart in JSON is legible there when its floats are. -/
theorem legible_toJson : ∀ v : Value, v.expressible = true → (∀ x ∈ v.floats, Json.ReadsBack x) →
    v.toJson.Legible
  | .null, _, _ | .bool _, _, _ | .text _, _, _ => trivial
  | .int n, _, _ => ⟨n.minValue_le_toInt, Int.lt_of_le_of_lt n.toInt_le (by decide)⟩
  | .float x, h, hfloats => ⟨h, hfloats x (List.mem_singleton.2 rfl)⟩
  | .bytes _, h, _ => by simp [expressible] at h
  | .list items, h, hfloats => legible_toJsonItems items h hfloats

/-- Several values with counterparts in JSON are legible there when their floats are. -/
theorem legible_toJsonItems : ∀ items : List Value, expressibleAll items = true →
    (∀ x ∈ floatsOfAll items, Json.ReadsBack x) → Json.LegibleItems (toJsonItems items)
  | [], _, _ => trivial
  | v :: vs, h, hfloats => by
    rw [expressibleAll, Bool.and_eq_true] at h
    rw [floatsOfAll, List.forall_mem_append] at hfloats
    exact ⟨legible_toJson v h.1 hfloats.1, legible_toJsonItems vs h.2 hfloats.2⟩

end

/-- Values survive JSON. A value without bytes and without infinite floats and NaNs whose floats are
denoted by their texts is read back from its JSON text, with the same constructors throughout,
unless it is nested deeper than texts may be; then its text is not read at all. -/
theorem ofJson?_read_compact (v : Value) (h : v.expressible = true)
    (hfloats : ∀ x ∈ v.floats, Json.ReadsBack x) :
    (Json.read v.toJson.compact).bind ofJson? =
      if v.toJson.depth ≤ Json.maxDepth then some v else none := by
  rw [Json.read_compact (legible_toJson v h hfloats)]
  split
  · exact ofJson?_toJson v h
  · rfl

/-- A list with the least integer, a negative zero, a text with escapes and a list in it. -/
theorem ofJson?_read_compact_list :
    let v : Value := .list [.int Int64.minValue, .float 1.0, .float (-0.0), .int 1, .null,
      .bool false, .text "a\"\\\n\x01é", .list []]
    v.expressible = true ∧ (∀ x ∈ v.floats, Json.ReadsBack x) ∧
      (Json.read v.toJson.compact).bind ofJson? = some v := by
  intro v
  have hplain : v.expressible = true := by decide +kernel
  have hfloats : ∀ x ∈ v.floats, Json.ReadsBack x := by decide +kernel
  refine ⟨hplain, hfloats, ?_⟩
  rw [ofJson?_read_compact v hplain hfloats]
  rfl

end Value

end FilterSql
