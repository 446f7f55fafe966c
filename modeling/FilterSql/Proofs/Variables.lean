import FilterSql.Proofs.First
import FilterSql.Settings.Expansion
import Mathlib.Data.List.TakeWhile

/-!
# What the expansion of a text does

A text is cut from left to right into segments: runs of characters that stand for themselves, names
of variables and lone dollar signs. Every text has exactly one cut, and its expansion puts the
characters and the values of the variables in a row. It fails at the first name for which the
environment holds no text, either because there is nothing or because what there is has bytes that
belong to no character.

## Main definitions

* `Environment.Lacks`: the environment holds no text for a name;
* `Environment.Segment`: a segment of a text;
* `Environment.Segment.Fits`: a segment is as long as it has to be in front of what follows;
* `Environment.Cut`: a cut of a text into segments that fit.

## Main results

* `Cut.unique` and `exists_cut`: there is exactly one cut of a text;
* `Cut.expandChars_eq`: the expansion of a text from its cut;
* `Cut.expandChars_append`: a text that is not cut open at its end is expanded on its own;
* `expand_eq_of_cut`: expansion as a whole;
* `expand_not_by_names`: it is not enough to know the names of the variables.
-/

namespace FilterSql.Environment

/-! ### Looking names up -/

/-- A value makes up no text when there is a stray byte in it. -/
theorem text?_eq_none_iff {value : List Piece} :
    text? value = none ↔ ∃ byte, .stray byte ∈ value := by
  unfold text?
  rw [Option.map_eq_none_iff]
  induction value with
  | nil => simp
  | cons piece value ih =>
    cases piece with
    | stray byte => simp [Piece.char?]
    | char c =>
      rw [List.mapM_cons]
      cases hvalue : value.mapM Piece.char? <;> simpa [Piece.char?, hvalue] using ih

section

variable {env : Environment} {name : String}

/-- Nothing stands for a name when no entry begins with the name and an equals sign, or when the name
cannot be looked up. -/
theorem find?_eq_none_iff :
    env.find? name = none ↔ name = "" ∨ '\x00' ∈ name.toList ∨
      ∀ v ∈ env.entries, ¬ opening name <+: v.entry := by
  have hprefix (entry : List Piece) :
      (opening name).isPrefixOf? entry = none ↔ ¬ opening name <+: entry := by
    rw [← Option.not_isSome_iff_eq_none, List.isSome_isPrefixOf?_eq_isPrefixOf,
      List.isPrefixOf_iff_prefix]
  unfold find?
  rw [← or_assoc]
  split
  · next hname => exact iff_of_true rfl (.inl hname)
  · next hname => simp only [List.findSome?_eq_none_iff, hprefix, or_iff_right hname]

/-- The environment holds no text for a name: the name cannot be looked up, no entry begins with it and
an equals sign, or there is a stray byte in what follows in the first one that does. -/
def Lacks (env : Environment) (name : String) : Prop :=
  name = "" ∨ '\x00' ∈ name.toList ∨ (∀ v ∈ env.entries, ¬ opening name <+: v.entry) ∨
    ∃ value byte, env.find? name = some value ∧ .stray byte ∈ value

/-- A name that the environment holds no text for has no value. -/
theorem get?_eq_none_iff : env.get? name = none ↔ env.Lacks name := by
  have hlacks : env.Lacks name ↔
      env.find? name = none ∨ ∃ value byte, env.find? name = some value ∧ .stray byte ∈ value := by
    rw [find?_eq_none_iff, Lacks, or_assoc, or_assoc]
  rw [hlacks, get?]
  cases env.find? name <;> simp [text?_eq_none_iff]

end

/-! ### Segments and cuts -/

/-- A segment of a text. -/
inductive Segment where
  /-- Characters that stand for themselves. -/
  | plain (run : List Char)
  /-- The name of a variable between braces. -/
  | braced (name : List Char)
  /-- The name of a variable behind an opening brace that is not closed. -/
  | unclosed (name : List Char)
  /-- The name of a variable without braces. -/
  | bare (name : List Char)
  /-- A dollar sign that stands for itself. -/
  | dollar

namespace Segment

/-- The characters of a segment in the text. -/
def text : Segment → List Char
  | plain run => run
  | braced name => '$' :: '\x7b' :: (name ++ ['\x7d'])
  | unclosed name => '$' :: '\x7b' :: name
  | bare name => '$' :: name
  | dollar => ['$']

/-- The variable that a segment names. -/
def name? : Segment → Option String
  | braced name | unclosed name | bare name => some (String.ofList name)
  | plain _ | dollar => none

/-- What stands for a segment in the expansion: the value of its variable, or its own characters. -/
def value? (env : Environment) (segment : Segment) : Option String :=
  match segment.name? with
  | some name => env.get? name
  | none => some (String.ofList segment.text)

/-- What stands for a segment in the expansion, if there is a text for its name. -/
def expansion (env : Environment) (segment : Segment) : Except SettingsError String :=
  match segment.name? with
  | some name =>
    match env.get? name with
    | some value => .ok value
    | none => .error (.missingVariable name)
  | none => .ok (String.ofList segment.text)

/-- A segment is well made and ends where it has to in front of the rest of the text: a run at the
next dollar sign, a name in braces at the next brace, any other name behind its last letter, digit
or underscore. -/
def Fits : Segment → List Char → Prop
  | plain run, rest => run ≠ [] ∧ '$' ∉ run ∧ ∀ c ∈ rest.head?, c = '$'
  | braced name, _ => '\x7d' ∉ name
  | unclosed name, rest => '\x7d' ∉ name ∧ rest = []
  | bare name, rest =>
    name ≠ [] ∧ (∀ c ∈ name, isNameChar c = true) ∧ ∀ c ∈ rest.head?, isNameChar c = false
  | dollar, rest => ∀ c ∈ rest.head?, c ≠ '\x7b' ∧ isNameChar c = false

/-- More text behind a segment does not make it longer. -/
def IsClosed : Segment → Prop
  | plain _ | braced _ => True
  | unclosed _ | bare _ | dollar => False

end Segment

/-- A text is cut into segments from left to right. -/
inductive Cut : List Char → List Segment → Prop
  | nil : Cut [] []
  | cons (segment : Segment) {rest : List Char} {segments : List Segment} :
      segment.Fits rest → Cut rest segments → Cut (segment.text ++ rest) (segment :: segments)

open Segment

/-- An opening brace is not part of a name without braces. -/
theorem isNameChar_openBrace : isNameChar '\x7b' = false := by decide +kernel

/-- A name without braces does not begin with an opening brace. -/
theorem head?_ne_openBrace {name rest : List Char} (hne : name ≠ [])
    (hname : ∀ c ∈ name, isNameChar c = true) : (name ++ rest).head? ≠ some '\x7b' := by
  obtain ⟨c, name, rfl⟩ := List.exists_cons_of_ne_nil hne
  rintro hc
  obtain rfl : c = '\x7b' := by simpa using hc
  exact absurd (hname _ List.mem_cons_self) (by simp [isNameChar_openBrace])

/-- The name in front of a closing brace. -/
theorem bracedName_append {name : List Char} (h : '\x7d' ∉ name) (rest : List Char) :
    bracedName (name ++ '\x7d' :: rest) = (name, rest) := by
  induction name with
  | nil => simp [bracedName]
  | cons c name ih =>
    obtain ⟨hc, hname⟩ := List.ne_and_not_mem_of_not_mem_cons h
    rw [List.cons_append, bracedName, if_neg (Ne.symm hc), ih hname]

/-- Without a closing brace everything is the name. -/
theorem bracedName_of_not_mem {name : List Char} (h : '\x7d' ∉ name) :
    bracedName name = (name, []) := by
  induction name with
  | nil => rfl
  | cons c name ih =>
    obtain ⟨hc, hname⟩ := List.ne_and_not_mem_of_not_mem_cons h
    rw [bracedName, if_neg (Ne.symm hc), ih hname]

namespace Segment

/-- The first segment of a text and what follows it. -/
def leading : List Char → Option (Segment × List Char)
  | [] => none
  | c :: cs =>
    if c ≠ '$' then
      some (plain (c :: cs.takeWhile (· != '$')), cs.dropWhile (· != '$'))
    else if cs.head? = some '\x7b' then
      if '\x7d' ∈ cs.tail then some (braced (bracedName cs.tail).1, (bracedName cs.tail).2)
      else some (unclosed cs.tail, [])
    else if (cs.takeWhile isNameChar).isEmpty then some (dollar, cs)
    else some (bare (cs.takeWhile isNameChar), cs.dropWhile isNameChar)

/-- A dollar sign that stands for itself is followed by neither a brace nor a name. -/
theorem Fits.not_name {rest : List Char} (h : dollar.Fits rest) :
    rest.head? ≠ some '\x7b' ∧ rest.takeWhile isNameChar = [] := by
  refine ⟨fun hc => (h _ hc).1 rfl, ?_⟩
  have hnone : ([] ++ rest).takeWhile isNameChar = [] :=
    takeWhile_run (by simp) fun c hc => (h c hc).2
  exact hnone

/-- A segment that fits is the first segment of its text. -/
theorem leading_text {segment : Segment} {rest : List Char} (h : segment.Fits rest) :
    leading (segment.text ++ rest) = some (segment, rest) := by
  cases segment with
  | plain run =>
    obtain ⟨hne, hrun, hrest⟩ := h
    obtain ⟨c, run, rfl⟩ := List.exists_cons_of_ne_nil hne
    obtain ⟨hc, hrun⟩ := List.ne_and_not_mem_of_not_mem_cons hrun
    have hin : ∀ x ∈ run, (x != '$') = true := fun x hx => by
      simpa using fun h : x = '$' => hrun (h ▸ hx)
    have hout : ∀ x ∈ rest.head?, (x != '$') = false := fun x hx => by simp [hrest x hx]
    simp only [text, List.cons_append, leading, takeWhile_run hin hout, dropWhile_run hin hout]
    rw [if_pos (Ne.symm hc)]
  | braced name =>
    simp [text, leading, bracedName_append h]
  | unclosed name =>
    obtain ⟨hname, rfl⟩ := h
    simp [text, leading, hname]
  | bare name =>
    obtain ⟨hne, hname, hrest⟩ := h
    simp only [text, List.cons_append, leading]
    rw [if_neg (by simp), if_neg (head?_ne_openBrace hne hname), takeWhile_run hname hrest,
      dropWhile_run hname hrest, if_neg (by simpa using hne)]
  | dollar =>
    obtain ⟨hhead, hnone⟩ := h.not_name
    simp [text, leading, hhead, hnone]

/-- A segment that fits has characters. -/
theorem Fits.text_ne_nil {segment : Segment} {rest : List Char} (h : segment.Fits rest) :
    segment.text ≠ [] := by
  cases segment with
  | plain run => exact h.1
  | _ => exact List.cons_ne_nil _ _

/-- Every text that is not empty has a first segment that fits. -/
theorem exists_fits {cs : List Char} (h : cs ≠ []) :
    ∃ (segment : Segment) (rest : List Char), cs = segment.text ++ rest ∧ segment.Fits rest := by
  obtain ⟨c, cs, rfl⟩ := List.exists_cons_of_ne_nil h
  by_cases hc : c = '$'
  · subst hc
    -- behind the dollar sign stands a brace, which may be closed or not, a name, or neither
    by_cases hbrace : cs.head? = some '\x7b'
    · obtain ⟨cs, rfl⟩ := List.head?_eq_some_iff.1 hbrace
      by_cases hclosed : '\x7d' ∈ cs
      · obtain ⟨name, rest, rfl, hname⟩ := List.eq_append_cons_of_mem hclosed
        exact ⟨braced name, rest, by simp [text], hname⟩
      · exact ⟨unclosed cs, [], by simp [text], hclosed, rfl⟩
    · by_cases hnone : cs.takeWhile isNameChar = []
      · refine ⟨dollar, cs, rfl, fun c hc => ⟨fun h => hbrace (h ▸ hc), ?_⟩⟩
        obtain ⟨cs, rfl⟩ := List.head?_eq_some_iff.1 hc
        by_contra hname
        rw [List.takeWhile_cons_of_pos (by simpa using hname)] at hnone
        cases hnone
      · exact ⟨bare (cs.takeWhile isNameChar), cs.dropWhile isNameChar,
          by simp [text, List.takeWhile_append_dropWhile], hnone,
          fun c hc => List.mem_takeWhile_imp hc, head?_dropWhile_eq_false⟩
  · refine ⟨plain (c :: cs.takeWhile (· != '$')), cs.dropWhile (· != '$'),
      by simp [text, List.takeWhile_append_dropWhile], List.cons_ne_nil _ _, ?_, fun x hx => ?_⟩
    · rw [List.mem_cons, not_or]
      exact ⟨Ne.symm hc, fun h => by simpa using List.mem_takeWhile_imp h⟩
    · simpa using head?_dropWhile_eq_false x hx

end Segment

/-- A text has no two cuts. -/
theorem Cut.unique {cs : List Char} {segments segments' : List Segment} (h : Cut cs segments)
    (h' : Cut cs segments') : segments = segments' := by
  induction h generalizing segments' with
  | nil =>
    generalize hcs : ([] : List Char) = cs at h'
    cases h' with
    | nil => rfl
    | cons segment hfits _ => exact absurd (List.append_eq_nil_iff.1 hcs.symm).1 hfits.text_ne_nil
  | @cons segment rest segments hfits _ ih =>
    generalize hcs : segment.text ++ rest = cs at h'
    cases h' with
    | nil => exact absurd (List.append_eq_nil_iff.1 hcs).1 hfits.text_ne_nil
    | @cons segment' rest' segments' hfits' hcut' =>
      -- the first segment is read off the text, so that both cuts begin alike
      have hleading := leading_text hfits
      rw [hcs, leading_text hfits'] at hleading
      obtain ⟨rfl, rfl⟩ := Prod.mk.inj (Option.some.inj hleading)
      rw [ih hcut']

/-- A text has a cut. -/
theorem exists_cut (cs : List Char) : ∃ segments, Cut cs segments := by
  induction hn : cs.length using Nat.strongRecOn generalizing cs with
  | _ n ih =>
    by_cases hcs : cs = []
    · exact ⟨[], hcs ▸ .nil⟩
    · obtain ⟨segment, rest, rfl, hfits⟩ := exists_fits hcs
      have hlength : 0 < segment.text.length := List.length_pos_of_ne_nil hfits.text_ne_nil
      obtain ⟨segments, hcut⟩ := ih rest.length (by simp at hn; omega) rest rfl
      exact ⟨segment :: segments, .cons segment hfits hcut⟩

/-- The segments of a cut make up the text. -/
theorem Cut.flatMap_text {cs : List Char} {segments : List Segment} (h : Cut cs segments) :
    segments.flatMap text = cs := by
  induction h with
  | nil => rfl
  | cons segment _ _ ih => rw [List.flatMap_cons, ih]

section

variable {env : Environment}

namespace Segment

variable {segment : Segment}

/-- The expansion of a segment is what stands for it. -/
theorem expansion_eq_ok_iff {value : String} :
    segment.expansion env = .ok value ↔ segment.value? env = some value := by
  unfold expansion value?
  cases segment.name? with
  | none => simp
  | some name =>
    dsimp only
    cases env.get? name <;> simp

/-- A segment without an expansion names a variable that has no value. -/
theorem expansion_eq_error_iff {e : SettingsError} :
    segment.expansion env = .error e ↔
      segment.value? env = none ∧
        ∃ name, segment.name? = some name ∧ e = .missingVariable name := by
  unfold expansion value?
  cases segment.name? with
  | none => simp
  | some name =>
    dsimp only
    cases env.get? name <;> simp [eq_comm]

/-- Nothing stands for a segment that names what the environment lacks. -/
theorem value?_eq_none_iff :
    segment.value? env = none ↔ ∃ name, segment.name? = some name ∧ env.Lacks name := by
  unfold value?
  cases segment.name? <;> simp [get?_eq_none_iff]

/-- A segment has no expansion when nothing stands for it. -/
theorem exists_expansion_eq_error_iff :
    (∃ e, segment.expansion env = .error e) ↔ segment.value? env = none := by
  simp only [expansion_eq_error_iff]
  refine ⟨fun ⟨_, hnone, _⟩ => hnone, fun hnone => ?_⟩
  cases hname : segment.name? with
  | none => simp [value?, hname] at hnone
  | some name => exact ⟨_, hnone, name, rfl, rfl⟩

end Segment

/-- A variable that has to be set is the expansion of a segment that names it. -/
theorem require_eq {segment : Segment} {name : List Char}
    (h : segment.name? = some (String.ofList name)) :
    env.require name = (segment.expansion env).map String.toList := by
  simp only [require, expansion, h]
  cases env.get? (String.ofList name) <;> rfl

/-- Characters other than dollar signs are kept. -/
theorem expandChars_run {run : List Char} (h : '$' ∉ run) (rest : List Char) :
    env.expandChars (run ++ rest) = (env.expandChars rest).map (run ++ ·) := by
  induction run with
  | nil => cases h : env.expandChars rest <;> exact h
  | cons c run ih =>
    obtain ⟨hc, hrun⟩ := List.ne_and_not_mem_of_not_mem_cons h
    rw [List.cons_append, expandChars.eq_2, if_pos (Ne.symm hc), ih hrun]
    cases env.expandChars rest <;> rfl

/-- The first segment of a text is expanded before the rest. -/
theorem expandChars_text {segment : Segment} {rest : List Char} (h : segment.Fits rest) :
    env.expandChars (segment.text ++ rest) =
      segment.expansion env >>= fun v => (env.expandChars rest).map (v.toList ++ ·) := by
  have hnamed (name : List Char) (hname : segment.name? = some (String.ofList name)) :
      (do let value ← env.require name; (env.expandChars rest).map (value ++ ·)) =
        segment.expansion env >>= fun v => (env.expandChars rest).map (v.toList ++ ·) := by
    rw [require_eq hname]
    cases segment.expansion env <;> rfl
  cases segment with
  | plain run =>
    change _ = (env.expandChars rest).map ((String.ofList run).toList ++ ·)
    rw [String.toList_ofList]
    exact expandChars_run h.2.1 rest
  | braced name =>
    rw [text, List.cons_append, expandChars.eq_2, ← hnamed name rfl]
    simp [bracedName_append h]
  | unclosed name =>
    obtain ⟨hname, rfl⟩ := h
    rw [List.append_nil, text, expandChars.eq_2, ← hnamed name rfl]
    simp [bracedName_of_not_mem hname]
  | bare name =>
    obtain ⟨hne, hname, hrest⟩ := h
    rw [text, List.cons_append, expandChars.eq_2, if_neg (by simp),
      if_neg (head?_ne_openBrace hne hname), takeWhile_run hname hrest, dropWhile_run hname hrest,
      if_neg (by simpa using hne), ← hnamed name rfl]
  | dollar =>
    obtain ⟨hhead, hnone⟩ := h.not_name
    rw [text, List.singleton_append, expandChars.eq_2, if_neg (by simp), if_neg hhead, hnone]
    rfl

/-- The expansion of a text from its cut. -/
theorem Cut.expandChars_eq {cs : List Char} {segments : List Segment} (h : Cut cs segments) :
    env.expandChars cs =
      (segments.mapM (expansion env)).map fun values => values.flatMap String.toList := by
  induction h with
  | nil => rw [expandChars]; rfl
  | @cons segment rest segments hfits _ ih =>
    rw [expandChars_text hfits, ih, List.mapM_cons]
    cases segment.expansion env <;> cases segments.mapM (expansion env) <;> rfl

/-- A segment that is not the last one is the same with more text behind. -/
theorem Segment.Fits.append {segment : Segment} {rest : List Char} (h : segment.Fits rest)
    (hrest : rest ≠ []) (more : List Char) : segment.Fits (rest ++ more) := by
  obtain ⟨c, rest, rfl⟩ := List.exists_cons_of_ne_nil hrest
  cases segment with
  | unclosed name => exact absurd h.2 hrest
  | _ => exact h

/-- A closed segment is expanded before whatever follows it. -/
theorem expandChars_closed {segment : Segment} {rest : List Char} (h : segment.Fits rest)
    (hclosed : segment.IsClosed) (more : List Char) :
    env.expandChars (segment.text ++ more) =
      segment.expansion env >>= fun v => (env.expandChars more).map (v.toList ++ ·) := by
  cases segment with
  | plain run =>
    change _ = (env.expandChars more).map ((String.ofList run).toList ++ ·)
    rw [String.toList_ofList]
    exact expandChars_run h.2.1 more
  | braced name => exact expandChars_text (show (Segment.braced name).Fits more from h)
  | unclosed | bare | dollar => exact hclosed.elim

/-- A text whose last segment is closed is expanded before whatever follows it. -/
theorem Cut.expandChars_append {cs : List Char} {segments : List Segment} (h : Cut cs segments)
    (hclosed : ∀ segment ∈ segments.getLast?, segment.IsClosed) (more : List Char) :
    env.expandChars (cs ++ more) =
      env.expandChars cs >>= fun value => (env.expandChars more).map (value ++ ·) := by
  induction h with
  | nil =>
    rw [List.nil_append, expandChars.eq_1]
    cases h : env.expandChars more <;> rfl
  | @cons segment rest segments hfits hcut ih =>
    rw [List.append_assoc, expandChars_text hfits]
    cases segments with
    | nil =>
      cases hcut
      rw [List.nil_append, expandChars_closed hfits (hclosed segment rfl), expandChars.eq_1]
      cases segment.expansion env with
      | error e => rfl
      | ok v => simp [bind, Except.bind, Except.map]
    | cons next segments =>
      -- the text behind cannot make a segment longer that others follow
      have hrest : rest ≠ [] := by
        rintro rfl
        cases hcut.unique .nil
      rw [expandChars_text (hfits.append hrest more), ih (by simpa using hclosed)]
      cases segment.expansion env with
      | error e => rfl
      | ok v =>
        cases env.expandChars rest <;> cases env.expandChars more <;>
          simp [bind, Except.bind, Except.map]

/-- The last segment of a cut is the end of the text. -/
theorem Cut.eq_append_text {cs : List Char} {segments : List Segment} (h : Cut cs segments) :
    ∀ segment ∈ segments.getLast?, segment.Fits [] ∧ ∃ before, cs = before ++ segment.text := by
  induction h with
  | nil => simp
  | @cons segment rest segments hfits hcut ih =>
    cases segments with
    | nil =>
      cases hcut
      intro last hlast
      obtain rfl : segment = last := Option.some.inj hlast
      exact ⟨hfits, [], List.append_nil _⟩
    | cons next segments =>
      intro last hlast
      obtain ⟨hlast, before, hrest⟩ := ih last (by simpa using hlast)
      exact ⟨hlast, segment.text ++ before, by rw [hrest, List.append_assoc]⟩

/-- A text that ends in no dollar sign and no part of a name is closed, unless a brace is open. -/
theorem Cut.isClosed_getLast {cs : List Char} {segments : List Segment} (h : Cut cs segments)
    {c : Char} (hc : cs.getLast? = some c) (hdollar : c ≠ '$') (hname : isNameChar c = false)
    (hopen : ∀ name, segments.getLast? ≠ some (.unclosed name)) :
    ∀ segment ∈ segments.getLast?, segment.IsClosed := by
  intro segment hsegment
  obtain ⟨hfits, before, rfl⟩ := h.eq_append_text segment hsegment
  rw [List.getLast?_append_of_ne_nil _ hfits.text_ne_nil] at hc
  cases segment with
  | plain | braced => trivial
  | unclosed name => exact hopen name hsegment
  | bare name =>
    have hlast : name.getLast? = some c := by
      rwa [text, List.getLast?_cons_of_ne_nil hfits.1] at hc
    rw [hfits.2.1 c (List.mem_of_getLast? hlast)] at hname
    cases hname
  | dollar => exact hdollar (by simpa [text] using hc.symm)

/-- What expansion does. A text is cut in exactly one way into runs of characters, names of
variables and lone dollar signs. If the environment holds a text for each name, the expansion is what
stands for the segments, in a row; otherwise the first name for which there is none is reported. A text
without a dollar sign is its own expansion. A text that ends in a character that is no dollar sign and
no part of a name, and whose last brace is closed, is expanded before whatever follows it. -/
theorem expand_eq_of_cut (env : Environment) (s : String) :
    ∃ segments, Cut s.toList segments ∧ (∀ others, Cut s.toList others → others = segments) ∧
      segments.flatMap text = s.toList ∧
      (∀ t, env.expand s = .ok t ↔
        ∃ values, List.Forall₂ (fun segment v => segment.value? env = some v) segments values ∧
          t = String.join values) ∧
      (∀ e, env.expand s = .error e ↔
        ∃ segment name,
          FirstWith (fun segment => ∃ name, segment.name? = some name ∧ env.Lacks name) segments
            segment ∧
          segment.name? = some name ∧ e = .missingVariable name) ∧
      ('$' ∉ s.toList → env.expand s = .ok s) ∧
      (∀ c, s.toList.getLast? = some c → c ≠ '$' → isNameChar c = false →
        (∀ name, segments.getLast? ≠ some (.unclosed name)) →
        ∀ more, env.expand (s ++ more) = do
          let start ← env.expand s
          let rest ← env.expand more
          return start ++ rest) := by
  obtain ⟨segments, hcut⟩ := exists_cut s.toList
  have hexpand : env.expand s = (segments.mapM (expansion env)).map String.join := by
    rw [expand, hcut.expandChars_eq]
    cases segments.mapM (expansion env) with
    | error e => rfl
    | ok values => simp [Except.map, ← String.toList_join]
  refine ⟨segments, hcut, fun _ h => h.unique hcut, hcut.flatMap_text, fun t => ?_, fun e => ?_,
    fun h => ?_, fun c hc hdollar hname hopen more => ?_⟩
  · simp only [← expansion_eq_ok_iff, ← mapM_eq_ok_iff]
    rw [hexpand]
    cases segments.mapM (expansion env) <;> simp [Except.map, eq_comm]
  · have herror : env.expand s = .error e ↔ segments.mapM (expansion env) = .error e := by
      rw [hexpand]
      cases segments.mapM (expansion env) <;> simp [Except.map]
    rw [herror, mapM_eq_error_iff]
    simp only [exists_expansion_eq_error_iff]
    simp only [expansion_eq_error_iff, ← value?_eq_none_iff]
    exact ⟨fun ⟨segment, hfirst, _, name, hname, he⟩ => ⟨segment, name, hfirst, hname, he⟩,
      fun ⟨segment, name, hfirst, hname, he⟩ => ⟨segment, hfirst, hfirst.1, name, hname, he⟩⟩
  · have hrun : env.expandChars (s.toList ++ []) = _ := expandChars_run h []
    rw [List.append_nil, expandChars.eq_1] at hrun
    simp [expand, hrun, Except.map]
  · have hclosed := hcut.isClosed_getLast hc hdollar hname hopen
    rw [expand, String.toList_append, hcut.expandChars_append hclosed, expand, expand]
    cases env.expandChars s.toList with
    | error e => rfl
    | ok value =>
      cases env.expandChars more.toList <;>
        simp [bind, Except.bind, Except.map, pure, Except.pure]

/-- A path with two variables, the value of one of which holds a dollar sign. -/
theorem expand_eq_of_cut_path :
    let env : Environment := { entries := [("A", "$B"), ("B", "x")] }
    env.expand "$\x7bA\x7d$/$B." = .ok "$B$/x." ∧
      env.expand ("$\x7bA\x7d$/$B." ++ "$C") = .error (.missingVariable "C") ∧
      env.expand "x.db" = .ok "x.db" := by
  intro env
  have hslash : isNameChar '/' = false := by decide +kernel
  have hpoint : isNameChar '.' = false := by decide +kernel
  have hB : isNameChar 'B' = true := by decide +kernel
  have hC : isNameChar 'C' = true := by decide +kernel
  have hcut : Cut "$\x7bA\x7d$/$B.".toList
      [.braced ['A'], .dollar, .plain ['/'], .bare ['B'], .plain ['.']] := by
    rw [show "$\x7bA\x7d$/$B.".toList = ['$', '\x7b', 'A', '\x7d', '$', '/', '$', 'B', '.'] by simp]
    exact .cons (.braced ['A']) (by simp [Fits]) <| .cons .dollar (by simp [Fits, hslash]) <|
      .cons (.plain ['/']) (by simp [Fits]) <| .cons (.bare ['B']) (by simp [Fits, hB, hpoint]) <|
        .cons (.plain ['.']) (by simp [Fits]) .nil
  obtain ⟨_, hcut', -, -, hok, -, -, happend⟩ := expand_eq_of_cut env "$\x7bA\x7d$/$B."
  obtain rfl := hcut'.unique hcut
  obtain ⟨_, hcut', -, -, -, herror, -, -⟩ := expand_eq_of_cut env "$C"
  obtain rfl := hcut'.unique (.cons (.bare ['C']) (by simp [Fits, hC]) .nil)
  have hpath : env.expand "$\x7bA\x7d$/$B." = .ok "$B$/x." :=
    (hok _).2 ⟨["$B", "$", "/", "x", "."], by decide, by decide⟩
  have hlacks : env.Lacks "C" := .inr (.inr (.inl (by decide)))
  have hmissing : env.expand "$C" = .error (.missingVariable "C") :=
    (herror _).2 ⟨.bare ['C'], "C", firstWith_cons_iff.2 (.inl ⟨⟨"C", rfl, hlacks⟩, rfl⟩), rfl, rfl⟩
  refine ⟨hpath, ?_, ?_⟩
  · rw [happend '.' (by simp) (by decide) hpoint (by simp) "$C", hpath, hmissing]
    rfl
  · obtain ⟨_, -, -, -, -, -, hplain, -⟩ := expand_eq_of_cut env "x.db"
    exact hplain (by decide)

/-- The names of the variables that are set do not settle whether a text is expanded. A variable that is
set has no text when there is a stray byte in it; and a name with an equals sign, which no variable can
have, is found inside the value of another one. -/
theorem expand_not_by_names :
    (let env : Environment := { entries := [{ name := "DATA_DIR", value := [.stray 255] }] }
     "DATA_DIR" ∈ env.entries.map (·.name) ∧
       env.expand "$\x7bDATA_DIR\x7d/x.db" = .error (.missingVariable "DATA_DIR")) ∧
    (let env : Environment := { entries := [("QT_A", "B=C")] }
     "QT_A=B" ∉ env.entries.map (·.name) ∧ env.expand "$\x7bQT_A=B\x7d" = .ok "C") := by
  constructor
  · intro env
    have hcut : Cut "$\x7bDATA_DIR\x7d/x.db".toList
        [.braced "DATA_DIR".toList, .plain "/x.db".toList] := by
      refine .cons (.braced "DATA_DIR".toList) ?_ (.cons (.plain "/x.db".toList) ?_ .nil)
      · simp [Fits]
      · simp [Fits]
    refine ⟨by decide, ?_⟩
    rw [expand, hcut.expandChars_eq]
    decide
  · intro env
    have hcut : Cut "$\x7bQT_A=B\x7d".toList [.braced "QT_A=B".toList] := by
      refine .cons (.braced "QT_A=B".toList) ?_ .nil
      simp [Fits]
    refine ⟨by decide, ?_⟩
    rw [expand, hcut.expandChars_eq]
    decide

end

end FilterSql.Environment
