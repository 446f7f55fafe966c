import FilterSql.Proofs.First
import FilterSql.Record
import Mathlib.Data.Finset.Card

/-!
# Records in order of insertion

A record is made by pushing members one after another. Its names are the pushed ones, each in the
place of its first push and with the value of its last push. This is kept by every push, so it holds
of every record that is made from the empty one. A look-up without regard to letter case finds the
name that was pushed first among those that agree.

## Main definitions

* `Record.lastPushed?`: the value that some pushes give a name;
* `Record.Follows`: a record holds what some pushes leave behind.

## Main results

* `Record.names_push`, `Record.get?_push`: what a push does to the names and their values;
* `Record.Follows.push`, `Record.follows_ofList`: every push keeps this, and every record follows
  the pushes that it is made by;
* `Record.find?_eq`: a look-up under a policy is a search of the names and an exact look-up;
* `Record.ofList_insertionOrdered`: all of this together, for any pushes.
-/

namespace FilterSql

/-- A search of the elements of a list in the order in which they first occur finds what a search of
the list finds. -/
theorem find?_eq_of_sorted {α : Type} [DecidableEq α] {xs ys : List α}
    (hmem : ∀ x, x ∈ ys ↔ x ∈ xs) (hsorted : ys.Pairwise fun x y => xs.idxOf x < xs.idxOf y)
    (p : α → Bool) : ys.find? p = xs.find? p := by
  cases hfind : xs.find? p with
  | none =>
    rw [List.find?_eq_none] at hfind ⊢
    exact fun x hx => hfind x ((hmem x).1 hx)
  | some x =>
    obtain ⟨hx, before, after, rfl, hbefore⟩ := List.find?_eq_some_iff_append.1 hfind
    obtain ⟨front, back, rfl⟩ := List.append_of_mem ((hmem x).2 (by simp))
    refine List.find?_eq_some_iff_append.2 ⟨hx, front, back, rfl, fun y hy => ?_⟩
    -- what stands in front of the one that is found occurs before it, and is passed over there
    have hlt := (List.pairwise_append.1 hsorted).2.2 y hy x List.mem_cons_self
    have hnew : x ∉ before := fun hmem => by simpa [hx] using hbefore x hmem
    rw [List.idxOf_append, List.idxOf_append, if_neg hnew, List.idxOf_cons_self] at hlt
    by_cases hyMem : y ∈ before
    · exact hbefore y hyMem
    · rw [if_neg hyMem] at hlt
      omega

namespace Record

variable {r : Record} {pushes : List (String × Value)} {name : String} {v : Value}

/-! ### One push -/

/-- A new name is added behind the members. -/
theorem pushEntry_of_notMem {entries : List (String × Value)}
    (h : name ∉ entries.map (·.1)) : pushEntry name v entries = entries ++ [(name, v)] := by
  induction entries with
  | nil => rfl
  | cons entry rest ih =>
    rw [List.map_cons, List.mem_cons, not_or] at h
    rw [pushEntry, if_neg fun hsame => h.1 hsame.symm, ih h.2, List.cons_append]

/-- A name that is there keeps its place. -/
theorem map_fst_pushEntry_of_mem {entries : List (String × Value)}
    (h : name ∈ entries.map (·.1)) : (pushEntry name v entries).map (·.1) = entries.map (·.1) := by
  induction entries with
  | nil => cases h
  | cons entry rest ih =>
    by_cases hsame : entry.1 = name
    · rw [pushEntry, if_pos hsame, List.map_cons, List.map_cons]
    · rw [List.map_cons, List.mem_cons] at h
      rw [pushEntry, if_neg hsame, List.map_cons, List.map_cons,
        ih (h.resolve_left (Ne.symm hsame))]

/-- A push adds its name behind the others if it is new. -/
theorem names_push (r : Record) (name : String) (v : Value) :
    (r.push name v).names = if name ∈ r.names then r.names else r.names ++ [name] := by
  split_ifs with h
  · exact map_fst_pushEntry_of_mem h
  · show (pushEntry name v r.entries).map (·.1) = _
    rw [pushEntry_of_notMem h, List.map_append]
    rfl

/-- No name changes its place when a member is pushed. -/
theorem names_isPrefix_push (r : Record) (name : String) (v : Value) :
    r.names <+: (r.push name v).names := by
  rw [names_push]
  split_ifs
  · exact List.prefix_rfl
  · exact List.prefix_append r.names [name]

/-- A search for a name looks at the first member and then at the others. -/
theorem lookup_cons (n : String) (w : Value) (rest : List (String × Value)) (name : String) :
    ((n, w) :: rest).lookup name = if name = n then some w else rest.lookup name := by
  by_cases h : name = n
  · simp [h]
  · rw [List.lookup_cons, beq_eq_false_iff_ne.2 h, if_neg h]

/-- The value of a name is that of the first member with it. -/
theorem get?_eq_lookup (r : Record) (name : String) : r.get? name = r.entries.lookup name := by
  show (r.entries.find? fun entry => FieldCase.exact.agree entry.1 name).map (·.2) = _
  induction r.entries with
  | nil => rfl
  | cons entry rest ih =>
    obtain ⟨n, w⟩ := entry
    rw [lookup_cons, ← ih]
    split_ifs with h
    · rw [List.find?_cons_of_pos (by simpa using h.symm)]
      rfl
    · rw [List.find?_cons_of_neg (by simpa using Ne.symm h)]

/-- A push gives its name the pushed value, and the other names keep theirs. -/
theorem get?_push (r : Record) (name : String) (v : Value) (other : String) :
    (r.push name v).get? other = if other = name then some v else r.get? other := by
  rw [get?_eq_lookup, get?_eq_lookup]
  show (pushEntry name v r.entries).lookup other = _
  induction r.entries with
  | nil => exact lookup_cons name v [] other
  | cons entry rest ih =>
    obtain ⟨n, w⟩ := entry
    by_cases hsame : n = name
    · -- the value is replaced here
      subst hsame
      rw [pushEntry, if_pos rfl, lookup_cons, lookup_cons]
      split_ifs <;> rfl
    · rw [pushEntry, if_neg hsame, lookup_cons, lookup_cons, ih]
      split_ifs with hn hname
      · exact absurd (hn.symm.trans hname) hsame
      all_goals rfl

/-- A look-up finds the first name that agrees, and its value. -/
theorem find?_eq (r : Record) (fieldCase : FieldCase) (name : String) :
    r.find? fieldCase name = (r.names.find? fun n => fieldCase.agree n name).bind r.get? := by
  rw [funext r.get?_eq_lookup]
  show (r.entries.find? fun entry => fieldCase.agree entry.1 name).map (·.2) =
    ((r.entries.map (·.1)).find? fun n => fieldCase.agree n name).bind
      fun n => r.entries.lookup n
  induction r.entries with
  | nil => rfl
  | cons entry rest ih =>
    obtain ⟨n, w⟩ := entry
    by_cases h : fieldCase.agree n name = true
    · simp [h, lookup_cons]
    · -- no name that agrees is the one that is passed over
      rw [List.find?_cons_of_neg (by simpa using h), ih, List.map_cons,
        List.find?_cons_of_neg (by simpa using h)]
      refine Option.bind_congr fun m hm => ?_
      have hagree : fieldCase.agree m name = true := by simpa using List.find?_some hm
      have hne : m ≠ n := by
        rintro rfl
        exact h hagree
      rw [lookup_cons, if_neg hne]

/-! ### Any number of pushes -/

/-- The value that the last push of a name gives it, if there is one. -/
def lastPushed? (pushes : List (String × Value)) (name : String) : Option Value :=
  pushes.reverse.lookup name

/-- One more push is the last one of its name. -/
theorem lastPushed?_concat (pushes : List (String × Value)) (name : String) (v : Value)
    (other : String) : lastPushed? (pushes ++ [(name, v)]) other =
      if other = name then some v else lastPushed? pushes other := by
  rw [lastPushed?, List.reverse_append, List.reverse_singleton, List.singleton_append, lookup_cons]
  rfl

/-- A record holds what some pushes leave behind: the names that were pushed, in the order in which
they first were, each with the value that it was given last. -/
structure Follows (r : Record) (pushes : List (String × Value)) : Prop where
  mem_names_iff : ∀ name, name ∈ r.names ↔ name ∈ pushes.map (·.1)
  sorted : r.names.Pairwise fun a b =>
    (pushes.map (·.1)).idxOf a < (pushes.map (·.1)).idxOf b
  get?_eq : ∀ name, r.get? name = lastPushed? pushes name

/-- Every push keeps to this. -/
theorem Follows.push (h : r.Follows pushes) (name : String) (v : Value) :
    (r.push name v).Follows (pushes ++ [(name, v)]) where
  mem_names_iff other := by
    rw [names_push, List.map_append, List.map_singleton, List.mem_append, ← h.mem_names_iff]
    split_ifs with hname
    · rw [List.mem_singleton]
      exact ⟨.inl, fun hor => hor.elim id fun heq => heq ▸ hname⟩
    · exact List.mem_append
  sorted := by
    -- a name that was pushed before keeps its first place
    have hidx : ∀ n ∈ r.names, ((pushes ++ [(name, v)]).map (·.1)).idxOf n =
        (pushes.map (·.1)).idxOf n := fun n hn => by
      rw [List.map_append, List.idxOf_append_of_mem ((h.mem_names_iff n).1 hn)]
    have hold : r.names.Pairwise fun a b => ((pushes ++ [(name, v)]).map (·.1)).idxOf a <
        ((pushes ++ [(name, v)]).map (·.1)).idxOf b := by
      refine h.sorted.imp_of_mem fun ha hb hlt => ?_
      rwa [hidx _ ha, hidx _ hb]
    rw [names_push]
    split_ifs with hname
    · exact hold
    · -- the first place of a new name is behind those of all the others
      refine List.pairwise_append.2 ⟨hold, List.pairwise_singleton _ _, fun a ha b hb => ?_⟩
      obtain rfl := List.mem_singleton.1 hb
      have hnew : b ∉ pushes.map (·.1) := fun hmem => hname ((h.mem_names_iff b).2 hmem)
      rw [hidx a ha, List.map_append, List.idxOf_append, if_neg hnew]
      exact Nat.lt_add_left _ (List.idxOf_lt_length_iff.2 ((h.mem_names_iff a).1 ha))
  get?_eq other := by
    rw [get?_push, lastPushed?_concat, h.get?_eq]

/-- One more push is made after the others. -/
theorem ofList_concat (pushes : List (String × Value)) (name : String) (v : Value) :
    ofList (pushes ++ [(name, v)]) = (ofList pushes).push name v := by
  rw [ofList, List.foldl_append]
  rfl

/-- Pairs with distinct names are the members of the record that they make. -/
theorem entries_ofList {pairs : List (String × Value)} (h : (pairs.map (·.1)).Nodup) :
    (ofList pairs).entries = pairs := by
  induction pairs using List.reverseRecOn with
  | nil => rfl
  | append_singleton pairs pair ih =>
    rw [List.map_append, List.map_singleton, List.nodup_append] at h
    have hnew : pair.1 ∉ pairs.map (·.1) := fun hmem =>
      h.2.2 _ hmem _ (List.mem_singleton_self _) rfl
    rw [ofList_concat]
    show pushEntry pair.1 pair.2 (ofList pairs).entries = _
    rw [ih h.1, pushEntry_of_notMem hnew]

/-- A record follows the pushes that it is made by. -/
theorem follows_ofList (pushes : List (String × Value)) : (ofList pushes).Follows pushes := by
  induction pushes using List.reverseRecOn with
  | nil => exact ⟨fun _ => Iff.rfl, .nil, fun _ => rfl⟩
  | append_singleton pushes pair ih =>
    rw [ofList_concat]
    exact ih.push pair.1 pair.2

namespace Follows

/-- No name is there twice. -/
theorem nodup_names (h : r.Follows pushes) : r.names.Nodup :=
  h.sorted.imp fun hlt => by
    rintro rfl
    exact lt_irrefl _ hlt

/-- There are as many members as distinct names were pushed. -/
theorem size_eq (h : r.Follows pushes) : r.size = (pushes.map (·.1)).toFinset.card := by
  have hsame : (pushes.map (·.1)).toFinset = r.names.toFinset := by
    ext name
    rw [List.mem_toFinset, List.mem_toFinset, h.mem_names_iff]
  rw [hsame, List.toFinset_card_of_nodup h.nodup_names, names, List.length_map, size]

/-- A look-up finds the last value of the name that was pushed first among those that agree. -/
theorem find?_eq (h : r.Follows pushes) (fieldCase : FieldCase) (name : String) :
    r.find? fieldCase name =
      ((pushes.map (·.1)).find? fun n => fieldCase.agree n name).bind (lastPushed? pushes) := by
  rw [Record.find?_eq, find?_eq_of_sorted h.mem_names_iff h.sorted, funext h.get?_eq]

end Follows

/-- A record that is made by pushes, one after another from the empty record, is a map in order of
insertion. Its names are distinct, they are the pushed ones, and they stand in the order of their
first pushes. Each has the value of its last push. One more push moves no name and changes the value
of no other. There are as many members as distinct names. A look-up that disregards the case of
letters finds the value of the name that was pushed first among those that are the same. -/
theorem ofList_insertionOrdered (pushes : List (String × Value)) :
    let r := ofList pushes
    let pushed := pushes.map (·.1)
    r = pushes.foldl (fun r p => r.push p.1 p.2) empty ∧
    (r.names.Nodup ∧ (∀ name, name ∈ r.names ↔ name ∈ pushed) ∧
      r.names.Pairwise fun a b => pushed.idxOf a < pushed.idxOf b) ∧
    (∀ name, r.get? name = lastPushed? pushes name) ∧
    (∀ name v, r.names <+: (r.push name v).names ∧
      ∀ other, (r.push name v).get? other = if other = name then some v else r.get? other) ∧
    r.size = pushed.toFinset.card ∧
    ∀ name, r.find? .insensitive name =
      (pushed.find? fun n => FieldCase.folded n == FieldCase.folded name).bind
        (lastPushed? pushes) := by
  intro r pushed
  have h : r.Follows pushes := follows_ofList pushes
  refine ⟨rfl, ⟨h.nodup_names, h.mem_names_iff, h.sorted⟩, h.get?_eq, fun name v => ?_, h.size_eq,
    fun name => ?_⟩
  · exact ⟨r.names_isPrefix_push name v, r.get?_push name v⟩
  · rw [h.find?_eq]
    rfl

end Record

end FilterSql
