import FilterSql.DbType

/-!
# Listings

Type mappings as they are listed in settings: names with a database type each. A listing is in
ascending order of its names, so a name is listed at most once.
-/

namespace FilterSql

/-- Names with a database type each. -/
structure Listing where
  /-- The names with their types. -/
  entries : List (String × DbType)
  /-- The names ascend. -/
  ascending : entries.Pairwise fun a b => a.1 < b.1

namespace Listing

/-- The listing of nothing. -/
def empty : Listing :=
  ⟨[], .nil⟩

/-- The type that is listed for a name. -/
def get? (l : Listing) (name : String) : Option DbType :=
  l.entries.lookup name

/-- Entries with one more in its place, or with the type of its name replaced. -/
def insertEntry (name : String) (t : DbType) : List (String × DbType) → List (String × DbType)
  | [] => [(name, t)]
  | (n, u) :: rest =>
    if name < n then (name, t) :: (n, u) :: rest
    else if n < name then (n, u) :: insertEntry name t rest
    else (name, t) :: rest

/-- What is listed after an insertion was listed before, or is the new entry. -/
theorem mem_of_mem_insertEntry {name : String} {t : DbType} {es : List (String × DbType)}
    {e : String × DbType} (h : e ∈ insertEntry name t es) : e = (name, t) ∨ e ∈ es := by
  induction es with
  | nil => simpa [insertEntry] using h
  | cons f rest ih =>
    obtain ⟨n, u⟩ := f
    unfold insertEntry at h
    split at h
    · simpa using h
    · split at h
      · rcases List.mem_cons.1 h with rfl | h
        · simp
        · rcases ih h with rfl | h <;> simp [*]
      · rcases List.mem_cons.1 h with rfl | h <;> simp [*]

/-- Insertion keeps the order. -/
theorem insertEntry_ascending (name : String) (t : DbType) {es : List (String × DbType)}
    (h : es.Pairwise fun a b => a.1 < b.1) :
    (insertEntry name t es).Pairwise fun a b => a.1 < b.1 := by
  induction es with
  | nil => simp [insertEntry]
  | cons f rest ih =>
    obtain ⟨n, u⟩ := f
    obtain ⟨hn, hr⟩ := List.pairwise_cons.1 h
    unfold insertEntry
    split
    · rename_i hlt
      refine List.pairwise_cons.2 ⟨fun e he => ?_, h⟩
      rcases List.mem_cons.1 he with rfl | he
      · exact hlt
      · exact String.lt_trans hlt (hn e he)
    · rename_i hnot
      split
      · rename_i hlt
        refine List.pairwise_cons.2 ⟨fun e he => ?_, ih hr⟩
        rcases mem_of_mem_insertEntry he with rfl | he
        · exact hlt
        · exact hn e he
      · rename_i hnot'
        obtain rfl : n = name := String.le_antisymm (String.not_lt.1 hnot) (String.not_lt.1 hnot')
        exact List.pairwise_cons.2 ⟨hn, hr⟩

/-- The listing with one more name, or with the type of a name replaced. -/
def insert (l : Listing) (name : String) (t : DbType) : Listing :=
  ⟨insertEntry name t l.entries, insertEntry_ascending name t l.ascending⟩

/-- The listing of some names with their types; of two types of one name the later counts. -/
def ofList (entries : List (String × DbType)) : Listing :=
  entries.foldl (fun l (name, t) => l.insert name t) empty

end Listing

end FilterSql
