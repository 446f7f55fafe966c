/-!
# TOML values

The values of TOML documents. A table remembers how it came into being, because that decides what
may still be added to it: a header completes a table that so far was only implied, a dotted key
extends only tables that dotted keys have made, and a table between braces is complete.
-/

namespace FilterSql

namespace Toml

/-- How a table came into being. -/
inductive Origin where
  /-- By a header of its own. -/
  | header
  /-- As a part of the path of another header. -/
  | implied
  /-- As a part of a dotted key. -/
  | dotted
  /-- Between braces. -/
  | braces
deriving DecidableEq, Repr

end Toml

/-- A TOML value. Floats and times are kept as they are written. -/
inductive Toml where
  | text (s : String)
  | integer (n : Int)
  | bool (b : Bool)
  | float (literal : String)
  | time (literal : String)
  | array (items : List Toml)
  | table (origin : Toml.Origin) (members : List (String × Toml))
  /-- An array whose elements are tables with a header each. -/
  | tables (latest : List (String × Toml)) (earlier : List (List (String × Toml)))
deriving Inhabited

namespace Toml

/-- The members of a table, in the order in which they are first mentioned. -/
abbrev Members := List (String × Toml)

namespace Members

/-- The value of a member. -/
def get? (m : Members) (key : String) : Option Toml :=
  m.lookup key

/-- Replace or add the member of a key: `f` is given the present value, and may refuse. -/
def alter (key : String) (f : Option Toml → Option Toml) : Members → Option Members
  | [] => (f none).map fun v => [(key, v)]
  | (k, v) :: rest =>
    if k = key then (f (some v)).map fun v => (k, v) :: rest
    else (alter key f rest).map fun rest => (k, v) :: rest

/-- Change the table that the path of a header leads to. Tables that are missing on the way are
implied, and an array of tables stands for its latest element. -/
def within (f : Members → Option Members) : List String → Members → Option Members
  | [], m => f m
  | key :: path, m =>
    alter key (fun
      | none => (within f path []).map (.table .implied)
      | some (.table .braces _) => none
      | some (.table origin inner) => (within f path inner).map (.table origin)
      | some (.tables latest earlier) => (within f path latest).map (.tables · earlier)
      | some _ => none) m

/-- Give a value to a dotted key. Only the tables that dotted keys have made may be extended so. -/
def assign (v : Toml) : List String → Members → Option Members
  | [], _ => none
  | [key], m =>
    alter key (fun
      | none => some v
      | some _ => none) m
  | key :: path, m =>
    alter key (fun
      | none => (assign v path []).map (.table .dotted)
      | some (.table .dotted inner) => (assign v path inner).map (.table .dotted)
      -- A table that headers imply takes no member in this way; the tables below it may.
      | some (.table .implied inner) =>
        if path.length = 1 then none else (assign v path inner).map (.table .implied)
      -- The same holds for the latest element of an array of tables.
      | some (.tables latest earlier) =>
        if path.length = 1 then none else (assign v path latest).map (.tables · earlier)
      | some _ => none) m

/-- Open the table of a header. -/
def openTable (key : String) (m : Members) : Option Members :=
  alter key (fun
    | none => some (.table .header [])
    | some (.table .implied inner) => some (.table .header inner)
    | some _ => none) m

/-- Open a further element of an array of tables. -/
def openElement (key : String) (m : Members) : Option Members :=
  alter key (fun
    | none => some (.tables [] [])
    | some (.tables latest earlier) => some (.tables [] (latest :: earlier))
    | some _ => none) m

end Members

/-- The members of a table. -/
def members? : Toml → Option Members
  | table _ members => some members
  | _ => none

/-- The elements of an array. -/
def items? : Toml → Option (List Toml)
  | array items => some items
  | tables latest earlier => some ((latest :: earlier).reverse.map (table .header))
  | _ => none

end Toml

end FilterSql
