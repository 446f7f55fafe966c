import FilterSql.Toml.Lexeme
import FilterSql.Toml.Scalar

/-!
# Reading TOML documents

A document is read line by line: a line opens a table, opens a further element of an array of
tables, or gives a value to a key. The lines are then carried out one after another on the members
of the document; a line that redefines something is refused.
-/

namespace FilterSql.Toml

mutual

/-- The value at the front of a text, and what follows. In the value `depth` arrays and tables may
be open at once. -/
def valueWithin : (fuel depth : Nat) → List Char → Option (Toml × List Char)
  | 0, _, _ => none
  | fuel + 1, depth, cs =>
    match cs, depth with
    | '[' :: _, 0 | '\x7b' :: _, 0 => none
    | '[' :: rest, depth + 1 =>
      (itemsWithin fuel depth rest).map fun (items, rest) => (.array items, rest)
    | '\x7b' :: rest, depth + 1 =>
      (membersWithin fuel depth [] rest).map fun (m, rest) => (.table .braces m, rest)
    | '"' :: _, _ | '\'' :: _, _ =>
      (stringAt cs).map fun (s, rest) => (.text (String.ofList s), rest)
    | _, _ => (scalar? (word cs).1).map fun v => (v, (word cs).2)

/-- The elements of an array up to its closing bracket, and what follows. -/
def itemsWithin : (fuel depth : Nat) → List Char → Option (List Toml × List Char)
  | 0, _, _ => none
  | fuel + 1, depth, cs => do
    match ← skipBlank false cs with
    | ']' :: rest => some ([], rest)
    | cs =>
      let (v, rest) ← valueWithin fuel depth cs
      match ← skipBlank false rest with
      | ',' :: rest => (itemsWithin fuel depth rest).map fun (vs, rest) => (v :: vs, rest)
      | ']' :: rest => some ([v], rest)
      | _ => none

/-- The members of a table between braces up to its closing brace, added to those read so far, and
what follows. -/
def membersWithin : (fuel depth : Nat) → Members → List Char → Option (Members × List Char)
  | 0, _, _, _ => none
  | fuel + 1, depth, m, cs => do
    match ← skipBlank false cs with
    | '\x7d' :: rest => some (m, rest)
    | cs =>
      let (path, rest) ← key cs
      match ← skipBlank false rest with
      | '=' :: rest =>
        let (v, rest) ← valueWithin fuel depth (← skipBlank false rest)
        let m ← m.assign v path
        match ← skipBlank false rest with
        | ',' :: rest => membersWithin fuel depth m rest
        | '\x7d' :: rest => some (m, rest)
        | _ => none
      | _ => none

end

/-- What a line says. -/
inductive Line where
  /-- What follows belongs to this table. -/
  | table (path : List String)
  /-- What follows belongs to a further element of this array of tables. -/
  | element (path : List String)
  /-- The key has this value. -/
  | entry (path : List String) (v : Toml)

/-- The line at the front of a text that is not blank, and what follows its end. -/
def line (cs : List Char) : Option (Line × List Char) := do
  match cs with
  | '[' :: '[' :: rest =>
    match ← key rest with
    | (path, ']' :: ']' :: rest) => some (.element path, ← endLine rest)
    | _ => none
  | '[' :: rest =>
    match ← key rest with
    | (path, ']' :: rest) => some (.table path, ← endLine rest)
    | _ => none
  | _ =>
    match ← key cs with
    | (path, '=' :: rest) =>
      let (v, rest) ← valueWithin (2 * rest.length + 1) maxNesting (skipSpace rest)
      some (.entry path v, ← endLine rest)
    | _ => none

/-- The lines of a text, at most `fuel` of them. -/
def linesWithin : (fuel : Nat) → List Char → Option (List Line)
  | 0, _ => none
  | fuel + 1, cs => do
    match ← skipBlank false cs with
    | [] => some []
    | cs =>
      let (l, rest) ← line cs
      (linesWithin fuel rest).map (l :: ·)

/-- A partly read document. -/
structure Progress where
  /-- The members of the document. -/
  members : Members := []
  /-- The path of the table that entries belong to. -/
  current : List String := []

/-- Carry out one line. -/
def Progress.step (p : Progress) : Line → Option Progress
  | .table path => do
    let key ← path.getLast?
    return ⟨← p.members.within (Members.openTable key) path.dropLast, path⟩
  | .element path => do
    let key ← path.getLast?
    return ⟨← p.members.within (Members.openElement key) path.dropLast, path⟩
  | .entry path v => do
    return { p with members := ← p.members.within (Members.assign v path) p.current }

/-- The members of the document that a text spells. -/
def read (s : String) : Option Members := do
  let cs := dropMark s.toList
  let lines ← linesWithin (cs.length + 1) cs
  return (← lines.foldlM Progress.step {}).members

end FilterSql.Toml
