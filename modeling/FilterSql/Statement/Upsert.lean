import FilterSql.Statement.Select

/-!
# Writing statements

The parts of an upsert, and how the three styles write it. What is inserted, matched on and updated
is settled beforehand; a style only decides on the words.
-/

namespace FilterSql

/-- The parts of an upsert. -/
structure Upsert where
  /-- The table that is written. -/
  table : TableName
  /-- The columns whose values are bound, in the order of the parameters. -/
  bound : List String
  /-- The columns that decide whether a row exists already. -/
  qualifiers : List String
  /-- The columns of a new row that get a value. -/
  inserted : List String
  /-- The columns of an existing row that get a value. -/
  updated : List String
  /-- The column that the statement reports. -/
  result : Option String

namespace Upsert

/-- The alias of the written table in a `MERGE`. -/
def targetAlias : String := "T"

/-- The alias of the bound values in a `MERGE`. -/
def sourceAlias : String := "S"

/-- The alias of the reported column in a `MERGE`. -/
def resultAlias : String := "Result"

/-- A list of names. -/
def nameList (names : List String) : List Token :=
  Token.commaSeparated (names.map fun c => [.ident c])

/-- A column of an alias. -/
def aliased (table column : String) : List Token :=
  [.ident table, .mark .dot, .ident column]

/-- The assignment of a value to a column. -/
def assignment (column : String) (value : List Token) : List Token :=
  Token.spaced [[.ident column], [.mark .eq], value]

/-- The assignments of a value to each of the columns. -/
def assignments (columns : List String) (value : String → List Token) : List Token :=
  Token.commaSeparated (columns.map fun c => assignment c (value c))

/-- The values of a new row in the given columns; without columns, the default values. -/
def valuesPhrases (columns : List String) (values : List (List Token)) : List (List Token) :=
  match columns with
  | [] => [[.word .default], [.word .values]]
  | columns =>
    [Token.parenthesized (nameList columns), [.word .values],
      Token.parenthesized (Token.commaSeparated values)]

/-- The placeholders of the bound columns. -/
def placeholders (u : Upsert) : List (List Token) :=
  (List.range u.bound.length).map fun i => [.slot i]

/-- The bound values as a row source with the column names as aliases. -/
def source (u : Upsert) : List Token :=
  let items := u.bound.zipIdx.map fun (column, i) =>
    Token.spaced [[.slot i], [.word .as], [.ident column]]
  Token.parenthesized (Token.spaced [[.word .select], Token.commaSeparated items])

/-- The condition on which a bound row matches a row of the table. -/
def matching (u : Upsert) : List Token :=
  let equalities := u.qualifiers.map fun q =>
    Token.spaced [aliased targetAlias q, [.mark .eq], aliased sourceAlias q]
  Token.parenthesized ([Token.space, .word .and, Token.space].intercalate equalities)

/-- `MERGE … USING … WHEN NOT MATCHED … WHEN MATCHED …` -/
def mergeTokens (u : Upsert) (d : Dialect) (hint : Option String) : List Token :=
  let update :=
    match u.updated with
    | [] => []
    | columns =>
      [[.word .when], [.word .matched], [.word .then], [.word .update], [.word .set],
        assignments columns (aliased sourceAlias)]
  let output :=
    match u.result with
    | some column =>
      [[.word .output], [.word .inserted, .mark .dot, .ident column], [.word .as],
        [.ident resultAlias]]
    | none => []
  Token.spaced ([[.word .merge], [.word .into]] ++ u.table.phrases d hint ++
    [[.word .as], [.ident targetAlias], [.word .using], u.source, [.word .as],
      [.ident sourceAlias], [.word .on], u.matching, [.word .when], [.word .not],
      [.word .matched], [.word .then], [.word .insert]] ++
    valuesPhrases u.inserted (u.inserted.map (aliased sourceAlias)) ++ update ++ output) ++
  [.mark .semicolon]

/-- The `INSERT` that the other two styles begin with. -/
def insertPhrases (u : Upsert) : List (List Token) :=
  [[.word .insert], [.word .into], [u.table.token]] ++ valuesPhrases u.inserted u.placeholders

/-- `INSERT … ON CONFLICT …`, with the reported column if the dialect can return one. -/
def onConflictTokens (u : Upsert) (d : Dialect) (hint : Option String) : List Token :=
  let conflict :=
    if u.inserted.isEmpty then []
    else
      [[.word .on], [.word .conflict], Token.parenthesized (nameList u.qualifiers), [.word .do]] ++
      match u.updated with
      | [] => [[.word .nothing]]
      | columns =>
        [[.word .update], [.word .set],
          assignments columns fun c => [.word .excluded, .mark .dot, .ident c]]
  let returning :=
    match u.result with
    | some column => if d.hasReturning then [[.word .returning], [.ident column]] else []
    | none => []
  Token.spaced (d.leadingHint hint ++ u.insertPhrases ++ conflict ++ returning)

/-- `INSERT … ON DUPLICATE KEY UPDATE …`. When there is nothing to update, a qualifier is assigned
to itself, which leaves the row as it is. -/
def onDuplicateKeyTokens (u : Upsert) : List Token :=
  let duplicate :=
    if u.inserted.isEmpty then []
    else
      let updates :=
        match u.updated with
        | [] => Token.commaSeparated ((u.qualifiers.take 1).map fun q => assignment q [.ident q])
        | columns =>
          assignments columns fun c => .word .values :: Token.parenthesized [.ident c]
      [[.word .on], [.word .duplicate], [.word .key], [.word .update], updates]
  Token.spaced (u.insertPhrases ++ duplicate)

/-- The tokens of an upsert. -/
def tokens (u : Upsert) (d : Dialect) (hint : Option String) : List Token :=
  match d.upsertStyle with
  | .merge => u.mergeTokens d hint
  | .onConflict => u.onConflictTokens d hint
  | .onDuplicateKey => u.onDuplicateKeyTokens

end Upsert

end FilterSql
