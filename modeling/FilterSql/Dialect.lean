import FilterSql.Text.Quoted
import FilterSql.Text.Numeral

/-!
# Dialects

The four SQL dialects and the rules in which they differ: quoting of identifiers, placeholders,
row limits, the place of table hints, and the form of an upsert.
-/

namespace FilterSql

/-- A SQL dialect. -/
inductive Dialect where
  | sqlite | postgres | tsql | mysql
deriving DecidableEq, Repr

/-- Where the text of a table hint stands in a statement. -/
inductive HintPosition where
  /-- Directly behind the table. -/
  | afterTable
  /-- In front of the whole statement. -/
  | statementPrefix
deriving DecidableEq, Repr

/-- How an upsert is expressed. -/
inductive UpsertStyle where
  /-- `MERGE … USING … WHEN MATCHED … WHEN NOT MATCHED …` -/
  | merge
  /-- `INSERT … ON CONFLICT (…) DO UPDATE SET …` -/
  | onConflict
  /-- `INSERT … ON DUPLICATE KEY UPDATE …` -/
  | onDuplicateKey
deriving DecidableEq, Repr

namespace Dialect

/-- Every dialect. -/
def all : List Dialect :=
  [sqlite, postgres, tsql, mysql]

/-- The name of a dialect. -/
def name : Dialect → String
  | sqlite => "sqlite"
  | postgres => "postgres"
  | tsql => "tsql"
  | mysql => "mysql"

/-- The dialect of exactly this name. -/
def ofName? (s : String) : Option Dialect :=
  all.find? fun d => d.name = s

/-- Further names that a dialect is known by. -/
def aliases : Dialect → List String
  | sqlite => []
  | postgres => ["postgresql", "pg"]
  | tsql => ["mssql", "sqlserver"]
  | mysql => ["mariadb"]

/-- The dialect that a name or a further name stands for, in any case of ASCII letters; otherwise
the name in lower case. -/
def parse (s : String) : Except String Dialect :=
  let lower := s.map Char.toLower
  match all.find? fun d => d.name = lower || d.aliases.contains lower with
  | some d => .ok d
  | none => .error lower

/-- The characters that an identifier stands between. -/
def delimiters : Dialect → Char × Char
  | sqlite | postgres => ('"', '"')
  | tsql => ('[', ']')
  | mysql => ('\x60', '\x60')

/-- A quoted identifier. -/
def quote (d : Dialect) (ident : String) : String :=
  Text.enclosed d.delimiters.1 d.delimiters.2 ident

/-- The placeholder of the parameter of a given name at a zero-based position. -/
def placeholder (d : Dialect) (name : String) (index : Nat) : String :=
  match d with
  | sqlite | tsql => "@" ++ name
  | postgres => "$" ++ Numeral.text (index + 1 : Nat)
  | mysql => "?"

/-- Whether a row offset may only follow an `ORDER BY`. -/
def offsetNeedsOrder : Dialect → Bool
  | tsql => true
  | _ => false

/-- Whether a plain row limit is written as `TOP (n)`. -/
def hasTop : Dialect → Bool
  | tsql => true
  | _ => false

/-- Where table hints stand. -/
def hintPosition : Dialect → HintPosition
  | postgres => .statementPrefix
  | _ => .afterTable

/-- Whether an upsert may carry table hints. -/
def upsertTakesHints : Dialect → Bool
  | postgres | tsql => true
  | _ => false

/-- How the dialect expresses an upsert. -/
def upsertStyle : Dialect → UpsertStyle
  | sqlite | postgres => .onConflict
  | tsql => .merge
  | mysql => .onDuplicateKey

/-- Whether an insert can return a column with `RETURNING`. -/
def hasReturning : Dialect → Bool
  | sqlite | postgres => true
  | _ => false

/-- Every dialect is found by its own name. -/
theorem ofName?_name (d : Dialect) : ofName? d.name = some d := by
  cases d <;> decide

end Dialect

end FilterSql
