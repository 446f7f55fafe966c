/-!
# Database types

The types that a bound parameter can be declared as, and the three families that matter when a
value is bound.
-/

namespace FilterSql

/-- The type that a bound parameter is declared as. -/
inductive DbType where
  | ansiString | binary | boolean | byte | currency | date | dateTime | dateTime2 | dateTimeOffset
  | decimal | double | guid | int16 | int32 | int64 | single | string | time | xml
deriving DecidableEq, Repr

namespace DbType

/-- Every database type. -/
def all : List DbType :=
  [ansiString, binary, boolean, byte, currency, date, dateTime, dateTime2, dateTimeOffset,
    decimal, double, guid, int16, int32, int64, single, string, time, xml]

/-- The name of a database type. -/
def name : DbType → String
  | ansiString => "ansi_string"
  | binary => "binary"
  | boolean => "boolean"
  | byte => "byte"
  | currency => "currency"
  | date => "date"
  | dateTime => "date_time"
  | dateTime2 => "date_time2"
  | dateTimeOffset => "date_time_offset"
  | decimal => "decimal"
  | double => "double"
  | guid => "guid"
  | int16 => "int16"
  | int32 => "int32"
  | int64 => "int64"
  | single => "single"
  | string => "string"
  | time => "time"
  | xml => "xml"

/-- The database type of a given name. -/
def ofName? (s : String) : Option DbType :=
  all.find? fun t => t.name = s

/-- Whether values of the type travel as text. -/
def isTextual : DbType → Bool
  | ansiString | string | xml | guid | date | dateTime | dateTime2 | dateTimeOffset | time => true
  | _ => false

/-- Whether values of the type are integers. -/
def isIntegral : DbType → Bool
  | boolean | byte | int16 | int32 | int64 => true
  | _ => false

/-- Whether values of the type are numbers with a fraction. -/
def isFloating : DbType → Bool
  | currency | decimal | double | single => true
  | _ => false

/-- Every database type is found by its own name. -/
theorem ofName?_name (t : DbType) : ofName? t.name = some t := by
  cases t <;> decide

end DbType

end FilterSql
