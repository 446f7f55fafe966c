import FilterSql.Mapped

/-!
# A sample of a mapped type

A type with a property of every shape that rows can be read as.
-/

namespace FilterSql

/-- A record with one property of each shape. -/
structure Sample where
  /-- The generated key. -/
  id : Int64
  /-- A text, stored in a column of another name. -/
  name : String
  /-- A text that may be missing. -/
  region : Option String
  /-- A truth value. -/
  active : Bool
  /-- A number with a fraction. -/
  score : Float
  /-- An integer of thirty-two bits. -/
  small : Int32
  /-- Bytes that may be missing. -/
  data : Option (List UInt8)
  /-- A value of any kind. -/
  extra : Value

namespace Sample

/-- The declaration of the sample entity. -/
def entity : Entity :=
  Entity.declare "Sample" [
    { name := "Id", kind := .int, primary := true, identity := true },
    { name := "Name", kind := .text, column := some "full_name" },
    { name := "Region", kind := .text },
    { name := "Active", kind := .bool },
    { name := "Score", kind := .float },
    { name := "Small", kind := .int },
    { name := "Data", kind := .bytes },
    { name := "Extra", kind := .text }]

/-- Read a sample from a row, column by column. -/
def read (r : Record) : Except MappingError Sample := do
  return {
    id := ← r.read "Id" .int64
    name := ← r.read "full_name" .text
    region := ← r.read "Region" (.optional .text)
    active := ← r.read "Active" .bool
    score := ← r.read "Score" .float
    small := ← r.read "Small" .int32
    data := ← r.read "Data" (.optional .bytes)
    extra := ← r.read "Extra" .any }

/-- The members of a sample by column name. -/
def write (s : Sample) : Record :=
  Record.ofList [
    ("Id", .int s.id),
    ("full_name", .text s.name),
    ("Region", (s.region.map Value.text).getD .null),
    ("Active", .bool s.active),
    ("Score", .float s.score),
    ("Small", .int (Int64.ofInt s.small.toInt)),
    ("Data", (s.data.map Value.bytes).getD .null),
    ("Extra", s.extra)]

instance : Mapped Sample where
  entity := entity
  read := read
  write := write

end Sample

end FilterSql
