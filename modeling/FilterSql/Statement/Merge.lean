import FilterSql.Error
import FilterSql.Statement.Binding
import FilterSql.Statement.Upsert

/-!
# Planning an upsert

A merge writes a record into a table: a new row, or an existing one that agrees with the record in
the qualifier columns. Here it is settled which columns those are, which ones are inserted and which
ones updated, and which column identifies the written row afterwards.
-/

namespace FilterSql

/-- The input of a merge. -/
structure MergeSpec where
  /-- The values to write, by property or column name. -/
  record : Record
  /-- The fields that rows are matched on; without any, the key. -/
  qualifiers : List Field := []
  /-- The key columns that the database reports, for entities that declare none. -/
  keyColumns : List String := []

/-- A member of a merged record with its column resolved. -/
structure Member where
  /-- The column that the member is written to. -/
  column : Column
  /-- The value to write. -/
  value : Value

/-- The columns that a merge matches on and reports. -/
structure MergeKeys where
  /-- The columns that decide whether a row exists already. -/
  qualifiers : List String
  /-- The column that identifies the written row. -/
  result : Option String
  /-- The column whose values the database generates. -/
  identity : Option String

namespace Entity

/-- The key columns of an entity, else those that the database reports. -/
def keyColumns (e : Entity) (reported : List String) : List String :=
  let declared := e.keys.map (·.columnName)
  if declared.isEmpty then reported else declared

/-- The column whose values the database generates. -/
def identityColumn? (e : Entity) : Option String :=
  e.identity?.map (·.columnName)

/-- The column that identifies a written row: the identity, else the first key column. -/
def resultColumn? (e : Entity) (reported : List String) : Option String :=
  e.identityColumn?.or ((e.keys.head?.map (·.columnName)).or reported.head?)

end Entity

namespace MergeSpec

/-- The first member that holds a list, which no column can take. -/
def listMember? (spec : MergeSpec) : Option String :=
  (spec.record.entries.find? fun (_, v) => v.isList).map (·.1)

/-- The members of the record with their columns. -/
def members (spec : MergeSpec) (s : Scope) : StateM TypeChain (List Member) :=
  spec.record.entries.mapM fun (name, value) => do
    return { column := ← s.column name value.kind, value }

/-- Whether some member of the record is written to a column. Members are looked up until one is. -/
def isWritten (spec : MergeSpec) (s : Scope) (column : String) : StateM TypeChain Bool :=
  spec.record.names.anyM fun name => do
    return (← s.column name none).name = column

/-- Refuse to match rows on a column that no member is written to, by the name that it was asked
for. -/
def require (spec : MergeSpec) (s : Scope) (name column : String) : Building String := do
  if ← (spec.isWritten s column : StateM TypeChain _) then return column
  else throw (.unknownQualifier name)

/-- The column of a given qualifier, which some member has to be written to. -/
def qualifier (spec : MergeSpec) (s : Scope) (f : Field) : Building String := do
  let column ← (s.fieldColumn f : StateM TypeChain _)
  spec.require s f.name column.name

/-- The columns that rows are matched on: those of the given qualifiers, else the key columns. Some
member has to be written to each of them. -/
def qualifierColumns (spec : MergeSpec) (s : Scope) : Building (List String) :=
  match spec.qualifiers with
  | [] =>
    match s.entity.keyColumns spec.keyColumns with
    | [] => throw (.noQualifierAvailable s.entity.table.display)
    | keys => keys.mapM fun k => spec.require s k k
  | given => given.mapM (spec.qualifier s)

/-- The columns that a merge matches on and reports. -/
def resolveKeys (spec : MergeSpec) (s : Scope) : Building MergeKeys := do
  let qualifiers ← spec.qualifierColumns s
  return { qualifiers
           result := s.entity.resultColumn? spec.keyColumns
           identity := s.entity.identityColumn? }

/-- Refuse qualifiers other than the key where an upsert matches on the table's key. -/
def checkKey (spec : MergeSpec) (d : Dialect) (e : Entity) (qualifiers : List String) :
    Except QueryError Unit :=
  if d.upsertStyle = .onDuplicateKey ∧ spec.qualifiers ≠ [] ∧
      !qualifiers.isPerm (e.keyColumns spec.keyColumns) then
    .error (.qualifierNotKey d qualifiers)
  else .ok ()

end MergeSpec

namespace MergeKeys

/-- Whether a member is left to the database in a new row: a null in the identity or result column,
and in a `MERGE` the identity column whatever its value. -/
def isGenerated (keys : MergeKeys) (style : UpsertStyle) (m : Member) : Bool :=
  let isIdentity := keys.identity = some m.column.name
  let isResult := keys.result = some m.column.name
  (style = .merge && isIdentity) || ((isIdentity || isResult) && m.value.isNull)

/-- The members that are written into a new row. -/
def insertable (keys : MergeKeys) (style : UpsertStyle) (members : List Member) : List Member :=
  members.filter fun m => !keys.isGenerated style m

/-- The columns that are written into an existing row: all but the qualifiers and the identity. -/
def updatable (keys : MergeKeys) (members : List Member) : List String :=
  (members.map (·.column.name)).filter fun c =>
    !keys.qualifiers.contains c && !(keys.identity = some c)

end MergeKeys

/-- Parameters for the values of some members, in order. -/
def Parameter.ofMembers (members : List Member) : List Parameter :=
  members.zipIdx.map fun (m, i) =>
    { name := parameterName i, value := m.value, dbType := m.column.dbType }

/-- The parts of the upsert that writes some members, and its parameters. A `MERGE` binds every
member and writes to an existing row whatever may be written there; the other styles bind what is
inserted and update nothing else. -/
def MergeKeys.plan (keys : MergeKeys) (style : UpsertStyle) (table : TableName)
    (members : List Member) : Upsert × List Parameter :=
  let insertable := keys.insertable style members
  let inserted := insertable.map (·.column.name)
  let updatable := keys.updatable members
  let (bound, updated) :=
    if style = .merge then (members, updatable)
    else (insertable, updatable.filter inserted.contains)
  ({ table, qualifiers := keys.qualifiers, result := keys.result
     bound := bound.map (·.column.name), inserted, updated },
    Parameter.ofMembers bound)

/-- The upsert that a merge stands for in a dialect, and its parameters. The members are resolved last,
when nothing can be refused any more. -/
def MergeSpec.plan (spec : MergeSpec) (d : Dialect) (s : Scope) :
    Building (Upsert × List Parameter) := do
  if let some name := spec.listMember? then
    throw (.mergeListValue name)
  let keys ← spec.resolveKeys s
  ExceptT.mk (pure (spec.checkKey d s.entity keys.qualifiers))
  let members ← (spec.members s : StateM TypeChain _)
  return keys.plan d.upsertStyle s.entity.table members

end FilterSql
