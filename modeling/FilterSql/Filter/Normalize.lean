import FilterSql.Filter
import FilterSql.Predicate.Compile

/-!
# Normalizing filters

Every shape of filter becomes a condition tree whose conditions carry as many values as their
operators need. Names in records and conditions are not looked up; a name that matches no property
stands for itself.
-/

namespace FilterSql

/-- Refuse a condition whose value does not suit its operator. -/
def Condition.validate (c : Condition) : Except QueryError Unit :=
  match c.fault? with
  | some fault => .error (.invalidOperatorArgument c.field.name c.operator fault)
  | none => .ok ()

/-- Refuse a tree for the first of its conditions whose value does not suit its operator. -/
def Group.validate (g : Group Condition) : Except QueryError Unit :=
  g.leaves.forM Condition.validate

namespace Filter

/-- The condition on one member of a dynamic filter. -/
def memberCondition : String × Value → Condition
  | (name, .list items) => .isIn { name } items
  | (name, v) => .eq { name } v

/-- The condition tree of a filter before its conditions are checked. -/
def toGroup (e : Entity) (fieldCase : FieldCase) : Filter → Except QueryError (Group Condition)
  | dynamic record => .ok (.all (record.entries.map memberCondition))
  | condition c => .ok (.all [c])
  | conditions cs => .ok (.all cs)
  | group g => .ok g
  | predicate p => p.compile e fieldCase
  | key v =>
    match e.keys with
    | [p] => .ok (.all [.eq p.field v])
    | [] => .error (.unsupportedFilterShape (.noPrimaryKey e.name))
    | _ => .error (.unsupportedFilterShape (.compositeKey e.name))

/-- The condition tree that a filter stands for. -/
def normalize (e : Entity) (fieldCase : FieldCase) (f : Filter) :
    Except QueryError (Group Condition) := do
  let g ← f.toGroup e fieldCase
  g.validate
  return g

end Filter

end FilterSql
