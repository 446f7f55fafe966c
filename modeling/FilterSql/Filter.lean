import FilterSql.Condition.Group
import FilterSql.Predicate
import FilterSql.Record

/-!
# Filters

The shapes in which callers may express what rows they want. `Filter.normalize` brings all of them
into one: a condition tree.
-/

namespace FilterSql

/-- A filter in one of its accepted shapes. -/
inductive Filter where
  /-- Equality with each member, or membership where the member holds a list. -/
  | dynamic (record : Record)
  | condition (c : Condition)
  /-- Conditions that all have to hold. -/
  | conditions (cs : List Condition)
  | group (g : Group Condition)
  | predicate (p : Predicate)
  /-- Equality with the entity's single key. -/
  | key (v : Value)

end FilterSql
