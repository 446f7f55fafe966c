/-!
# Stages

The stages that an operation of a repository goes through. Every operation starts as requested and
ends as completed or failed.
-/

namespace FilterSql

/-- How far an operation has come. -/
inductive Stage where
  | requested | normalizing | building | executing | mapping | completed | failed
deriving DecidableEq, Repr

namespace Stage

/-- Every stage, in the order in which they are reached. -/
def all : List Stage :=
  [requested, normalizing, building, executing, mapping, completed, failed]

/-- The name of a stage in logs. -/
def name : Stage → String
  | requested => "requested"
  | normalizing => "normalizing"
  | building => "building"
  | executing => "executing"
  | mapping => "mapping"
  | completed => "completed"
  | failed => "failed"

/-- The stage that an operation with the result ends with. -/
def last {ε α : Type} : Except ε α → Stage
  | .ok _ => completed
  | .error _ => failed

/-- Whether an operation ends with the stage. -/
def isTerminal : Stage → Bool
  | completed | failed => true
  | _ => false

end Stage

end FilterSql
