import EntityGraph.Planning.Error
import EntityGraph.Store.Error

/-!
# Requests that cannot be answered

A request fails if it cannot be planned or if a plan cannot be executed. A field that
violates its cardinality is a failure of that field alone.
-/

namespace EntityGraph

/-- A field with at most one target whose query returned a number of rows that does not fit. -/
structure CardinalityViolation where
  entity : String
  field : String
  rows : Nat
deriving DecidableEq

/-- The wording of a violation. -/
def CardinalityViolation.message (violation : CardinalityViolation) : String :=
  s!"field '{violation.field}' of '{violation.entity}' expects exactly one instance, " ++
    s!"the query returned {violation.rows}"

/-- Why a request cannot be answered. -/
inductive RequestError where
  | planning (error : PlanningError)
  | execution (error : ExecutionError)
  | cardinality (violation : CardinalityViolation)

/-- The wording of a failure. -/
def RequestError.message : RequestError → String
  | .planning error => error.message
  | .execution error => error.message
  | .cardinality violation => violation.message

end EntityGraph
