/-!
# Counters

Four counters say how requests were answered: plans executed, plans executed for nested
fields, nested fields that were loaded with their parent, and fields that violated their
cardinality. Each counter is published as a family with a name and a help text, and a
registry takes every name once.
-/

namespace EntityGraph

/-- Something that is counted. -/
inductive Tick where
  | query
  /-- A query for a nested field, which is a query too. -/
  | nestedQuery
  | loadStateHit
  | violation
deriving DecidableEq

/-- The counters. -/
structure Counters where
  queries : Nat
  nestedQueries : Nat
  loadStateHits : Nat
  violations : Nat
deriving DecidableEq

namespace Counters

/-- The counters at the start. -/
def zero : Counters := ⟨0, 0, 0, 0⟩

/-- Count once more. -/
def record (counters : Counters) : Tick → Counters
  | .query => { counters with queries := counters.queries + 1 }
  | .nestedQuery =>
    { counters with
      queries := counters.queries + 1
      nestedQueries := counters.nestedQueries + 1 }
  | .loadStateHit => { counters with loadStateHits := counters.loadStateHits + 1 }
  | .violation => { counters with violations := counters.violations + 1 }

/-- Count a sequence. -/
def recordAll (counters : Counters) (ticks : List Tick) : Counters :=
  ticks.foldl record counters

end Counters

/-- A published counter. -/
structure MetricFamily where
  name : String
  help : String
  total : Nat

/-- The families of the counters in ascending order of name. -/
def Counters.families (counters : Counters) : List MetricFamily :=
  [⟨"entity_cardinality_violation_total",
      "Total singular nested fields whose query did not return exactly one instance.",
      counters.violations⟩,
    ⟨"entity_load_state_hit_total",
      "Total nested fields resolved from an association fetched with the parent.",
      counters.loadStateHits⟩,
    ⟨"entity_query_total", "Total query plans executed.", counters.queries⟩,
    ⟨"entity_secondary_query_total", "Total query plans executed to resolve a nested field.",
      counters.nestedQueries⟩]

/-- The names that are published so far. -/
structure MetricRegistry where
  names : List String

namespace MetricRegistry

/-- The registry without names. -/
def empty : MetricRegistry := ⟨[]⟩

/-- Publish the counters, unless one of their names is taken. -/
def register? (registry : MetricRegistry) : Option MetricRegistry :=
  let names := Counters.zero.families.map MetricFamily.name
  if names.any fun name => registry.names.contains name then none
  else some ⟨registry.names ++ names⟩

end MetricRegistry

end EntityGraph
