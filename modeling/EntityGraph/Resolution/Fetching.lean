import EntityGraph.Planning.Planner
import EntityGraph.Resolution.Trace

/-!
# Fetching a field

A root field executes its own plan. A nested field without filters takes what was loaded
with its source; otherwise it executes a plan that is restricted to the source.

A field with at most one target is that target or nothing. Several rows never fit it, and
with filters no row does not fit it either.
-/

namespace EntityGraph

/-- What a field is resolved to. -/
inductive Fetched where
  | list (instances : List Instance)
  | object (inst? : Option Instance)

/-- What a field of an instance holds, if it is an association that was loaded. -/
def Field.fetched? : Field → Option Fetched
  | .value _ => none
  | .reference target? => some (.object target?)
  | .collection targets => some (.list targets)

/-- What a field without filters finds loaded on its source. -/
def loadedField? (source : Instance) (selection : Selection) : Option Fetched :=
  if selection.hasFilters then none else (source.field? selection.name).bind Field.fetched?

/-- What answers a request. -/
structure Resolver where
  planner : Planner
  transport : Transport

namespace Resolver

/-- What the rows of a nested field make of it. -/
def fit (source : Instance) (selection : Selection) :
    Cardinality → List Instance → Trace Fetched
  | .plural, instances => pure (.list instances)
  | .singular, [inst] => pure (.object (some inst))
  | .singular, instances =>
    if instances.isEmpty && !selection.hasFilters then pure (.object none)
    else do
      Trace.note .violation
      Trace.fail (.cardinality ⟨source.ref.entity, selection.name, instances.length⟩)

/-- Fetch a root field, which selects instances of an entity. -/
def fetchRoot (resolver : Resolver) (vars arguments : Dict Value) (entity : String)
    (selection : Selection) : Trace Fetched := do
  let plan ← Trace.planned (resolver.planner.plan ⟨vars, arguments, none⟩ entity selection)
  return .list (← Trace.ask .query resolver.transport plan)

/-- Fetch a field of a source by a query. -/
def queryNested (resolver : Resolver) (vars arguments : Dict Value) (source : Instance)
    (entity : String) (selection : Selection) : Trace Fetched := do
  let relationship ← Trace.planned <|
    resolver.planner.model.lookupAssociation source.ref.entity selection.name
  let plan ← Trace.planned <|
    resolver.planner.plan ⟨vars, arguments, some source.ref⟩ entity selection
  let instances ← Trace.ask .nestedQuery resolver.transport plan
  fit source selection relationship.cardinality instances

/-- Fetch a field of a source. -/
def fetchNested (resolver : Resolver) (vars arguments : Dict Value) (source : Instance)
    (entity : String) (selection : Selection) : Trace Fetched :=
  match loadedField? source selection with
  | some fetched => do
    Trace.note .loadStateHit
    return fetched
  | none => resolver.queryNested vars arguments source entity selection

end Resolver

end EntityGraph
