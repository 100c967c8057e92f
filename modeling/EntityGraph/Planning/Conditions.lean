import EntityGraph.Plan.Basic
import EntityGraph.Planning.Coercion

/-!
# Conditions of a plan

The filters of a field compare attributes with values. A list of values asks for one of
them, and so does the comparison of an attribute that holds many values with a single one.

Filters of a join look at the joined instance. Filters of the root look at the root, except
that an attribute with many values is joined for the purpose and its elements are compared.
The field of a source instance is further restricted to what the source refers to.
-/

namespace EntityGraph

/-- Compare a path with a value. -/
def comparison (path : Expr) : Cardinality → Value → Expr
  | _, .array values => .inValues path values
  | .plural, value => .inValues path [value]
  | .singular, value => .equals path (.value value)

/-- The value of a filter and the attribute it is compared with. -/
def Model.filterOperands (model : Model) (scope : ArgumentScope) (filter : Argument) :
    Except PlanningError (Attribute × Value) := do
  let value ← filter.value.coerce model scope filter.name
  let info ← model.lookupAttribute scope.entity filter.name
  return (info, value)

/-- The condition that filters put on the targets of a join, if there are any filters. -/
def Model.joinCondition? (model : Model) (scope : ArgumentScope) (target : Alias)
    (filters : List Argument) : Except PlanningError (Option Expr) := do
  let conditions ← filters.mapM fun filter => do
    let (info, value) ← model.filterOperands scope filter
    return comparison (.column target filter.name) info.type.cardinality value
  return if conditions.isEmpty then none else some (.conjunction conditions)

/-- What filters of the root add to a plan. -/
structure RootConditions where
  joins : List Join
  conditions : List Expr
  /-- The first index that is not in use. -/
  next : Nat

/-- The joins and conditions of filters of the root. New aliases have indices from `next` on. -/
def Model.rootConditions (model : Model) (scope : ArgumentScope) (root : Alias) (next : Nat) :
    List Argument → Except PlanningError RootConditions
  | [] => .ok ⟨[], [], next⟩
  | filter :: rest => do
    let (info, value) ← model.filterOperands scope filter
    match info.type.cardinality with
    | .singular => do
      let others ← model.rootConditions scope root next rest
      let condition := comparison (.column root filter.name) .singular value
      return { others with conditions := condition :: others.conditions }
    | .plural => do
      let element : Alias := ⟨next, filter.name⟩
      let others ← model.rootConditions scope root (next + 1) rest
      let condition := comparison (.table element) .plural value
      return { others with
        joins := .plain filter.name element .left :: others.joins
        conditions := condition :: others.conditions }

/-- Everything that an attribute of a source leads to, as a selection from the entity of the
source. -/
def targetsOf (source : EntityRef) (attr : String) (next : Nat) : Select :=
  let parent : Alias := ⟨next, source.entity⟩
  let joined : Alias := ⟨next + 1, attr⟩
  { Select.everything source.entity parent with
    projected := joined
    joins := [.plain attr joined .inner]
    filter := .equals (.table parent) (.value (.entity source)) }

/-- The condition that an instance is a target of a field of a source. Targets that hold the
reference are compared by it; others are looked for among what the source leads to. -/
def Model.parentCondition (model : Model) (source : EntityRef) (attr : String) (root : Alias)
    (next : Nat) : Except PlanningError Expr := do
  let relationship ← model.lookupAssociation source.entity attr
  return match relationship.ownership with
    | .mappedBy owner => .equals (.column root owner) (.value (.entity source))
    | .owning | .association => .inSelect (.table root) (targetsOf source attr next)

end EntityGraph
