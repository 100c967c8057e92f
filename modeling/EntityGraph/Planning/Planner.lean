import EntityGraph.Planning.Conditions
import EntityGraph.Planning.Settings
import EntityGraph.Sorting

/-!
# Planning a field

A field that selects instances of an entity becomes one plan. Selected associations become
joins with the same nesting. An association with at most one target is fetched if it stands
directly below a loaded level, has no filters, and fetching is eager; otherwise it is only
joined. An association with many targets is joined if something is selected below it, and is
left out otherwise.

Aliases are numbered in the order in which they are introduced: the root, the associations
from the outside in and from left to right, the joins for filters of the root, and the
selection of a source.

Every loaded level can order the result by its attributes. Outer levels count before inner
ones, and within a level the order of selection counts.
-/

namespace EntityGraph

/-- What plans are made from besides the field itself. -/
structure Planner where
  model : Model
  settings : FetchSettings

/-- Values and the source for a plan. -/
structure PlanContext where
  /-- The values of variables. -/
  vars : Dict Value
  /-- Arguments of the field that are bound ahead of planning. -/
  arguments : Dict Value
  /-- The instance whose field is planned, if it is not a root field. -/
  source? : Option EntityRef

/-- The context without values and without a source. -/
def PlanContext.empty : PlanContext := ⟨Dict.empty, Dict.empty, none⟩

/-- A level of selections. -/
structure Level where
  entity : String
  name : Alias
  /-- Whether the instances of the level are loaded. -/
  loaded : Bool
  depth : Nat

/-- An element of the ordering, with the depth of its level. -/
structure LeveledTerm where
  depth : Nat
  term : OrderTerm

/-- The joins and the ordering from a part of the selections. -/
structure LevelPlan where
  joins : List Join
  ordering : List LeveledTerm
  /-- The first index that is not in use. -/
  next : Nat

/-- The kind of join for an association, if it is joined at all. -/
def FetchSettings.joinKind? (settings : FetchSettings) (loaded : Bool) (child : Selection) :
    Cardinality → Option JoinKind
  | .singular =>
    if loaded && settings.eagerFetchToOne && !child.hasFilters then some .fetch else some .join
  | .plural => if child.hasSelections then some .join else none

/-- Report a directive that names none of its choices. -/
def checkedDirective {α : Type} :
    Except InvalidDirective α → Except PlanningError α
  | .ok choice => .ok choice
  | .error directive => .error (.coercion (.invalidDirective directive))

/-- The ordering that a selected attribute asks for. Associations order nothing. -/
def Model.orderTerm? (model : Model) (level : Level) (child : Selection) :
    Except PlanningError (Option LeveledTerm) := do
  match ← checkedDirective child.direction? with
  | none => return none
  | some direction =>
    let info ← model.lookupAttribute level.entity child.name
    return if info.type.isAssociation then none
      else some ⟨level.depth, .column level.name child.name, direction⟩

/-- The ordering of a loaded level, from the attributes selected there. -/
def Model.orderTerms (model : Model) (level : Level) (selected : List Selection) :
    Except PlanningError (List LeveledTerm) := do
  let terms ← selected.mapM fun child => model.orderTerm? level child
  return terms.filterMap fun term? => term?

/-- The ordering of a plan: outer levels first. -/
def orderingOf (terms : List LeveledTerm) : List OrderTerm :=
  (sortStable (fun left right => left.depth < right.depth) terms).map fun leveled =>
    leveled.term

namespace Planner

mutual

/-- Plan what is selected below a field whose instances make a level. -/
def planLevel (planner : Planner) (vars : Dict Value) (level : Level) (next : Nat) :
    Selection → Except PlanningError LevelPlan
  | selection@⟨_, _, _, selections⟩ => do
    let own ←
      if level.loaded then planner.model.orderTerms level selection.attributeSelections
      else pure []
    let below ← planChildren planner vars level next selections
    return { below with ordering := own ++ below.ordering }

/-- Plan the selections of a level one after the other. -/
def planChildren (planner : Planner) (vars : Dict Value) (level : Level) (next : Nat) :
    List Selection → Except PlanningError LevelPlan
  | [] => .ok ⟨[], [], next⟩
  | child :: rest =>
    if child.isTypename then planChildren planner vars level next rest
    else do
      let info ← planner.model.lookupAttribute level.entity child.name
      let type := (← checkedDirective child.joinType?).getD planner.settings.defaultJoinType
      match info.type.relationship? level.entity child.name with
      | none => planChildren planner vars level next rest
      | some relationship =>
        match planner.settings.joinKind? level.loaded child relationship.cardinality with
        | none => planChildren planner vars level next rest
        | some kind => do
          let target : Alias := ⟨next, child.name⟩
          let nested ← planLevel planner vars
            ⟨relationship.target, target, kind = .fetch, level.depth + 1⟩ (next + 1) child
          let on? ← planner.model.joinCondition?
            ⟨relationship.target, vars, Dict.empty⟩ target child.filters
          let others ← planChildren planner vars level nested.next rest
          return {
            joins := ⟨child.name, target, kind, type, on?, nested.joins⟩ :: others.joins
            ordering := nested.ordering ++ others.ordering
            next := others.next }

end

/-- The condition of the source, if there is one. -/
def sourceConditions (planner : Planner) (context : PlanContext) (attr : String) (root : Alias)
    (next : Nat) : Except PlanningError (List Expr) :=
  match context.source? with
  | none => .ok []
  | some source => do return [← planner.model.parentCondition source attr root next]

/-- The plan for a field that selects instances of an entity. -/
def plan (planner : Planner) (context : PlanContext) (entity : String) (selection : Selection) :
    Except PlanningError Select := do
  let _ ← planner.model.lookupEntity entity
  let root : Alias := ⟨0, entity⟩
  let level ← planner.planLevel context.vars ⟨entity, root, true, 0⟩ 1 selection
  let filtered ← planner.model.rootConditions
    ⟨entity, context.vars, context.arguments⟩ root level.next selection.filters
  let related ← planner.sourceConditions context selection.name root filtered.next
  return { Select.everything entity root with
    distinct := true
    joins := level.joins ++ filtered.joins
    filter := .conjunction (filtered.conditions ++ related)
    orderBy := orderingOf level.ordering }

end Planner

end EntityGraph
