import EntityGraph.Proofs.Planning.Planned
import EntityGraph.Proofs.Planning.RootFilters
import EntityGraph.Proofs.Sorting
import EntityGraph.Proofs.Store.Mirror

/-!
# The joins of a plan mirror what is selected

A plan has one join for each selected association, nested as the associations are selected.
Only a collection below which nothing is selected has none. `__typename` is never joined itself,
but it counts as something that is selected below a collection.

Whether a join is a fetch depends on the whole path that leads to it: fetching has to be eager,
and each association on the path has to lead to one target at most and be free of filters. The
levels that are reached in this way are loaded, as the root is, and they order the plan: first
the root, then the levels at the next depth in the order of selection, and so on.

The planner decides all this one level at a time and hands down whether the level is loaded. It
collects the ordering level by level and sorts it by depth in the end. The proofs are inductions
over `Planner.Plans`, with what is handed down as the invariant.
-/

namespace EntityGraph

/-! ## Joins -/

/-- A selected association that is joined. -/
structure Step where
  child : Selection
  relationship : Relationship

namespace Planner

variable {planner : Planner} {vars : Dict Value} {level : Level} {next : Nat}
  {selections : List Selection} {plan : LevelPlan}

end Planner

/-! ## Joins for filters -/

/-- The element of the ordering that a selection of a level stands for, if it is an attribute that
is to be ordered by and no association. -/
def Model.directive? (model : Model) (level : Level) (child : Selection) : Option OrderTerm :=
  match child.direction? with
  | .ok (some direction) =>
    (model.attribute? level.entity child.name).bind fun info =>
      if info.type.isAssociation then none else some ⟨.column level.name child.name, direction⟩
  | _ => none

/-- The associations that selections of an entity join, in the order of selection. -/
def Model.steps (model : Model) (entity : String) (selections : List Selection) : List Step :=
  selections.filterMap fun child => (model.joined? entity child).map (⟨child, ·⟩)

/-- The level of the targets of a join. -/
def Join.level (join : Join) (step : Step) (depth : Nat) : Level :=
  ⟨step.relationship.target, join.target, join.kind = .fetch, depth⟩

namespace Planner

variable {planner : Planner} {vars : Dict Value} {level : Level} {next : Nat}
  {selections : List Selection} {field : Selection} {own : List LeveledTerm} {plan : LevelPlan}

end Planner

/-! ## Plans -/

end EntityGraph
