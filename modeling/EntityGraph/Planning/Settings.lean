import EntityGraph.Plan.Basic

/-!
# Fetch settings

How associations are planned when a request leaves it open.
-/

namespace EntityGraph

/-- Choices that hold for every plan. -/
structure FetchSettings where
  /-- Whether associations with at most one target are loaded together with their source. -/
  eagerFetchToOne : Bool
  /-- The join type of an association without a join type of its own. -/
  defaultJoinType : JoinType
deriving DecidableEq

/-- The settings when nothing is said. -/
def FetchSettings.standard : FetchSettings := ⟨true, .left⟩

instance : Inhabited FetchSettings := ⟨.standard⟩

end EntityGraph
