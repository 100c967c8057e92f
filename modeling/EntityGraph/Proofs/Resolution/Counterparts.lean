import EntityGraph.Proofs.Planning.Unfetched
import EntityGraph.Proofs.Resolution.Walked

/-!
# Instances with and without what is fetched

A service that fetches associations to one resolves instances that carry their targets, a
service that does not resolves the same instances without. The two are counterparts as long
as the fetched one is faithful, satisfies what is selected on it and was planned for it.
Whatever the first service fetches for a field, the second one fetches counterparts.
-/

namespace EntityGraph

/-- A service of a store that fetches associations to one, or does not. -/
abbrev Store.serving (store : Store) (standard : JoinType) (eager : Bool) : Service :=
  ⟨⟨eager, standard⟩, store⟩

/-- Whether an instance that was fetched with its associations to one stands for the retrieved
instance, as far as some selections go. -/
structure Instance.Counterpart (store : Store) (standard : JoinType) (vars : Dict Value)
    (selections : List Selection) (inst bare : Instance) : Prop where
  faithful : inst.Faithful store
  retrieved : store.retrieve inst.ref = .ok bare
  satisfied : Selection.AllSatisfied store standard vars inst.ref.entity (.entity inst.ref)
    selections
  planned : ∃ level next plan, level.entity = inst.ref.entity ∧
    Planner.Plans (store.serving standard true).planner vars level next selections plan
  unordered : Selection.AllUnorderedToOne store.model inst.ref.entity selections

/-- What a field is resolved to, with and without what is fetched. -/
inductive Fetched.Alike (alike : Instance → Instance → Prop) : Fetched → Fetched → Prop where
  | list {instances others : List Instance} (each : List.Forall₂ alike instances others) :
    Alike alike (.list instances) (.list others)
  | none : Alike alike (.object none) (.object none)
  | some {inst other : Instance} (same : alike inst other) :
    Alike alike (.object (some inst)) (.object (some other))

/-- What a field is resolved to, or how it violates its cardinality. -/
inductive Fetched.AlikeOrViolated (alike : Instance → Instance → Prop) :
    Except CardinalityViolation Fetched → Except CardinalityViolation Fetched → Prop where
  | ok {fetched other : Fetched} (same : Fetched.Alike alike fetched other) :
    AlikeOrViolated alike (.ok fetched) (.ok other)
  | violated (violation : CardinalityViolation) :
    AlikeOrViolated alike (.error violation) (.error violation)

variable {store : Store} {standard : JoinType} {vars : Dict Value}

namespace Planner.Plans

variable {planner : Planner} {level : Level} {next : Nat} {child : Selection}
  {rest : List Selection} {plan : LevelPlan}

/-- What is planned for several selections is planned for those after the first. -/
theorem exists_rest (planned : planner.Plans vars level next (child :: rest) plan) :
    ∃ next plan, planner.Plans vars level next rest plan := by
  cases planned with
  | leave _ others => exact ⟨_, _, others⟩
  | join _ _ _ _ _ remaining => exact ⟨_, _, remaining⟩

/-- What is selected below a joined selection is planned. -/
theorem exists_below_of_mem (planned : planner.Plans vars level next selections plan)
    (member : child ∈ selections) {relationship : Relationship}
    (joined : planner.model.joined? level.entity child = some relationship) :
    ∃ level next plan, level.entity = relationship.target ∧
      planner.Plans vars level next child.selections plan := by
  induction planned with
  | nil => cases member
  | leave left _ inductionHypothesis =>
    rcases List.mem_cons.1 member with rfl | member
    · rw [left.1] at joined
      cases joined
    · exact inductionHypothesis member joined
  | join found _ _ below _ _ _ inductionHypothesis =>
    rcases List.mem_cons.1 member with rfl | member
    · rw [found] at joined
      cases joined
      exact ⟨_, _, _, rfl, below⟩
    · exact inductionHypothesis member joined

end Planner.Plans

/-- Counterparts for some selections are counterparts for those after the first. -/
theorem Instance.Counterpart.rest {child : Selection} {rest : List Selection}
    {inst bare : Instance} (same : inst.Counterpart store standard vars (child :: rest) bare) :
    inst.Counterpart store standard vars rest bare where
  faithful := same.faithful
  retrieved := same.retrieved
  satisfied := same.satisfied.2
  planned := by
    obtain ⟨level, next, plan, entity, planned⟩ := same.planned
    obtain ⟨next, plan, others⟩ := planned.exists_rest
    exact ⟨level, next, plan, entity, others⟩
  unordered := same.unordered.2

/-! ## Instances -/

/-- What a plan with fetches is executed to are counterparts of what is stored. -/
theorem exists_counterpart (typed : store.WellTyped) (consistent : store.model.Consistent)
    {context : PlanContext} {entity : String} {selection : Selection} {select : Select}
    {instances : List Instance}
    (planned : (store.serving standard true).planner.plan context entity selection = .ok select)
    (executed : store.execute select = .ok instances)
    (leads : context.LeadsTo store entity selection.name)
    (unordered : Selection.AllUnorderedToOne store.model entity selection.selections)
    {inst : Instance} (member : inst ∈ instances) :
    ∃ bare, store.retrieve inst.ref = .ok bare ∧
      inst.Counterpart store standard context.vars selection.selections bare := by
  have found : (store.serving standard true).instances context entity selection =
      .ok instances :=
    bind_eq_ok_iff.2 ⟨select, mapError_eq_ok_iff.2 planned, mapError_eq_ok_iff.2 executed⟩
  obtain ⟨walked, ofEntity⟩ := Service.walked_of_instances found typed consistent leads member
  obtain ⟨bare, retrieved, _⟩ := walked.faithful.exists_retrieve
  obtain ⟨_, _, _, _, _, _, joined, _⟩ := Planner.plan_eq_ok_iff.1 planned
  refine ⟨bare, retrieved, walked.faithful, retrieved, walked.satisfied,
    ⟨_, _, _, ofEntity.symm, joined⟩, ?_⟩
  rw [ofEntity]
  exact unordered

/-- The instances of a field that are found with fetches are found without them as
counterparts. -/
theorem follows_instances (obtained : Store.Obtained store.model store)
    (consistent : store.model.Consistent) {context : PlanContext} {entity : String}
    {selection : Selection} (leads : context.LeadsTo store entity selection.name)
    (unordered : Selection.AllUnorderedToOne store.model entity selection.selections) :
    Follows
      (List.Forall₂ (Instance.Counterpart store standard context.vars selection.selections))
      ((store.serving standard true).instances context entity selection)
      ((store.serving standard false).instances context entity selection) := by
  intro instances found
  obtain ⟨select, planned, executed⟩ := bind_eq_ok_iff.1 found
  rw [mapError_eq_ok_iff] at planned executed
  have counterparts : ∀ inst ∈ instances, ∃ bare, store.retrieve inst.ref = .ok bare ∧
      inst.Counterpart store standard context.vars selection.selections bare :=
    fun inst member =>
      exists_counterpart obtained.wellTyped consistent planned executed leads unordered member
  obtain ⟨others, retrieves⟩ : ∃ others,
      instances.mapM (fun inst => store.retrieve inst.ref) = .ok others :=
    exists_mapM_eq_ok fun inst member => by
      obtain ⟨bare, retrieved, _⟩ := counterparts inst member
      exact ⟨bare, retrieved⟩
  obtain ⟨unfetched, plannedAlike, runAlike⟩ :=
    Planner.exists_unfetched_plan planned unordered store
  obtain ⟨values, run, loaded⟩ := Store.execute_eq_ok_iff.1 executed
  have executedAlike : store.execute unfetched = .ok others := by
    have runRefs : unfetched.run store = .ok ((instances.map Instance.ref).map .entity) := by
      rw [runAlike, run, Store.eq_map_of_mapM_instanceWith loaded]
    rw [Planner.execute_of_run plannedAlike runRefs, List.mapM_map]
    exact retrieves
  refine ⟨others, bind_eq_ok_iff.2 ⟨unfetched, mapError_eq_ok_iff.2 plannedAlike,
    mapError_eq_ok_iff.2 executedAlike⟩, ?_⟩
  rw [mapM_eq_ok_iff, List.forall₂_iff_zip] at retrieves
  refine List.forall₂_iff_zip.2 ⟨retrieves.1, fun {inst bare} member => ?_⟩
  obtain ⟨again, retrieved, same⟩ := counterparts inst (List.of_mem_zip member).1
  rw [retrieves.2 member] at retrieved
  cases retrieved
  exact same

end EntityGraph
