import EntityGraph.Proofs.Planning.LoadOrder

/-!
# Planning what is left of a field

A field without directives can be planned again after a removal, whatever the level and the
indices: a selection that was joined is joined again or left out, and one that was left out
stays left out. The plan is another one, with fewer joins and other aliases; what matters is
that there is one.
-/

namespace EntityGraph

variable {removal : Removal} {child : Selection}

/-- What is joined after a removal was joined before. -/
theorem Model.joined?_of_without {model : Model} {entity : String} {relationship : Relationship}
    (joined : model.joined? entity (child.without removal) = some relationship) :
    model.joined? entity child = some relationship := by
  rw [joined?_eq_some_iff, Selection.isTypename_without, Selection.name_without] at joined
  obtain ⟨named, known, needed⟩ := joined
  exact joined?_eq_some_iff.2 ⟨named, known, needed.imp_right Selection.hasSelections_of_without⟩

/-- Filters of the root can be planned for any alias and any indices. -/
theorem Model.exists_rootConditions {model : Model} {scope : ArgumentScope} {root : Alias}
    {next : Nat} {filters : List Argument} {filtered : RootConditions}
    (planned : model.rootConditions scope root next filters = .ok filtered) (other : Alias)
    (start : Nat) : ∃ filtered, model.rootConditions scope other start filters = .ok filtered := by
  induction filters generalizing next filtered start with
  | nil => exact ⟨_, rfl⟩
  | cons filter rest inductionHypothesis =>
    obtain ⟨info, value, _, operands, ⟨cardinality, remaining, _⟩ | ⟨cardinality, remaining, _⟩⟩ :=
      rootConditions_cons_eq_ok_iff.1 planned
    · obtain ⟨others, again⟩ := inductionHypothesis remaining start
      exact ⟨_, rootConditions_cons_eq_ok_iff.2
        ⟨info, value, others, operands, .inl ⟨cardinality, again, rfl⟩⟩⟩
    · obtain ⟨others, again⟩ := inductionHypothesis remaining (start + 1)
      exact ⟨_, rootConditions_cons_eq_ok_iff.2
        ⟨info, value, others, operands, .inr ⟨cardinality, again, rfl⟩⟩⟩

namespace Planner

variable {planner : Planner} {vars : Dict Value} {level other : Level} {next : Nat}
  {selections : List Selection} {plan : LevelPlan}

/-- The join type of an association is that of what is left of it. -/
theorem joinType_without (planner : Planner) (removal : Removal) (child : Selection) :
    planner.joinType (child.without removal) = planner.joinType child := by
  rw [joinType, joinType, Selection.joinType?_without]

/-- What is not joined is left out if its attribute is known and its join type is. -/
theorem leaves_without {info : Attribute} {type : JoinType}
    (left : planner.model.joined? other.entity (child.without removal) = none)
    (known : planner.model.attribute? other.entity child.name = some info)
    (typed : planner.joinType child = .ok type) :
    planner.Leaves other (child.without removal) := by
  refine ⟨left, fun _ => ⟨⟨info, ?_⟩, type, ?_⟩⟩
  · rw [Selection.name_without, known]
  · rw [joinType_without, typed]

/-- A selection that a plan leaves out is left out after a removal. -/
theorem Leaves.without (left : planner.Leaves level child) (entity : other.entity = level.entity)
    (removal : Removal) : planner.Leaves other (child.without removal) := by
  refine ⟨?_, fun named => ?_⟩
  · cases joined : planner.model.joined? other.entity (child.without removal) with
    | none => rfl
    | some relationship =>
      rw [entity] at joined
      rw [Leaves, Model.joined?_of_without joined] at left
      cases left.1
  · rw [Selection.name_without, joinType_without, entity]
    rw [Selection.isTypename_without] at named
    exact left.2 named

/-- What is left of a joined selection can be planned in front of other selections if what is left
below it can be planned. -/
theorem exists_join_without {start : Nat} {relationship : Relationship} {type : JoinType}
    {target : Alias} {on? : Option Expr} {rest : List Selection}
    (joined : planner.model.joined? other.entity (child.without removal) = some relationship)
    (typed : planner.joinType child = .ok type)
    (undirected : Selection.allUndirected child.selections = true)
    (conditioned : planner.model.joinCondition? ⟨relationship.target, vars, Dict.empty⟩ target
      child.filters = .ok on?)
    (below : ∀ (level : Level) (start : Nat), level.entity = relationship.target → ∃ plan,
      planner.Plans vars level start (Selection.allWithout removal child.selections) plan)
    (beside : ∀ start : Nat, ∃ plan, planner.Plans vars other start rest plan) :
    ∃ plan, planner.Plans vars other start (child.without removal :: rest) plan := by
  have typedAgain : planner.joinType (child.without removal) = .ok type := by
    rw [joinType_without, typed]
  obtain ⟨nested, plannedBelow⟩ := below
    (planner.targetLevel other start (child.without removal) relationship) (start + 1) rfl
  obtain ⟨renamed, conditionedBelow⟩ := exists_joinCondition? conditioned
    ⟨start, (child.without removal).name⟩
  obtain ⟨remaining, plannedBeside⟩ := beside nested.next
  have ordered : planner.ownTerms
      (planner.targetLevel other start (child.without removal) relationship)
      (child.without removal) = .ok [] := by
    refine ownTerms_of_undirected ?_
    rw [Selection.selections_without]
    exact Selection.allUndirected_allWithout _ removal undirected
  rw [← Selection.selections_without] at plannedBelow
  rw [← Selection.filters_without removal] at conditionedBelow
  exact ⟨_, .join joined typedAgain ordered plannedBelow conditionedBelow plannedBeside⟩

/-- What is left of planned selections can be planned on any level of the entity. -/
theorem Plans.exists_without (planned : planner.Plans vars level next selections plan) :
    ∀ (removal : Removal) (other : Level) (start : Nat), other.entity = level.entity →
      Selection.allUndirected selections = true →
      ∃ plan, planner.Plans vars other start (Selection.allWithout removal selections) plan := by
  induction planned with
  | nil => exact fun _ _ _ _ _ => ⟨_, .nil⟩
  | @leave level next child rest plan left _ inductionHypothesis =>
    intro removal other start entity undirected
    rw [Selection.allUndirected, Bool.and_eq_true] at undirected
    obtain ⟨plan, others⟩ := inductionHypothesis removal other start entity undirected.2
    cases removed : removal.removes child.key with
    | true =>
      rw [Selection.allWithout_cons_of_removed removed]
      exact ⟨plan, others⟩
    | false =>
      rw [Selection.allWithout_cons_of_kept removed]
      exact ⟨plan, .leave (left.without entity _) others⟩
  | @join level next child rest relationship type own below others on? joined typed ordered planned
      conditioned _ beneath beside =>
    intro removal other start entity undirected
    rw [Selection.allUndirected, Bool.and_eq_true] at undirected
    cases removed : removal.removes child.key with
    | true =>
      rw [Selection.allWithout_cons_of_removed removed]
      exact beside removal other start entity undirected.2
    | false =>
      rw [Selection.allWithout_cons_of_kept removed]
      obtain ⟨_, ⟨info, known, _⟩, _⟩ := Model.joined?_eq_some_iff.1 joined
      rw [← entity] at joined known
      cases joinedAgain : planner.model.joined? other.entity
          (child.without (removal.below child.key)) with
      | none =>
        obtain ⟨plan, others⟩ := beside removal other start entity undirected.2
        exact ⟨plan, .leave (leaves_without joinedAgain known typed) others⟩
      | some found =>
        rw [Model.joined?_of_without joinedAgain] at joined
        cases joined
        have undirectedBelow := (Selection.isUndirected_iff.1 undirected.1).2
        exact exists_join_without joinedAgain typed undirectedBelow conditioned
          (fun target start entity => beneath _ target start entity undirectedBelow)
          fun start => beside removal other start entity undirected.2

/-- Whether the parts of a field can be planned, on some level and with some indices. -/
structure CanPlan (planner : Planner) (context : PlanContext) (entity : String)
    (selection : Selection) : Prop where
  declared : (planner.model.entity? entity).isSome
  below : ∃ level next plan, level.entity = entity ∧
    planner.Plans context.vars level next selection.selections plan
  filtered : ∃ root next filtered, planner.model.rootConditions
    ⟨entity, context.vars, context.arguments⟩ root next selection.filters = .ok filtered

variable {context : PlanContext} {entity : String} {selection : Selection} {select : Select}

/-- The parts of a field that is planned can be planned. -/
theorem canPlan_of_plan (planned : planner.plan context entity selection = .ok select) :
    planner.CanPlan context entity selection := by
  obtain ⟨_, below, filtered, _, declared, _, joined, conditioned, _⟩ := plan_eq_ok_iff.1 planned
  exact ⟨declared, ⟨_, _, below, rfl, joined⟩, _, _, filtered, conditioned⟩

/-- The conditions of a context can be planned for a field that the source leads to. -/
theorem exists_related {store : Store} (sameModel : planner.model = store.model) {attr : String}
    (leads : context.LeadsTo store entity attr) (root : Alias) (next : Nat) :
    ∃ related, planner.sourceConditions context attr root next = .ok related := by
  cases given : context.source? with
  | none =>
    rw [sourceConditions, given]
    exact ⟨[], rfl⟩
  | some source =>
    obtain ⟨_, info, relationship, known, association, _⟩ := leads source given
    obtain ⟨condition, _, restricted⟩ := planner.exists_sourceConditions context given
      (sameModel ▸ known) association root next
    exact ⟨[condition], restricted⟩

/-- A field without directives can be planned after a removal if its parts could be before. -/
theorem CanPlan.exists_plan_without {store : Store}
    (can : planner.CanPlan context entity selection) (sameModel : planner.model = store.model)
    (leads : context.LeadsTo store entity selection.name)
    (undirected : Selection.allUndirected selection.selections = true) (removal : Removal) :
    ∃ select, planner.plan context entity (selection.without removal) = .ok select := by
  obtain ⟨declared, ⟨level, next, plan, ofEntity, planned⟩, root, start, filtered, conditioned⟩ := can
  obtain ⟨below, joined⟩ :=
    planned.exists_without removal (rootLevel entity) 1 ofEntity.symm undirected
  obtain ⟨filtered, conditioned⟩ :=
    Model.exists_rootConditions conditioned (rootLevel entity).name below.next
  obtain ⟨related, restricted⟩ := exists_related sameModel leads (rootLevel entity).name
    filtered.next
  refine ⟨_, plan_eq_ok_iff.2 ⟨[], below, filtered, related, declared, ?_, ?_, ?_, ?_, rfl⟩⟩
  · refine ownTerms_of_undirected ?_
    rw [Selection.selections_without]
    exact Selection.allUndirected_allWithout _ removal undirected
  · rw [Selection.selections_without]
    exact joined
  · rw [Selection.filters_without]
    exact conditioned
  · rw [Selection.name_without]
    exact restricted

end Planner

end EntityGraph
