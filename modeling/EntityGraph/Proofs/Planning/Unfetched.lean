import EntityGraph.Proofs.Planning.Loaded

/-!
# Plans without fetches

Whether associations to one are fetched changes what a plan loads, but not what it selects.
Without fetches a plan has the same joins, all of them plain, and the same ordering, provided
that nothing below an association to one is ordered by.
-/

namespace EntityGraph

/-! ## Joins -/

mutual

/-- A join that loads nothing, and neither do the joins inside it. -/
def Join.unfetched : Join → Join
  | ⟨attr, target, _, type, on?, joins⟩ =>
    ⟨attr, target, .join, type, on?, Join.allUnfetched joins⟩

/-- Joins that load nothing. -/
def Join.allUnfetched : List Join → List Join
  | [] => []
  | join :: rest => join.unfetched :: Join.allUnfetched rest

end

/-- Joins make the same rows whether they fetch or not. -/
theorem Join.expandAll_allUnfetched (store : Store) (joins : List Join) :
    ∀ (source : Alias) (rows : List Bindings),
      Join.expandAll store source (Join.allUnfetched joins) rows =
        Join.expandAll store source joins rows := by
  induction joins using Join.listInduction with
  | nil => exact fun _ _ => rfl
  | cons attr target kind type on? joins rest below beside =>
    intro source rows
    simp only [Join.allUnfetched, Join.unfetched, Join.expandAll, Join.expand_eq, below, beside]

/-! ## Orderings -/

mutual

/-- Whether nothing directly below an association to one is ordered by, anywhere below a
selection. -/
def Selection.UnorderedToOne (model : Model) (entity : String) : Selection → Prop
  | ⟨name, key?, arguments, selections⟩ =>
    ∀ relationship,
      model.joined? entity ⟨name, key?, arguments, selections⟩ = some relationship →
        (relationship.cardinality = .singular →
          ∀ child ∈ selections, child.argument? orderByName = none) ∧
        Selection.AllUnorderedToOne model relationship.target selections

/-- Whether nothing directly below an association to one is ordered by, in any of several
selections. -/
def Selection.AllUnorderedToOne (model : Model) (entity : String) : List Selection → Prop
  | [] => True
  | child :: rest =>
    Selection.UnorderedToOne model entity child ∧
      Selection.AllUnorderedToOne model entity rest

end

mutual

/-- The requirement on a selection is checked on what it selects. -/
instance Selection.decidableUnorderedToOne (model : Model) (entity : String) :
    (selection : Selection) → Decidable (selection.UnorderedToOne model entity)
  | ⟨name, key?, arguments, selections⟩ =>
    have (target : String) := Selection.decidableAllUnorderedToOne model target selections
    decidable_of_iff
      (∀ relationship ∈ model.joined? entity ⟨name, key?, arguments, selections⟩,
        (relationship.cardinality = .singular →
          ∀ child ∈ selections, child.argument? orderByName = none) ∧
        Selection.AllUnorderedToOne model relationship.target selections)
      (by rw [Selection.UnorderedToOne]; rfl)

/-- The requirement on several selections is checked on each of them. -/
instance Selection.decidableAllUnorderedToOne (model : Model) (entity : String) :
    (selections : List Selection) → Decidable (Selection.AllUnorderedToOne model entity selections)
  | [] => isTrue trivial
  | child :: rest =>
    have := Selection.decidableUnorderedToOne model entity child
    have := Selection.decidableAllUnorderedToOne model entity rest
    decidable_of_iff
      (child.UnorderedToOne model entity ∧ Selection.AllUnorderedToOne model entity rest)
      (by rw [Selection.AllUnorderedToOne])

end

/-- What is asked of a selection that is joined. -/
theorem Selection.UnorderedToOne.of_joined {model : Model} {entity : String} {child : Selection}
    {relationship : Relationship} (unordered : child.UnorderedToOne model entity)
    (joined : model.joined? entity child = some relationship) :
    (relationship.cardinality = .singular →
      ∀ below ∈ child.selections, below.argument? orderByName = none) ∧
    Selection.AllUnorderedToOne model relationship.target child.selections := by
  obtain ⟨name, key?, arguments, selections⟩ := child
  rw [UnorderedToOne] at unordered
  exact unordered relationship joined

/-- What is asked below an association holds whether it is joined or selects nothing. -/
theorem Selection.UnorderedToOne.below {model : Model} {entity : String} {child : Selection}
    {info : Attribute} {relationship : Relationship} (unordered : child.UnorderedToOne model entity)
    (named : child.isTypename = false) (known : model.attribute? entity child.name = some info)
    (related : info.type.relationship? entity child.name = some relationship) :
    Selection.AllUnorderedToOne model relationship.target child.selections := by
  cases selecting : child.hasSelections with
  | true =>
    exact (unordered.of_joined (Model.joined?_eq_some_iff.2
      ⟨named, ⟨info, known, related⟩, .inr selecting⟩)).2
  | false =>
    have empty : child.selections = [] := by
      simpa [Selection.hasSelections] using selecting
    rw [empty]
    trivial

namespace Planner

/-- Selections that order nothing add nothing to the ordering. -/
theorem ownTerms_eq_nil {planner : Planner} {level : Level} {selection : Selection}
    (unordered : ∀ child ∈ selection.selections, child.argument? orderByName = none) :
    planner.ownTerms level selection = .ok [] := by
  have none (child : Selection) (member : child ∈ selection.attributeSelections) :
      planner.model.orderTerm? level child = .ok none := by
    have absent := unordered child (List.mem_filter.1 member).1
    rw [Model.orderTerm?, Selection.direction?, Selection.directive?, absent]
    rfl
  have terms (children : List Selection)
      (each : ∀ child ∈ children, planner.model.orderTerm? level child = .ok Option.none) :
      planner.model.orderTerms level children = .ok [] := by
    have all : children.mapM (planner.model.orderTerm? level) =
        .ok (children.map fun _ => Option.none) := by
      rw [mapM_eq_ok_iff]
      clear none
      induction children with
      | nil => exact .nil
      | cons child rest inductionHypothesis =>
        rw [List.forall_mem_cons] at each
        exact .cons each.1 (inductionHypothesis each.2)
    refine bind_eq_ok_iff.2 ⟨_, all, ?_⟩
    simp [pure, Except.pure]
  unfold ownTerms
  split
  · exact terms _ none
  · rfl

variable {model : Model} {standard : JoinType} {eager : Bool} {vars : Dict Value} {level : Level}
  {next : Nat} {selections : List Selection} {plan : LevelPlan}

/-- The selections of a level add nothing to the ordering by themselves if nothing below an
association to one is ordered by. -/
theorem Plans.ordering_eq_nil {planner : Planner}
    (planned : planner.Plans vars level next selections plan)
    (unordered : Selection.AllUnorderedToOne planner.model level.entity selections) :
    plan.ordering = [] := by
  induction planned with
  | nil => rfl
  | leave _ _ inductionHypothesis => exact inductionHypothesis unordered.2
  | @join level next child rest relationship type own below others on? joined _ ordered _ _ _
      beneath beside =>
    obtain ⟨unorderedBelow, further⟩ := unordered.1.of_joined joined
    have none : own = [] := by
      cases fetches : planner.settings.fetches level.loaded child relationship with
      | false =>
        simp only [ownTerms, targetLevel, fetches, Bool.false_eq_true, if_false] at ordered
        cases ordered
        rfl
      | true =>
        obtain ⟨_, _, _, singular⟩ := FetchSettings.fetches_eq_true_iff.1 fetches
        rw [ownTerms_eq_nil (unorderedBelow singular)] at ordered
        cases ordered
        rfl
    rw [none, beneath further, beside unordered.2]
    rfl

/-- Without fetches a joined level is not ordered. -/
theorem ownTerms_targetLevel (child : Selection) (relationship : Relationship) :
    Planner.ownTerms ⟨model, false, standard⟩
      (Planner.targetLevel ⟨model, false, standard⟩ level next child relationship) child =
        .ok [] := by
  simp [ownTerms, targetLevel, FetchSettings.fetches]

/-- Without fetches the same joins are planned, all of them plain. -/
theorem Plans.unfetched
    (planned : Planner.Plans ⟨model, eager, standard⟩ vars level next selections plan) :
    ∀ other : Level, other.entity = level.entity → other.name = level.name →
      Planner.Plans ⟨model, false, standard⟩ vars other next selections
        ⟨Join.allUnfetched plan.joins, [], plan.next⟩ := by
  induction planned with
  | nil => exact fun _ _ _ => .nil
  | leave left _ inductionHypothesis =>
    intro other entity name
    exact .leave (by rw [Leaves, entity]; exact left) (inductionHypothesis other entity name)
  | @join level next child rest relationship type own below others on? joined typed ordered planned
      conditioned _ beneath beside =>
    intro other entity name
    rw [← entity] at joined
    have same : (Planner.joinFor ⟨model, eager, standard⟩ level next child relationship type on?
        below.joins).unfetched =
          Planner.joinFor ⟨model, false, standard⟩ other next child relationship type on?
            (Join.allUnfetched below.joins) := by
      simp [joinFor, Join.unfetched, FetchSettings.fetches]
    have typedAlike : Planner.joinType ⟨model, false, standard⟩ child = .ok type := typed
    have plain : Planner.Plans ⟨model, false, standard⟩ vars other next (child :: rest) _ :=
      .join joined typedAlike (ownTerms_targetLevel child relationship) (beneath _ rfl rfl)
        conditioned (beside other entity name)
    rw [Join.allUnfetched, same]
    exact plain

/-- Without fetches nothing is loaded. -/
theorem Plans.loadAll_eq
    (planned : Planner.Plans ⟨model, false, standard⟩ vars level next selections plan)
    (store : Store) (inst : Instance) : Join.loadAll store inst plan.joins = .ok inst := by
  induction planned with
  | nil => rfl
  | leave _ _ inductionHypothesis => exact inductionHypothesis
  | join _ _ _ _ _ _ _ beside =>
    simp only [joinFor, FetchSettings.fetches, Bool.and_false, Bool.false_and, Bool.false_eq_true,
      if_false, Join.loadAll, Join.load]
    exact beside

/-- The condition of a join can be planned for any alias. -/
theorem exists_joinCondition? {scope : ArgumentScope} {target : Alias} {filters : List Argument}
    {on? : Option Expr} (planned : model.joinCondition? scope target filters = .ok on?)
    (other : Alias) : ∃ on?, model.joinCondition? scope other filters = .ok on? := by
  simp only [Model.joinCondition?, bind_eq_ok_iff] at planned ⊢
  obtain ⟨conditions, compared, _⟩ := planned
  rw [exists_comm]
  refine (exists_mapM_eq_ok fun filter member => ?_).imp fun renamed again => ⟨_, again, rfl⟩
  obtain ⟨_, _, step⟩ := exists_of_mem_of_mapM compared member
  obtain ⟨operands, found, _⟩ := bind_eq_ok_iff.1 step
  exact ⟨_, bind_eq_ok_iff.2 ⟨operands, found, rfl⟩⟩

/-- Without fetches what can be planned on one level can be planned on any level of the entity. -/
theorem Plans.exists_unfetched
    (planned : Planner.Plans ⟨model, eager, standard⟩ vars level next selections plan) :
    ∀ (other : Level) (start : Nat), other.entity = level.entity →
      ∃ plan, Planner.Plans ⟨model, false, standard⟩ vars other start selections plan := by
  induction planned with
  | nil => exact fun _ _ _ => ⟨_, .nil⟩
  | leave left _ inductionHypothesis =>
    intro other start entity
    obtain ⟨plan, others⟩ := inductionHypothesis other start entity
    exact ⟨plan, .leave (by rw [Leaves, entity]; exact left) others⟩
  | @join level next child rest relationship type own below others on? joined typed ordered planned
      conditioned _ beneath beside =>
    intro other start entity
    rw [← entity] at joined
    have typedAlike : Planner.joinType ⟨model, false, standard⟩ child = .ok type := typed
    obtain ⟨nested, plannedBelow⟩ := beneath (Planner.targetLevel ⟨model, false, standard⟩ other
      start child relationship) (start + 1) rfl
    obtain ⟨renamed, conditionedBelow⟩ := exists_joinCondition? conditioned ⟨start, child.name⟩
    obtain ⟨remaining, plannedBeside⟩ := beside other nested.next entity
    have plain : Planner.Plans ⟨model, false, standard⟩ vars other start (child :: rest) _ :=
      .join joined typedAlike (ownTerms_targetLevel child relationship) plannedBelow
        conditionedBelow plannedBeside
    exact ⟨_, plain⟩

variable {context : PlanContext} {entity : String} {selection : Selection} {select : Select}

/-- Without fetches a plan is executed by retrieving what it selects. -/
theorem execute_of_run
    (planned : Planner.plan ⟨model, false, standard⟩ context entity selection = .ok select)
    {store : Store} {refs : List EntityRef} (run : select.run store = .ok (refs.map .entity)) :
    store.execute select = refs.mapM store.retrieve := by
  obtain ⟨own, below, filtered, related, _, _, joined, conditioned, _, rfl⟩ :=
    plan_eq_ok_iff.1 planned
  have loaded : store.instanceWith (below.joins ++ filtered.joins) ∘ Value.entity =
      store.retrieve := by
    funext ref
    rw [Function.comp_apply, Store.instanceWith, Store.instanceOf]
    cases store.retrieve ref with
    | error failure => rfl
    | ok inst =>
      show Join.loadAll store inst (below.joins ++ filtered.joins) = .ok inst
      rw [Join.loadAll_append, joined.loadAll_eq]
      exact Model.loadAll_rootConditions conditioned store inst
  rw [Store.execute, run, ← loaded, ← List.mapM_map]
  rfl

/-- Without fetches a field is planned to select the same. -/
theorem exists_unfetched_plan
    (planned : Planner.plan ⟨model, eager, standard⟩ context entity selection = .ok select)
    (unordered : Selection.AllUnorderedToOne model entity selection.selections) (store : Store) :
    ∃ unfetched, Planner.plan ⟨model, false, standard⟩ context entity selection = .ok unfetched ∧
      unfetched.run store = select.run store := by
  obtain ⟨own, below, filtered, related, declared, ordered, joined, conditioned, restricted,
    rfl⟩ := plan_eq_ok_iff.1 planned
  have unfetched := joined.unfetched (rootLevel entity) rfl rfl
  have ordering : below.ordering = [] := joined.ordering_eq_nil unordered
  refine ⟨_, plan_eq_ok_iff.2 ⟨own, _, filtered, related, declared, ordered, unfetched,
    conditioned, restricted, rfl⟩, ?_⟩
  simp only [assemble, ordering, Select.run, Join.expandAll_append, Join.expandAll_allUnfetched]

end Planner

end EntityGraph
