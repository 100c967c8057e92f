import EntityGraph.Proofs.Planning.Planned
import EntityGraph.Proofs.Planning.RootFilters
import EntityGraph.Proofs.Store.Mirror

/-!
# Selections of the name of the entity

`__typename` names no attribute. It orders nothing, is not looked up and is never joined, so a
plan could be made as if it had not been selected. That is how it is at almost every level.

The exception is a collection below which nothing but `__typename` is selected. Whether a
collection is joined depends on whether anything is selected below it, and there `__typename`
counts: the collection is joined, and without `__typename` it would be left out. A plan is
therefore independent of `__typename` exactly if each collection that it joins selects an
attribute.
-/

namespace EntityGraph

/-! ## Leaving out the name of the entity -/

mutual

/-- A selection without the selections of `__typename` below it, at any depth. -/
def Selection.withoutTypenames : Selection → Selection
  | ⟨name, key?, arguments, selections⟩ =>
    ⟨name, key?, arguments, Selection.allWithoutTypenames selections⟩

/-- Several selections without those of `__typename`, at any depth. -/
def Selection.allWithoutTypenames : List Selection → List Selection
  | [] => []
  | child :: rest =>
    if child.isTypename then Selection.allWithoutTypenames rest
    else Selection.withoutTypenames child :: Selection.allWithoutTypenames rest

end

mutual

/-- Whether a collection that a selection joins selects an attribute, and so on below it. -/
def Selection.namesAttributes (model : Model) (entity : String) : Selection → Bool
  | ⟨name, key?, arguments, selections⟩ =>
    match model.joined? entity ⟨name, key?, arguments, selections⟩ with
    | none => true
    | some relationship =>
      (relationship.cardinality = .singular || selections.any (!·.isTypename)) &&
        Selection.allNameAttributes model relationship.target selections

/-- Whether each collection that several selections join selects an attribute. -/
def Selection.allNameAttributes (model : Model) (entity : String) : List Selection → Bool
  | [] => true
  | child :: rest =>
    Selection.namesAttributes model entity child &&
      Selection.allNameAttributes model entity rest

end

namespace Selection

variable (child : Selection)

@[simp] theorem name_withoutTypenames : child.withoutTypenames.name = child.name := by
  obtain ⟨name, key?, arguments, selections⟩ := child
  rw [withoutTypenames]

@[simp] theorem arguments_withoutTypenames :
    child.withoutTypenames.arguments = child.arguments := by
  obtain ⟨name, key?, arguments, selections⟩ := child
  rw [withoutTypenames]

@[simp] theorem selections_withoutTypenames :
    child.withoutTypenames.selections = allWithoutTypenames child.selections := by
  obtain ⟨name, key?, arguments, selections⟩ := child
  rw [withoutTypenames]

@[simp] theorem isTypename_withoutTypenames :
    child.withoutTypenames.isTypename = child.isTypename := by
  simp only [isTypename, name_withoutTypenames]

@[simp] theorem filters_withoutTypenames : child.withoutTypenames.filters = child.filters := by
  simp only [filters, arguments_withoutTypenames]

@[simp] theorem hasFilters_withoutTypenames :
    child.withoutTypenames.hasFilters = child.hasFilters := by
  simp only [hasFilters, filters_withoutTypenames]

@[simp] theorem direction?_withoutTypenames :
    child.withoutTypenames.direction? = child.direction? := by
  simp only [direction?, directive?, argument?, arguments_withoutTypenames]

@[simp] theorem joinType?_withoutTypenames :
    child.withoutTypenames.joinType? = child.joinType? := by
  simp only [joinType?, directive?, argument?, arguments_withoutTypenames]

/-- What remains are the selections that name attributes. -/
theorem allWithoutTypenames_eq_map (selections : List Selection) :
    allWithoutTypenames selections =
      (selections.filter (!·.isTypename)).map withoutTypenames := by
  induction selections with
  | nil => rfl
  | cons child rest inductionHypothesis =>
    cases typename : child.isTypename <;>
      simp [allWithoutTypenames, typename, inductionHypothesis]

/-- Something remains below a selection if it selects an attribute. -/
theorem hasSelections_withoutTypenames :
    child.withoutTypenames.hasSelections = child.selections.any (!·.isTypename) := by
  rw [hasSelections, selections_withoutTypenames, allWithoutTypenames_eq_map, Bool.eq_iff_iff]
  simp [List.filter_eq_nil_iff]

end Selection

/-- An association is joined without the selections of `__typename` if it was joined with them and
has at most one target or selects an attribute. -/
theorem Model.joined?_withoutTypenames (model : Model) (entity : String) (child : Selection) :
    model.joined? entity child.withoutTypenames =
      (model.joined? entity child).filter fun relationship =>
        relationship.cardinality = .singular || child.selections.any (!·.isTypename) := by
  have weaker : child.selections.any (!·.isTypename) = true → child.hasSelections = true := by
    intro some
    cases none : child.selections with
    | nil => simp [none] at some
    | cons => simp [Selection.hasSelections, none]
  unfold Model.joined?
  rw [Selection.isTypename_withoutTypenames, Selection.name_withoutTypenames,
    Selection.hasSelections_withoutTypenames]
  split
  · rfl
  · rw [Option.filter_filter]
    congr 1
    funext relationship
    cases present : child.selections.any (!·.isTypename) with
    | true => simp [weaker present]
    | false => simpa using Or.inl

/-- An association that selects an attribute if it is a collection is joined alike. -/
theorem Model.joined?_eq_of_namesAttributes {model : Model} {entity : String} {child : Selection}
    (named : child.namesAttributes model entity = true) :
    model.joined? entity child.withoutTypenames = model.joined? entity child := by
  rw [joined?_withoutTypenames]
  obtain ⟨name, key?, arguments, selections⟩ := child
  rw [Selection.namesAttributes] at named
  cases joined : model.joined? entity ⟨name, key?, arguments, selections⟩ with
  | none => rfl
  | some relationship =>
    simp only [joined, Bool.and_eq_true] at named
    exact Option.filter_some_eq_some.2 named.1

namespace Planner

variable {planner : Planner}

/-- The ordering of a level is that of its selections without `__typename`. -/
theorem ownTerms_withoutTypenames (level : Level) (selection : Selection) :
    planner.ownTerms level selection.withoutTypenames = planner.ownTerms level selection := by
  have again : selection.withoutTypenames.attributeSelections =
      selection.attributeSelections.map Selection.withoutTypenames := by
    rw [Selection.attributeSelections, Selection.selections_withoutTypenames,
      Selection.allWithoutTypenames_eq_map, List.filter_map]
    refine congrArg (List.map _) (List.filter_eq_self.2 fun child member => ?_)
    simpa using (List.mem_filter.1 member).2
  have term (child : Selection) : planner.model.orderTerm? level child.withoutTypenames =
      planner.model.orderTerm? level child := by
    simp only [Model.orderTerm?, Selection.direction?_withoutTypenames,
      Selection.name_withoutTypenames]
  rw [ownTerms, ownTerms, again, Model.orderTerms, Model.orderTerms, List.mapM_map]
  simp only [Function.comp_def, term]

theorem joinType_withoutTypenames (child : Selection) :
    planner.joinType child.withoutTypenames = planner.joinType child := by
  rw [joinType, joinType, Selection.joinType?_withoutTypenames]

theorem fetches_withoutTypenames (settings : FetchSettings) (loaded : Bool) (child : Selection)
    (relationship : Relationship) :
    settings.fetches loaded child.withoutTypenames relationship =
      settings.fetches loaded child relationship := by
  simp only [FetchSettings.fetches, Selection.hasFilters_withoutTypenames]

theorem targetLevel_withoutTypenames (level : Level) (next : Nat) (child : Selection)
    (relationship : Relationship) :
    planner.targetLevel level next child.withoutTypenames relationship =
      planner.targetLevel level next child relationship := by
  simp only [targetLevel, fetches_withoutTypenames, Selection.name_withoutTypenames]

theorem joinFor_withoutTypenames (level : Level) (next : Nat) (child : Selection)
    (relationship : Relationship) :
    planner.joinFor level next child.withoutTypenames relationship =
      planner.joinFor level next child relationship := by
  funext type on? joins
  simp only [joinFor, fetches_withoutTypenames, Selection.name_withoutTypenames]

/-- If the joined collections select attributes, the selections are planned as they are without
`__typename`. -/
theorem planChildren_allWithoutTypenames {vars : Dict Value} {selections : List Selection} :
    ∀ {level : Level} {next : Nat},
      Selection.allNameAttributes planner.model level.entity selections = true →
        planner.planChildren vars level next (Selection.allWithoutTypenames selections) =
          planner.planChildren vars level next selections := by
  induction selections using Selection.listInduction with
  | nil => intros; rfl
  | cons name key? arguments selections rest below beside =>
    intro level next named
    rw [Selection.allNameAttributes, Bool.and_eq_true] at named
    obtain ⟨own, others⟩ := named
    rw [Selection.allWithoutTypenames]
    cases typename : Selection.isTypename ⟨name, key?, arguments, selections⟩ with
    | true => rw [if_pos rfl, beside others, planChildren, if_pos typename]
    | false =>
      have same := Model.joined?_eq_of_namesAttributes own
      rw [if_neg Bool.false_ne_true,
        planChildren_cons_eq planner vars level next _
          ((Selection.isTypename_withoutTypenames _).trans typename),
        planChildren_cons_eq planner vars level next rest typename, same]
      simp only [joinType_withoutTypenames, targetLevel_withoutTypenames,
        joinFor_withoutTypenames, ownTerms_withoutTypenames, Selection.name_withoutTypenames,
        Selection.filters_withoutTypenames, Selection.selections_withoutTypenames, beside others]
      cases joined : planner.model.joined? level.entity ⟨name, key?, arguments, selections⟩ with
      | none => rfl
      | some relationship =>
        rw [Selection.namesAttributes, joined] at own
        simp only [Bool.and_eq_true] at own
        have nested : planner.planChildren vars
            (planner.targetLevel level next ⟨name, key?, arguments, selections⟩ relationship)
            (next + 1) (Selection.allWithoutTypenames selections) = _ :=
          below own.2
        simp only [nested]

/-! ## Counting the joins -/

/-- A level has one join for each selection that joins an association. -/
theorem Plans.length_joins {vars : Dict Value} {level : Level} {next : Nat}
    {selections : List Selection} {plan : LevelPlan}
    (planned : planner.Plans vars level next selections plan) :
    plan.joins.length =
      selections.countP fun child => (planner.model.joined? level.entity child).isSome := by
  induction planned with
  | nil => rfl
  | leave left _ inductionHypothesis => simp [left.1, inductionHypothesis]
  | join joined _ _ _ _ _ _ inductionHypothesis => simp [joined, inductionHypothesis]

/-- Without `__typename`, no more selections join an association. -/
theorem countP_joined?_allWithoutTypenames_le (model : Model) (entity : String)
    (selections : List Selection) :
    (Selection.allWithoutTypenames selections).countP
        (fun child => (model.joined? entity child).isSome) ≤
      selections.countP fun child => (model.joined? entity child).isSome := by
  have weaker (child : Selection)
      (joined : (model.joined? entity child.withoutTypenames).isSome = true) :
      (model.joined? entity child).isSome = true := by
    rw [Model.joined?_withoutTypenames] at joined
    exact Option.isSome_of_isSome_filter _ _ joined
  rw [Selection.allWithoutTypenames_eq_map, List.countP_map]
  exact Nat.le_trans (List.countP_mono_left fun child _ => weaker child)
    (List.filter_sublist.countP_le)

/-- If the joins are the same without `__typename`, then each collection that is joined selects an
attribute. -/
theorem Plans.allNameAttributes {vars : Dict Value} {level : Level} {next : Nat}
    {selections : List Selection} {plan : LevelPlan}
    (planned : planner.Plans vars level next selections plan) :
    ∀ {other : Level} {start : Nat} {erased : LevelPlan},
      planner.Plans vars other start (Selection.allWithoutTypenames selections) erased →
      other.entity = level.entity → erased.joins = plan.joins →
        Selection.allNameAttributes planner.model level.entity selections = true := by
  induction planned with
  | nil => intros; rfl
  | @leave level next child rest plan left others inductionHypothesis =>
    intro other start erased plannedErased sameEntity sameJoins
    have own : child.namesAttributes planner.model level.entity = true := by
      obtain ⟨name, key?, arguments, selections⟩ := child
      rw [Selection.namesAttributes, left.1]
    rw [Selection.allNameAttributes, own, Bool.true_and]
    rw [Selection.allWithoutTypenames] at plannedErased
    split at plannedErased
    · exact inductionHypothesis plannedErased sameEntity sameJoins
    · cases plannedErased with
      | leave _ remaining => exact inductionHypothesis remaining sameEntity sameJoins
      | join joined =>
        rw [sameEntity, Model.joined?_withoutTypenames, left.1] at joined
        cases joined
  | @join level next child rest relationship type own below others on? joined _ _ _ _ remaining
      beneath beside =>
    intro other start erased plannedErased sameEntity sameJoins
    rw [Selection.allWithoutTypenames, if_neg (by
      simp [(Model.joined?_eq_some_iff.1 joined).1])] at plannedErased
    cases plannedErased with
    | leave _ remainingErased =>
      -- The remaining selections would have to make up for the join, but they have no more joins
      -- than before.
      have few := countP_joined?_allWithoutTypenames_le planner.model level.entity rest
      rw [← sameEntity, ← remainingErased.length_joins, sameJoins, sameEntity,
        ← remaining.length_joins, List.length_cons] at few
      exact absurd few (Nat.not_succ_le_self _)
    | @join _ _ _ _ relationshipErased _ _ _ _ _ joinedErased _ _ belowErased _ remainingErased =>
      rw [sameEntity, Model.joined?_withoutTypenames, joined] at joinedErased
      obtain ⟨same, kept⟩ := Option.filter_eq_some_iff.1 joinedErased
      cases same
      obtain ⟨sameJoin, sameOthers⟩ := List.cons.inj sameJoins
      rw [Selection.selections_withoutTypenames] at belowErased
      have nested := beneath belowErased rfl (congrArg Join.joins sameJoin)
      have others := beside remainingErased sameEntity sameOthers
      rw [Selection.allNameAttributes, others, Bool.and_true]
      obtain ⟨name, key?, arguments, selections⟩ := child
      rw [Selection.namesAttributes, joined]
      exact Bool.and_eq_true_iff.2 ⟨kept, nested⟩

end Planner

/-- The filters of the root need one join for each attribute with many values. -/
theorem Model.length_joins_of_rootConditions {model : Model} {scope : ArgumentScope} {root : Alias}
    {filters : List Argument} {next : Nat} {filtered : RootConditions}
    (planned : model.rootConditions scope root next filters = .ok filtered) :
    filtered.joins.length = filters.countP fun filter =>
      (model.attribute? scope.entity filter.name).any (·.type.cardinality = .plural) := by
  induction filters generalizing next filtered with
  | nil =>
    cases planned
    rfl
  | cons filter rest inductionHypothesis =>
    obtain ⟨info, value, others, operands, ⟨cardinality, remaining, rfl⟩ |
      ⟨cardinality, remaining, rfl⟩⟩ := rootConditions_cons_eq_ok_iff.1 planned
    all_goals
      have known := (filterOperands_eq_ok_iff.1 operands).2
      simp [known, cardinality, inductionHypothesis remaining]

/-- A field is planned as if `__typename` were not selected, at any depth, provided that each
collection that the plan joins selects an attribute. A plan that is made either way is the same
only then. -/
theorem plan_withoutTypenames {planner : Planner} {context : PlanContext} {entity : String}
    {selection : Selection} :
    (Selection.allNameAttributes planner.model entity selection.selections = true →
      planner.plan context entity selection.withoutTypenames =
        planner.plan context entity selection) ∧
    ∀ select, planner.plan context entity selection = .ok select →
      planner.plan context entity selection.withoutTypenames = .ok select →
        Selection.allNameAttributes planner.model entity selection.selections = true := by
  constructor
  · intro named
    have below : planner.planChildren context.vars ⟨entity, ⟨0, entity⟩, true, 0⟩ 1
        (Selection.allWithoutTypenames selection.selections) = _ :=
      Planner.planChildren_allWithoutTypenames named
    simp only [Planner.plan, Planner.planLevel_eq, Selection.selections_withoutTypenames,
      Planner.ownTerms_withoutTypenames, Selection.filters_withoutTypenames,
      Selection.name_withoutTypenames, below]
  · intro select planned plannedErased
    obtain ⟨own, below, filtered, related, _, _, plans, conditioned, _, rfl⟩ :=
      Planner.plan_eq_ok_iff.1 planned
    obtain ⟨_, erased, filteredErased, _, _, _, plansErased, conditionedErased, _, same⟩ :=
      Planner.plan_eq_ok_iff.1 plannedErased
    rw [Selection.filters_withoutTypenames] at conditionedErased
    rw [Selection.selections_withoutTypenames] at plansErased
    have sameJoins : below.joins ++ filtered.joins = erased.joins ++ filteredErased.joins :=
      congrArg Select.joins same
    have sameLength : filtered.joins.length = filteredErased.joins.length := by
      rw [Model.length_joins_of_rootConditions conditioned,
        Model.length_joins_of_rootConditions conditionedErased]
    exact plans.allNameAttributes plansErased rfl (List.append_inj' sameJoins sameLength).1.symm

/-! ## Books of an author -/

/-- Selects the name of the entity. -/
def selectTypename : Selection := ⟨typenameName, none, [], []⟩

/-- The authors with their books, and the names of the entities at both levels. -/
def namedBooks : Selection :=
  ⟨"Author", none, [⟨"id", .string "a"⟩], [selectTypename,
    ⟨"books", none, [], [selectTypename, ⟨"title", none, [], []⟩]⟩]⟩

/-- The authors with nothing but the name of the entity for each book. -/
def namelessBooks : Selection :=
  ⟨"Author", none, [], [⟨"books", none, [], [selectTypename]⟩]⟩

/-- The plan for the authors with their books. -/
def namedBooksPlan : Select :=
  (Planner.plan ⟨Model.library, .standard⟩ .empty "Author" namedBooks).toOption.getD
    (.everything "Author" ⟨0, "Author"⟩)

/-- Books that are selected with their title are planned as if the names of the entities were not
selected. -/
theorem named_books_plan_withoutTypenames :
    Selection.allNameAttributes Model.library "Author" namedBooks.selections = true ∧
      Planner.plan ⟨Model.library, .standard⟩ .empty "Author" namedBooks.withoutTypenames =
        Planner.plan ⟨Model.library, .standard⟩ .empty "Author" namedBooks ∧
      Planner.plan ⟨Model.library, .standard⟩ .empty "Author" namedBooks = .ok namedBooksPlan := by
  have planned : Planner.plan ⟨Model.library, .standard⟩ .empty "Author" namedBooks =
      .ok namedBooksPlan := by
    rfl
  have plannedErased :
      Planner.plan ⟨Model.library, .standard⟩ .empty "Author" namedBooks.withoutTypenames =
        .ok namedBooksPlan := by
    rfl
  have named := plan_withoutTypenames.2 _ planned plannedErased
  exact ⟨named, plan_withoutTypenames.1 named, planned⟩

/-- Books of which only the name of the entity is selected are joined, but would be left out if it
were not selected. -/
theorem nameless_books_are_joined :
    Planner.plan ⟨Model.library, .standard⟩ .empty "Author" namelessBooks ≠
      Planner.plan ⟨Model.library, .standard⟩ .empty "Author" namelessBooks.withoutTypenames := by
  intro same
  have joins : (1 : Nat) = 0 :=
    Except.ok.inj (congrArg (fun outcome => outcome.map fun select => select.joins.length) same)
  cases joins

end EntityGraph
