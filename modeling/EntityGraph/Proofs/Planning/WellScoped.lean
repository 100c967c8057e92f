import EntityGraph.Proofs.Plan.Scoping
import EntityGraph.Proofs.Planning.Progress
import EntityGraph.Proofs.Planning.RootFilters
import EntityGraph.Proofs.Planning.Satisfaction
import EntityGraph.Proofs.Sorting
import EntityGraph.Proofs.Store.Conformance

/-!
# Plans are well scoped

Planning hands on the first index that is not in use. Whatever part of a plan is made with `next`
and leaves `last` behind introduces exactly the indices from `next` up to `last`, in this order,
so the parts of a plan follow each other without a gap and no index is introduced twice.

References are made where the alias they are to is at hand: a filter is compared at the target of
its join or at the root, and an attribute orders at the alias of its own level. Only loaded levels
order, and a level is loaded only if all levels around it are.
-/

namespace EntityGraph

/-- Indices up to a middle one and from there on are consecutive. -/
theorem range'_append_range' {first middle last : Nat} (before : first ≤ middle)
    (behind : middle ≤ last) :
    List.range' first (middle - first) ++ List.range' middle (last - middle) =
      List.range' first (last - first) := by
  have split : last - first = (middle - first) + (last - middle) := by omega
  have start : middle = first + (middle - first) := by omega
  rw [split, ← List.range'_append_1, ← start]

namespace Model

variable {model : Model} {scope : ArgumentScope}

/-- The condition of a join introduces nothing and refers to the target of the join alone. -/
theorem scoped_joinCondition {target : Alias} {filters : List Argument} {on? : Option Expr}
    (conditioned : model.joinCondition? scope target filters = .ok on?) {on : Expr}
    (given : on ∈ on?) : on.introduced = [] ∧ ∀ name ∈ on.references, name = target := by
  obtain ⟨conditions, each, same⟩ := bind_eq_ok_iff.1 conditioned
  have ofFilter {condition : Expr} (member : condition ∈ conditions) :
      ∃ attr cardinality value, condition = comparison (.column target attr) cardinality value := by
    obtain ⟨filter, _, step⟩ := exists_of_mem_mapM each member
    obtain ⟨⟨info, value⟩, _, same⟩ := bind_eq_ok_iff.1 step
    cases same
    exact ⟨_, _, _, rfl⟩
  cases same
  split at given
  · cases given
  · obtain rfl := Option.mem_some_iff.1 given
    rw [Expr.collects_introduced.conjunction, Expr.collects_references.conjunction]
    constructor
    · rw [List.flatMap_eq_nil_iff]
      intro condition member
      obtain ⟨attr, cardinality, value, rfl⟩ := ofFilter member
      rw [Expr.collects_introduced.comparison, Expr.introduced]
    · intro name among
      obtain ⟨condition, member, inside⟩ := List.mem_flatMap.1 among
      obtain ⟨attr, cardinality, value, rfl⟩ := ofFilter member
      rw [Expr.collects_references.comparison, Expr.references] at inside
      exact List.mem_singleton.1 inside

/-- The filters of attributes with many values. -/
def collectionFilters (model : Model) (entity : String) (filters : List Argument) :
    List Argument :=
  filters.filter fun filter =>
    (model.attribute? entity filter.name).any (·.type.cardinality = .plural)

end Model

/-- What filters of the root come to, given that the elements of collections are bound to
`elements`: these have the indices from `next` on, and nothing but them and the root is
mentioned. -/
structure RootConditions.Scoped (filtered : RootConditions) (root : Alias) (next : Nat)
    (elements : List Alias) : Prop where
  next_le : next ≤ filtered.next
  indices : elements.map Alias.index = List.range' next (filtered.next - next)
  joins : filtered.joins = elements.map fun element => .plain element.name element .left
  conditions : ∀ condition ∈ filtered.conditions, condition.introduced = [] ∧
    condition.selects = [] ∧ ∀ name ∈ condition.mentioned, name = root ∨ name ∈ elements

/-- Each filter of a collection has an alias of its own. -/
theorem Model.exists_scoped_rootConditions {model : Model} {scope : ArgumentScope} {root : Alias}
    {next : Nat} {filters : List Argument} {filtered : RootConditions}
    (planned : model.rootConditions scope root next filters = .ok filtered) :
    ∃ elements : List Alias, filtered.Scoped root next elements ∧
      elements.map Alias.name =
        (model.collectionFilters scope.entity filters).map Argument.name := by
  induction filters generalizing next filtered with
  | nil =>
    cases planned
    exact ⟨[], ⟨Nat.le_refl _, by simp, rfl, by simp⟩, rfl⟩
  | cons filter rest inductionHypothesis =>
    obtain ⟨info, value, others, operands, ⟨cardinality, remaining, rfl⟩ |
      ⟨cardinality, remaining, rfl⟩⟩ := rootConditions_cons_eq_ok_iff.1 planned
    all_goals
      have known := (filterOperands_eq_ok_iff.1 operands).2
      obtain ⟨elements, confined, named⟩ := inductionHypothesis remaining
    · refine ⟨elements, ⟨confined.next_le, confined.indices, confined.joins, ?_⟩, ?_⟩
      · refine List.forall_mem_cons.2 ⟨?_, confined.conditions⟩
        rw [Expr.collects_introduced.comparison, Expr.collects_selects.comparison,
          Expr.collects_mentioned.comparison]
        simp [Expr.introduced, Expr.selects, Expr.mentioned]
      · simp [collectionFilters, known, cardinality, named]
    · have before := confined.next_le
      refine ⟨⟨next, filter.name⟩ :: elements, ⟨Nat.le_of_succ_le before, ?_, ?_, ?_⟩, ?_⟩
      · have single : [next] = List.range' next (next + 1 - next) := by simp
        rw [List.map_cons, confined.indices, ← List.singleton_append, single,
          range'_append_range' (Nat.le_succ next) before]
      · rw [List.map_cons, confined.joins]
      · refine List.forall_mem_cons.2 ⟨?_, fun condition member => ?_⟩
        · rw [Expr.collects_introduced.comparison, Expr.collects_selects.comparison,
            Expr.collects_mentioned.comparison]
          simp [Expr.introduced, Expr.selects, Expr.mentioned]
        · obtain ⟨nothing, alone, mentioned⟩ := confined.conditions condition member
          exact ⟨nothing, alone, fun name inside =>
            (mentioned name inside).imp_right (List.mem_cons_of_mem _)⟩
      · simp [collectionFilters, known, cardinality, named]

/-! ## Sources -/

/-- The selection of what a source refers to introduces two aliases and refers to no other. -/
theorem introduced_targetsOf (source : EntityRef) (attr : String) (next : Nat) :
    (targetsOf source attr next).introduced = [⟨next, source.entity⟩, ⟨next + 1, attr⟩] ∧
      ∀ name ∈ (targetsOf source attr next).references,
        name = ⟨next, source.entity⟩ ∨ name = ⟨next + 1, attr⟩ := by
  simp [targetsOf, Select.everything, Select.introduced, Join.allIntroduced, Join.plain,
    Join.introduced, Expr.introducedIfAny, Expr.introduced, OrderTerm.allIntroduced, Select.references,
    Join.allReferences, Join.references, Expr.referencesIfAny, Expr.references, OrderTerm.allReferences]

/-- The condition of a source mentions the root alone. What it selects has aliases of its own, with
the indices from `next` on. -/
theorem Planner.scoped_sourceConditions {planner : Planner} {context : PlanContext}
    {attr : String} {root : Alias} {next : Nat} {related : List Expr}
    (planned : planner.sourceConditions context attr root next = .ok related) :
    (∃ count, (related.flatMap Expr.introduced).map Alias.index = List.range' next count) ∧
      ∀ condition ∈ related, (∀ name ∈ condition.mentioned, name = root) ∧
        ∀ inner ∈ condition.selects, ∃ first second, inner.introduced = [first, second] ∧
          ∀ name ∈ inner.references, name = first ∨ name = second := by
  unfold Planner.sourceConditions at planned
  split at planned
  · cases planned
    exact ⟨⟨0, by simp⟩, by simp⟩
  · next source _ =>
    obtain ⟨condition, conditioned, same⟩ := bind_eq_ok_iff.1 planned
    obtain ⟨relationship, _, made⟩ := bind_eq_ok_iff.1 conditioned
    cases same
    cases made
    have closed := introduced_targetsOf source attr next
    cases relationship.ownership with
    | mappedBy owner =>
      exact ⟨⟨0, by simp [Expr.introduced]⟩, by simp [Expr.mentioned, Expr.selects]⟩
    | _ =>
      refine ⟨⟨2, by simp [Expr.introduced, closed.1, List.range'_succ]⟩, ?_⟩
      simp only [List.mem_singleton, forall_eq, Expr.mentioned, Expr.selects, List.nil_append,
        true_and]
      exact ⟨_, _, closed⟩

/-! ## Orderings -/

/-- The ordering of a plan consists of the elements from its levels. -/
theorem mem_orderingOf_iff {terms : List LeveledTerm} {term : OrderTerm} :
    term ∈ orderingOf terms ↔ ∃ leveled ∈ terms, leveled.term = term := by
  simp only [orderingOf, List.mem_map, (sortStable_perm _ terms).mem_iff]

/-- Attributes as keys introduce nothing. -/
theorem OrderTerm.allIntroduced_eq_nil {terms : List OrderTerm}
    (columns : ∀ term ∈ terms, ∃ name attr, term.key = .column name attr) :
    OrderTerm.allIntroduced terms = [] := by
  induction terms with
  | nil => rfl
  | cons term rest inductionHypothesis =>
    rw [List.forall_mem_cons] at columns
    obtain ⟨⟨name, attr, column⟩, others⟩ := columns
    obtain ⟨key, direction⟩ := term
    dsimp only at column
    subst column
    rw [OrderTerm.allIntroduced, inductionHypothesis others, OrderTerm.introduced,
      Expr.introduced, List.nil_append]

/-! ## Levels -/

namespace Planner.Plans

variable {planner : Planner} {vars : Dict Value} {level : Level} {next : Nat}
  {selections : List Selection} {plan : LevelPlan}

/-- The joins of a level introduce the indices from `next` on, one after the other. -/
theorem indices_introduced (planned : planner.Plans vars level next selections plan) :
    (Join.allIntroduced plan.joins).map Alias.index = List.range' next (plan.next - next) := by
  induction planned with
  | nil => simp [Join.allIntroduced]
  | leave _ _ inductionHypothesis => exact inductionHypothesis
  | @join level next child rest relationship type own below others on? _ _ _ planned conditioned
      remaining beneath beside =>
    have alone : Expr.introducedIfAny on? = [] := by
      cases on? with
      | none => rfl
      | some on => exact (Model.scoped_joinCondition conditioned rfl).1
    have single : [next] = List.range' next (next + 1 - next) := by simp
    rw [Join.allIntroduced, joinFor, Join.introduced, alone, List.map_append, List.map_append,
      List.map_cons, List.map_nil, beneath, beside, single,
      range'_append_range' (Nat.le_succ next) planned.next_le,
      range'_append_range' (Nat.le_of_succ_le planned.next_le) remaining.next_le]

/-- The conditions of the joins of a level refer to the targets of their joins. -/
theorem allScoped (planned : planner.Plans vars level next selections plan) :
    Join.AllScoped plan.joins := by
  induction planned with
  | nil => simp [Join.AllScoped]
  | leave _ _ inductionHypothesis => exact inductionHypothesis
  | join _ _ _ _ conditioned _ beneath beside =>
    rw [Join.AllScoped, joinFor, Join.Scoped]
    exact ⟨⟨fun on given => (Model.scoped_joinCondition conditioned given).2, beneath⟩, beside⟩

/-- Below a level, only what is reached through fetches alone orders, and nothing does if the level
is not loaded. -/
theorem ordering_fetched (planned : planner.Plans vars level next selections plan) :
    ∀ leveled ∈ plan.ordering, level.loaded = true ∧
      ∃ name attr, leveled.term.key = .column name attr ∧ name ∈ Join.allFetched plan.joins := by
  induction planned with
  | nil => simp
  | leave _ _ inductionHypothesis => exact inductionHypothesis
  | @join level next child rest relationship type own below others on? _ _ ordered _ _ _
      beneath beside =>
    intro leveled member
    have fetched (loaded : planner.settings.fetches level.loaded child relationship = true)
        {name : Alias}
        (inside : name = ⟨next, child.name⟩ ∨ name ∈ Join.allFetched below.joins) :
        name ∈ Join.allFetched (planner.joinFor level next child relationship type on?
          below.joins :: others.joins) := by
      rw [Join.allFetched, joinFor, if_pos loaded, Join.fetched]
      exact List.mem_append_left _ (List.mem_cons.2 inside)
    have around (loaded : planner.settings.fetches level.loaded child relationship = true) :
        level.loaded = true := (FetchSettings.fetches_eq_true_iff.1 loaded).1
    rcases List.mem_append.1 member with member | member
    · rcases List.mem_append.1 member with member | member
      · have loaded := loaded_of_mem_ownTerms ordered member
        obtain ⟨attr, _, column, _⟩ := exists_of_mem_ownTerms ordered member
        exact ⟨around loaded, _, attr, column, fetched loaded (.inl rfl)⟩
      · obtain ⟨loaded, name, attr, column, inside⟩ := beneath leveled member
        exact ⟨around loaded, name, attr, column, fetched loaded (.inr inside)⟩
    · obtain ⟨loaded, name, attr, column, inside⟩ := beside leveled member
      refine ⟨loaded, name, attr, column, ?_⟩
      rw [Join.allFetched]
      exact List.mem_append_right _ inside

end Planner.Plans

/-! ## Plans -/

/-- The ordering of a plan is by attributes of the root and of what is fetched. -/
theorem Planner.columns_of_orderingOf {planner : Planner} {vars : Dict Value} {level : Level}
    {selection : Selection} {own : List LeveledTerm} {below : LevelPlan} {next : Nat}
    (ordered : planner.ownTerms level selection = .ok own)
    (plans : planner.Plans vars level next selection.selections below) {term : OrderTerm}
    (member : term ∈ orderingOf (own ++ below.ordering)) :
    ∃ name attr, term.key = .column name attr ∧
      (name = level.name ∨ name ∈ Join.allFetched below.joins) := by
  obtain ⟨leveled, inside, rfl⟩ := mem_orderingOf_iff.1 member
  rcases List.mem_append.1 inside with inside | inside
  · obtain ⟨attr, _, column, _⟩ := exists_of_mem_ownTerms ordered inside
    exact ⟨_, attr, column, .inl rfl⟩
  · obtain ⟨_, name, attr, column, fetched⟩ := plans.ordering_fetched leveled inside
    exact ⟨name, attr, column, .inr fetched⟩

/-- A plan introduces the indices from 0 on: the root, the joins of its selections, those of its
filters, and what its source needs. -/
theorem indices_assemble {planner : Planner} {vars : Dict Value} {entity : String}
    {selection : Selection} {own : List LeveledTerm} {below : LevelPlan}
    {filtered : RootConditions} {related : List Expr} {elements : List Alias} {count : Nat}
    (ordered : planner.ownTerms (Planner.rootLevel entity) selection = .ok own)
    (plans : planner.Plans vars (Planner.rootLevel entity) 1 selection.selections below)
    (confined : filtered.Scoped (Planner.rootLevel entity).name below.next elements)
    (source : (related.flatMap Expr.introduced).map Alias.index =
      List.range' filtered.next count) :
    (Planner.assemble entity own below filtered related).introduced.map Alias.index =
      List.range' 0 (filtered.next + count) := by
  have conditionAliases : filtered.conditions.flatMap Expr.introduced = [] := by
    rw [List.flatMap_eq_nil_iff]
    intro condition member
    exact (confined.conditions condition member).1
  have orderAliases : OrderTerm.allIntroduced (orderingOf (own ++ below.ordering)) = [] := by
    apply OrderTerm.allIntroduced_eq_nil
    intro term member
    obtain ⟨name, attr, column, _⟩ := Planner.columns_of_orderingOf ordered plans member
    exact ⟨name, attr, column⟩
  have single : [(Planner.rootLevel entity).name.index] = List.range' 0 (1 - 0) := rfl
  have sourceLast : List.range' filtered.next count =
      List.range' filtered.next (filtered.next + count - filtered.next) := by
    rw [Nat.add_sub_cancel_left]
  have filteredLe : 1 ≤ filtered.next := Nat.le_trans plans.next_le confined.next_le
  simp only [Planner.assemble, Select.introduced, Join.allIntroduced_append, confined.joins,
    Join.allIntroduced_plain, Expr.collects_introduced.conjunction, List.flatMap_append,
    conditionAliases, orderAliases, List.append_nil, List.nil_append, List.map_append,
    List.map_cons, plans.indices_introduced, confined.indices, source, sourceLast]
  rw [← List.singleton_append, single, range'_append_range' plans.next_le confined.next_le,
    range'_append_range' (Nat.zero_le 1) filteredLe,
    range'_append_range' (Nat.zero_le _) (Nat.le_add_right _ _), Nat.sub_zero]

/-- Every plan is well scoped, with one alias for each filter of the root whose attribute has many
values. -/
theorem plan_wellScoped {planner : Planner} {context : PlanContext} {entity : String}
    {selection : Selection} {select : Select}
    (planned : planner.plan context entity selection = .ok select) :
    ∃ elements : List Alias, select.WellScoped elements ∧
      elements.map Alias.name =
        (planner.model.collectionFilters entity selection.filters).map Argument.name := by
  obtain ⟨own, below, filtered, related, _, ordered, plans, conditioned, restricted, rfl⟩ :=
    Planner.plan_eq_ok_iff.1 planned
  obtain ⟨elements, confined, named⟩ := Model.exists_scoped_rootConditions conditioned
  obtain ⟨⟨count, sourceIndices⟩, sources⟩ := Planner.scoped_sourceConditions restricted
  refine ⟨elements, ?_, named⟩
  exact {
    distinct := by
      rw [indices_assemble ordered plans confined sourceIndices]
      exact List.nodup_range'
    projected := rfl
    joins := ⟨below.joins, congrArg (below.joins ++ ·) confined.joins⟩
    conditions := by
      rw [Planner.assemble, Join.allScoped_append, confined.joins]
      exact ⟨plans.allScoped, Join.allScoped_plain elements .left⟩
    filter := by
      intro name mentioned
      rw [Planner.assemble, Expr.collects_mentioned.conjunction, List.mem_flatMap] at mentioned
      obtain ⟨condition, member, inside⟩ := mentioned
      rcases List.mem_append.1 member with member | member
      · exact (confined.conditions condition member).2.2 name inside
      · exact .inl ((sources condition member).1 name inside)
    inner := by
      intro inner selected
      rw [Planner.assemble, Expr.collects_selects.conjunction, List.mem_flatMap] at selected
      obtain ⟨condition, member, inside⟩ := selected
      rcases List.mem_append.1 member with member | member
      · rw [(confined.conditions condition member).2.1] at inside
        cases inside
      · exact (sources condition member).2 inner inside
    ordering := by
      intro term member
      obtain ⟨name, attr, column, place⟩ := Planner.columns_of_orderingOf ordered plans member
      refine ⟨name, attr, column, place.imp_right fun fetched => ?_⟩
      rw [Planner.assemble, Join.allFetched_append]
      exact List.mem_append_left _ fetched }

/-! ## The mentor of a member -/

/-- The mentor of a member if it has a nickname, with its own mentor and with the pupils of a
rank. -/
def mentorField : Selection :=
  ⟨"mentor", none, [⟨"nicknames", .string "x"⟩, ⟨"rank", .enum "master"⟩],
    [⟨"id", none, [⟨orderByName, .enum "DESC"⟩], []⟩,
      ⟨"mentor", none, [], [⟨"id", none, [⟨orderByName, .enum "ASC"⟩], []⟩]⟩,
      ⟨"pupils", none, [⟨"rank", .enum "novice"⟩], [⟨"id", none, [], []⟩]⟩]⟩

/-- The plan for the mentor of a member. -/
def mentorPlan : Select :=
  (Planner.plan ⟨Model.guild, .standard⟩ ⟨Dict.empty, Dict.empty, some ⟨"Member", "a"⟩⟩ "Member"
    mentorField).toOption.getD (.everything "Member" ⟨0, "Member"⟩)

/-- The plan for a mentor has a fetch, a join, an element of a collection and a selection of its
source, and is well scoped. -/
theorem mentor_plan_wellScoped :
    Planner.plan ⟨Model.guild, .standard⟩ ⟨Dict.empty, Dict.empty, some ⟨"Member", "a"⟩⟩
        "Member" mentorField = .ok mentorPlan ∧
      (mentorPlan.introduced.map Alias.index, mentorPlan.orderBy.length) =
        ([0, 1, 2, 3, 4, 5], 2) ∧
      ∃ elements, mentorPlan.WellScoped elements ∧ elements.map Alias.name = ["nicknames"] := by
  have planned : Planner.plan ⟨Model.guild, .standard⟩
      ⟨Dict.empty, Dict.empty, some ⟨"Member", "a"⟩⟩ "Member" mentorField = .ok mentorPlan :=
    eq_ok_of_isOk (by decide +kernel)
  exact ⟨planned, by decide +kernel, plan_wellScoped planned⟩

end EntityGraph
