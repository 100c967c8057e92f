import EntityGraph.Planning.Planner
import EntityGraph.Proofs.Outcome

/-!
# What the planner makes of selections

`Planner.Plans` relates the selections of a level to their joins and ordering, selection by
selection: a selection is joined, with a plan for what is selected below it, or it is left
out. The planner succeeds exactly if its result is so related. Proofs about plans are
inductions over this relation and do not look into the planner.
-/

namespace EntityGraph

/-- Induction over selections and the selections below them. -/
theorem Selection.listInduction {motive : List Selection → Prop} (nil : motive [])
    (cons : ∀ name key? arguments selections rest, motive selections → motive rest →
      motive (⟨name, key?, arguments, selections⟩ :: rest)) :
    ∀ selections, motive selections
  | [] => nil
  | ⟨name, key?, arguments, selections⟩ :: rest =>
    cons name key? arguments selections rest (Selection.listInduction nil cons selections)
      (Selection.listInduction nil cons rest)

/-- A field that is not filtered has no filters. -/
theorem Selection.filters_eq_nil {selection : Selection}
    (unfiltered : selection.hasFilters = false) : selection.filters = [] := by
  simpa [Selection.hasFilters] using unfiltered

/-- The association that a selection joins, if it joins one. -/
def Model.joined? (model : Model) (entity : String) (child : Selection) :
    Option Relationship :=
  if child.isTypename then none
  else
    ((model.attribute? entity child.name).bind fun info =>
      info.type.relationship? entity child.name).filter fun relationship =>
        relationship.cardinality = .singular || child.hasSelections

/-- An association that is joined is an attribute of the level, and it has at most one target or
something is selected below it. -/
theorem Model.joined?_eq_some_iff {model : Model} {entity : String}
    {child : Selection} {relationship : Relationship} :
    model.joined? entity child = some relationship ↔
      child.isTypename = false ∧
        (∃ info, model.attribute? entity child.name = some info ∧
          info.type.relationship? entity child.name = some relationship) ∧
        (relationship.cardinality = .singular ∨ child.hasSelections = true) := by
  unfold Model.joined?
  cases child.isTypename <;> simp [Option.filter_eq_some_iff, Option.bind_eq_some_iff]

/-- An attribute is looked up if the entity has it. -/
theorem Model.lookupAttribute_eq_ok_iff {model : Model} {entity attr : String}
    {info : Attribute} :
    model.lookupAttribute entity attr = .ok info ↔ model.attribute? entity attr = some info := by
  unfold Model.lookupAttribute
  cases model.attribute? entity attr <;> simp

/-- An association is looked up if the attribute is one. -/
theorem Model.lookupAssociation_eq_ok {model : Model} {entity attr : String} {info : Attribute}
    {relationship : Relationship} (known : model.attribute? entity attr = some info)
    (related : info.type.relationship? entity attr = some relationship) :
    model.lookupAssociation entity attr = .ok relationship := by
  rw [Model.lookupAssociation, Model.lookupAttribute_eq_ok_iff.2 known]
  simp only [bind, Except.bind, related, pure, Except.pure]

/-- A directive is accepted if it names one of its choices. -/
theorem checkedDirective_eq_ok_iff {α : Type} {named : Except InvalidDirective α} {choice : α} :
    checkedDirective named = .ok choice ↔ named = .ok choice := by
  cases named <;> simp [checkedDirective]

/-- Whether a selected association is joined by a left join, given the join type of those that do
not ask for one. -/
def Selection.IsLeft (standard : JoinType) (child : Selection) : Prop :=
  ∃ type?, child.joinType? = .ok type? ∧ type?.getD standard = .left

/-- Whether the targets of a selected association are loaded with their source. -/
def FetchSettings.fetches (settings : FetchSettings) (loaded : Bool) (child : Selection)
    (relationship : Relationship) : Bool :=
  loaded && settings.eagerFetchToOne && !child.hasFilters && relationship.cardinality = .singular

/-- What is fetched is an association to one without filters, from a loaded source. -/
theorem FetchSettings.fetches_eq_true_iff {settings : FetchSettings} {loaded : Bool}
    {child : Selection} {relationship : Relationship} :
    settings.fetches loaded child relationship = true ↔
      loaded = true ∧ settings.eagerFetchToOne = true ∧ child.hasFilters = false ∧
        relationship.cardinality = .singular := by
  simp [fetches, and_assoc]

namespace Planner

/-- The join type of an association. -/
def joinType (planner : Planner) (child : Selection) : Except PlanningError JoinType :=
  return (← checkedDirective child.joinType?).getD planner.settings.defaultJoinType

/-- An association has the join type that it asks for, or else the standard one. -/
theorem joinType_eq_ok_iff {planner : Planner} {child : Selection} {type : JoinType} :
    planner.joinType child = .ok type ↔
      ∃ type?, child.joinType? = .ok type? ∧
        type = type?.getD planner.settings.defaultJoinType := by
  simp only [joinType, bind_eq_ok_iff, checkedDirective_eq_ok_iff, pure, Except.pure,
    Except.ok.injEq, @eq_comm _ _ type]

/-- The join type that an association is planned with says whether it is joined by a left join. -/
theorem isLeft_iff {planner : Planner} {child : Selection} {type : JoinType}
    (typed : planner.joinType child = .ok type) :
    child.IsLeft planner.settings.defaultJoinType ↔ type = .left := by
  obtain ⟨type?, asked, rfl⟩ := joinType_eq_ok_iff.1 typed
  simp [Selection.IsLeft, asked]

/-- The level of the targets of a selected association. -/
def targetLevel (planner : Planner) (level : Level) (next : Nat) (child : Selection)
    (relationship : Relationship) : Level :=
  ⟨relationship.target, ⟨next, child.name⟩,
    planner.settings.fetches level.loaded child relationship, level.depth + 1⟩

/-- The join for a selected association, given what is joined below. -/
def joinFor (planner : Planner) (level : Level) (next : Nat) (child : Selection)
    (relationship : Relationship) (type : JoinType) (on? : Option Expr) (joins : List Join) :
    Join where
  attr := child.name
  target := ⟨next, child.name⟩
  kind := if planner.settings.fetches level.loaded child relationship then .fetch else .join
  type := type
  on? := on?
  joins := joins

/-- The level of the instances that a plan selects. -/
def rootLevel (entity : String) : Level := ⟨entity, ⟨0, entity⟩, true, 0⟩

/-- The plan that is put together from the joins and the ordering of its selections, the
conditions of its filters and the condition of its source. -/
def assemble (entity : String) (own : List LeveledTerm) (below : LevelPlan)
    (filtered : RootConditions) (related : List Expr) : Select :=
  ⟨true, (rootLevel entity).name, entity, (rootLevel entity).name, below.joins ++ filtered.joins,
    .conjunction (filtered.conditions ++ related), orderingOf (own ++ below.ordering)⟩

/-- The ordering from the selections below a field whose instances make a level. -/
def ownTerms (planner : Planner) (level : Level) (selection : Selection) :
    Except PlanningError (List LeveledTerm) :=
  if level.loaded then planner.model.orderTerms level selection.attributeSelections
  else .ok []

/-- Only loaded levels order. -/
theorem loaded_of_mem_ownTerms {planner : Planner} {level : Level}
    {selection : Selection} {own : List LeveledTerm}
    (ordered : planner.ownTerms level selection = .ok own) {leveled : LeveledTerm}
    (member : leveled ∈ own) : level.loaded = true := by
  unfold ownTerms at ordered
  split at ordered
  · assumption
  · cases ordered
    cases member

/-- A selection that a plan leaves out: one that stands for the name of the entity, or one of
an attribute that is not joined. -/
def Leaves (planner : Planner) (level : Level) (child : Selection) : Prop :=
  planner.model.joined? level.entity child = none ∧
    (child.isTypename = false →
      (∃ info, planner.model.attribute? level.entity child.name = some info) ∧
        ∃ type, planner.joinType child = .ok type)

/-- The joins and the ordering that selections of a level are planned as. -/
inductive Plans (planner : Planner) (vars : Dict Value) :
    Level → Nat → List Selection → LevelPlan → Prop where
  | nil {level : Level} {next : Nat} : Plans planner vars level next [] ⟨[], [], next⟩
  | leave {level : Level} {next : Nat} {child : Selection} {rest : List Selection}
      {plan : LevelPlan} (left : planner.Leaves level child)
      (others : Plans planner vars level next rest plan) :
      Plans planner vars level next (child :: rest) plan
  | join {level : Level} {next : Nat} {child : Selection} {rest : List Selection}
      {relationship : Relationship} {type : JoinType} {own : List LeveledTerm}
      {below others : LevelPlan} {on? : Option Expr}
      (joined : planner.model.joined? level.entity child = some relationship)
      (typed : planner.joinType child = .ok type)
      (ordered : planner.ownTerms (planner.targetLevel level next child relationship) child =
        .ok own)
      (planned : Plans planner vars (planner.targetLevel level next child relationship)
        (next + 1) child.selections below)
      (conditioned : planner.model.joinCondition? ⟨relationship.target, vars, Dict.empty⟩
        ⟨next, child.name⟩ child.filters = .ok on?)
      (remaining : Plans planner vars level below.next rest others) :
      Plans planner vars level next (child :: rest)
        ⟨planner.joinFor level next child relationship type on? below.joins :: others.joins,
          own ++ below.ordering ++ others.ordering, others.next⟩

/-- A level is planned as its selections are, with its own ordering in front. -/
theorem planLevel_eq (planner : Planner) (vars : Dict Value) (level : Level) (next : Nat)
    (selection : Selection) :
    planner.planLevel vars level next selection = (do
      let own ← planner.ownTerms level selection
      let below ← planner.planChildren vars level next selection.selections
      return ⟨below.joins, own ++ below.ordering, below.next⟩) := by
  obtain ⟨name, key?, arguments, selections⟩ := selection
  rw [planLevel, ownTerms]
  split <;> rfl

/-- The kind of the join for a selected association. -/
theorem joinKind?_eq (settings : FetchSettings) (loaded : Bool) (child : Selection)
    (relationship : Relationship) :
    settings.joinKind? loaded child relationship.cardinality =
      if relationship.cardinality = .singular || child.hasSelections then
        some (if settings.fetches loaded child relationship then .fetch else .join)
      else none := by
  unfold FetchSettings.joinKind? FetchSettings.fetches
  cases relationship.cardinality with
  | singular =>
    simp
    split <;> rfl
  | plural => simp

/-- The selections of a level are planned one after the other. -/
theorem planChildren_cons_eq (planner : Planner) (vars : Dict Value) (level : Level)
    (next : Nat) {child : Selection} (rest : List Selection)
    (named : child.isTypename = false) :
    planner.planChildren vars level next (child :: rest) = (do
      let _ ← planner.model.lookupAttribute level.entity child.name
      let type ← planner.joinType child
      match planner.model.joined? level.entity child with
      | none => planner.planChildren vars level next rest
      | some relationship => do
        let target := planner.targetLevel level next child relationship
        let own ← planner.ownTerms target child
        let below ← planner.planChildren vars target (next + 1) child.selections
        let on? ← planner.model.joinCondition? ⟨relationship.target, vars, Dict.empty⟩
          ⟨next, child.name⟩ child.filters
        let others ← planner.planChildren vars level below.next rest
        return ⟨planner.joinFor level next child relationship type on? below.joins ::
          others.joins, own ++ below.ordering ++ others.ordering, others.next⟩) := by
  rw [planChildren, if_neg (by simp [named]), Model.lookupAttribute]
  cases known : planner.model.attribute? level.entity child.name with
  | none => rfl
  | some info =>
    rw [joinType]
    cases checkedDirective child.joinType? with
    | error error => rfl
    | ok directive =>
      simp only [bind, Except.bind, pure, Except.pure, Model.joined?, named, known,
        Option.bind_some]
      cases info.type.relationship? level.entity child.name with
      | none => rfl
      | some relationship =>
        simp only [joinKind?_eq, Option.filter, Bool.false_eq_true, if_false]
        by_cases present :
            (decide (relationship.cardinality = .singular) || child.hasSelections) = true
        · have loaded (fetched : Bool) :
              decide ((if fetched = true then JoinKind.fetch else .join) = .fetch) = fetched := by
            cases fetched <;> rfl
          simp only [if_pos present, planLevel_eq, loaded, targetLevel, bind, Except.bind]
          cases planner.ownTerms _ child with
          | error error => rfl
          | ok own =>
            cases planner.planChildren vars _ (next + 1) child.selections <;> rfl
        · simp only [if_neg present]

/-- Planning a selection leaves it out or joins it, and goes on behind it. -/
theorem plans_of_planChildren {planner : Planner} {vars : Dict Value} {selections : List Selection} :
    ∀ {level : Level} {next : Nat} {plan : LevelPlan},
      planner.planChildren vars level next selections = .ok plan →
        planner.Plans vars level next selections plan := by
  induction selections using Selection.listInduction with
  | nil =>
    intro level next plan planned
    cases planned
    exact .nil
  | cons name key? arguments selections rest below beside =>
    intro level next plan planned
    cases typename : Selection.isTypename ⟨name, key?, arguments, selections⟩ with
    | true =>
      rw [planChildren, if_pos typename] at planned
      refine .leave ⟨?_, ?_⟩ (beside planned)
      · rw [Model.joined?, if_pos typename]
      · simp [typename]
    | false =>
      simp only [planChildren_cons_eq planner vars level next rest typename, bind_eq_ok_iff]
        at planned
      obtain ⟨info, known, type, typed, planned⟩ := planned
      rw [Model.lookupAttribute_eq_ok_iff] at known
      split at planned
      · next left =>
          exact .leave ⟨left, fun _ => ⟨⟨info, known⟩, type, typed⟩⟩ (beside planned)
      · next relationship joined =>
        simp only [bind_eq_ok_iff] at planned
        obtain ⟨own, ordered, nested, planned, on?, conditioned, others, remaining, same⟩ := planned
        cases same
        exact .join joined typed ordered (below planned) conditioned (beside remaining)

/-- The planner succeeds exactly if its result is related to the selections. -/
theorem planChildren_eq_ok_iff {planner : Planner} {vars : Dict Value} {level : Level}
    {next : Nat} {selections : List Selection} {plan : LevelPlan} :
    planner.planChildren vars level next selections = .ok plan ↔
      planner.Plans vars level next selections plan := by
  refine ⟨plans_of_planChildren, fun plans => ?_⟩
  induction plans with
  | nil => rfl
  | @leave level next child rest plan left others inductionHypothesis =>
    cases typename : child.isTypename with
    | true => rw [planChildren, if_pos typename, inductionHypothesis]
    | false =>
      obtain ⟨⟨info, known⟩, type, typed⟩ := left.2 typename
      rw [planChildren_cons_eq planner vars level next rest typename,
        Model.lookupAttribute_eq_ok_iff.2 known, typed, left.1]
      exact inductionHypothesis
  | @join level next child rest relationship type own below others on? joined typed ordered
      planned conditioned remaining plannedBelow plannedOthers =>
    obtain ⟨typename, ⟨info, known, _⟩, _⟩ := Model.joined?_eq_some_iff.1 joined
    rw [planChildren_cons_eq planner vars level next rest typename,
      Model.lookupAttribute_eq_ok_iff.2 known, typed, joined]
    simp only [bind, Except.bind, ordered, plannedBelow, conditioned, plannedOthers]
    rfl

/-- A field is planned as its parts are. -/
theorem plan_eq_ok_iff {planner : Planner} {context : PlanContext} {entity : String}
    {selection : Selection} {select : Select} :
    planner.plan context entity selection = .ok select ↔
      ∃ own below filtered related,
        (planner.model.entity? entity).isSome ∧
        planner.ownTerms (rootLevel entity) selection = .ok own ∧
        planner.Plans context.vars (rootLevel entity) 1 selection.selections below ∧
        planner.model.rootConditions ⟨entity, context.vars, context.arguments⟩
          (rootLevel entity).name below.next selection.filters = .ok filtered ∧
        planner.sourceConditions context selection.name (rootLevel entity).name filtered.next =
          .ok related ∧
        select = assemble entity own below filtered related := by
  have looked : (∃ info, planner.model.lookupEntity entity = .ok info) ↔
      (planner.model.entity? entity).isSome := by
    unfold Model.lookupEntity
    cases planner.model.entity? entity <;> simp
  simp only [Planner.plan, planLevel_eq, bind_eq_ok_iff, ← planChildren_eq_ok_iff, ← looked]
  constructor
  · rintro ⟨info, known, _, ⟨own, ordered, below, planned, same⟩, filtered, conditioned, related,
      restricted, assembled⟩
    cases same
    cases assembled
    exact ⟨own, below, filtered, related, ⟨info, known⟩, ordered, planned, conditioned, restricted,
      rfl⟩
  · rintro ⟨own, below, filtered, related, ⟨info, known⟩, ordered, planned, conditioned,
      restricted, rfl⟩
    exact ⟨info, known, _, ⟨own, ordered, below, planned, rfl⟩, filtered, conditioned, related,
      restricted, rfl⟩

end Planner

end EntityGraph
