import EntityGraph.Proofs.Plan.Loading
import EntityGraph.Proofs.Plan.Selected
import EntityGraph.Proofs.Planning.RootFilters
import EntityGraph.Proofs.Planning.Satisfaction
import EntityGraph.Proofs.Store.Lookup

/-!
# Which instances a plan selects

The plan of a field selects an instance if it meets the filters of the field, satisfies the
selections and is related to the source, if there is one. Other rows of the instance make no
difference: they neither repeat it nor drop it.
-/

namespace EntityGraph

/-- Values that are all references. -/
theorem exists_refs {values : List Value} (each : ∀ value ∈ values, ∃ ref, value = .entity ref) :
    ∃ refs : List EntityRef, values = refs.map .entity := by
  induction values with
  | nil => exact ⟨[], rfl⟩
  | cons value rest inductionHypothesis =>
    rw [List.forall_mem_cons] at each
    obtain ⟨⟨ref, rfl⟩, others⟩ := each
    obtain ⟨refs, rfl⟩ := inductionHypothesis others
    exact ⟨ref :: refs, rfl⟩

/-- Dropping repetitions of references keeps each of them. -/
theorem mem_firstAppearances_iff {values : List Value}
    (each : ∀ value ∈ values, ∃ ref, value = .entity ref) {value : Value} :
    value ∈ firstAppearances values ↔ value ∈ values := by
  obtain ⟨refs, rfl⟩ := exists_refs each
  simp only [firstAppearances_map_entity, List.mem_map, List.mem_eraseDups]

namespace Planner

variable {planner : Planner} {context : PlanContext} {entity : String}
  {selection : Selection} {select : Select} {store : Store}

/-- The row of an instance before anything is joined. -/
def rootRow (entity : String) (ref : EntityRef) : Bindings :=
  Bindings.bind [] (rootLevel entity).name (.entity ref)

/-- The condition of a source looks at the root alone. -/
theorem holds_parentCondition {model : Model} {source : EntityRef} {attr : String}
    {root : Alias} {next : Nat} {condition : Expr}
    (planned : model.parentCondition source attr root next = .ok condition) {row other : Bindings}
    (same : row.lookup root.index = other.lookup root.index) :
    condition.holds store row = condition.holds store other := by
  have got : row.get root = other.get root := by
    rw [Bindings.get, Bindings.get, same]
  simp only [Model.parentCondition, bind_eq_ok_iff] at planned
  obtain ⟨relationship, _, same⟩ := planned
  cases same
  cases relationship.ownership <;> simp only [Expr.holds, Expr.evaluate, got]

/-- The conditions of a context look at the root alone. -/
theorem holds_sourceConditions {attr : String} {root : Alias} {next : Nat}
    {related : List Expr}
    (planned : planner.sourceConditions context attr root next = .ok related)
    {condition : Expr} (member : condition ∈ related) {row other : Bindings}
    (same : row.lookup root.index = other.lookup root.index) :
    condition.holds store row = condition.holds store other := by
  unfold sourceConditions at planned
  split at planned
  · cases planned
    cases member
  · obtain ⟨only, restricted, equal⟩ := bind_eq_ok_iff.1 planned
    cases equal
    rw [List.mem_singleton] at member
    subst member
    exact holds_parentCondition restricted same

variable {own : List LeveledTerm} {below : LevelPlan} {filtered : RootConditions}
  {related : List Expr}

/-- The joins of a plan and of its filters leave the root alone. -/
theorem lookup_root_of_joined {start row : Bindings}
    (planned : planner.Plans context.vars (rootLevel entity) 1 selection.selections below)
    (conditioned : planner.model.rootConditions ⟨entity, context.vars, context.arguments⟩
      (rootLevel entity).name below.next selection.filters = .ok filtered)
    (joined : row ∈ Join.allRows store (rootLevel entity).name (below.joins ++ filtered.joins)
      start) :
    row.lookup (rootLevel entity).name.index = start.lookup (rootLevel entity).name.index := by
  have rootBelow : (rootLevel entity).name.index < 1 := Nat.zero_lt_one
  rw [Join.allRows_append, List.mem_flatMap] at joined
  obtain ⟨middle, first, last⟩ := joined
  rw [Model.lookup_eq_of_rootConditions conditioned last
    (Nat.lt_of_lt_of_le rootBelow planned.next_le), planned.lookup_eq first rootBelow]

/-- A row of an instance passes the filter of a plan exactly if the instance satisfies the
selections, meets the filters and is related to the source. -/
theorem exists_passing_row_iff (same : planner.model = store.model)
    (planned : planner.Plans context.vars (rootLevel entity) 1 selection.selections below)
    (conditioned : planner.model.rootConditions ⟨entity, context.vars, context.arguments⟩
      (rootLevel entity).name below.next selection.filters = .ok filtered)
    (restricted : planner.sourceConditions context selection.name (rootLevel entity).name
      filtered.next = .ok related) (ref : EntityRef) :
    (∃ row ∈ Join.allRows store (rootLevel entity).name (below.joins ++ filtered.joins)
        (rootRow entity ref),
      (Expr.conjunction (filtered.conditions ++ related)).holds store row = true) ↔
    Selection.AllSatisfied store planner.settings.defaultJoinType context.vars entity
        (.entity ref) selection.selections ∧
      store.model.Admits store ⟨entity, context.vars, context.arguments⟩ selection.filters
        (.entity ref) ∧
      ∀ condition ∈ related, condition.holds store (rootRow entity ref) = true := by
  have rootBelow : (rootLevel entity).name.index < 1 := Nat.zero_lt_one
  have started : (rootRow entity ref).lookup (rootLevel entity).name.index =
      some (.entity ref) := Bindings.lookup_bind_self _ _ _
  have rootBelowFilters := Nat.lt_of_lt_of_le rootBelow planned.next_le
  have joinedRoot {middle : Bindings}
      (member : middle ∈ Join.allRows store (rootLevel entity).name below.joins
        (rootRow entity ref)) :
      middle.lookup (rootLevel entity).name.index = some (.entity ref) := by
    rw [planned.lookup_eq member rootBelow, started]
  have filteredRoot {middle last : Bindings}
      (member : middle ∈ Join.allRows store (rootLevel entity).name below.joins
        (rootRow entity ref))
      (present : last ∈ Join.allRows store (rootLevel entity).name filtered.joins middle) :
      last.lookup (rootLevel entity).name.index =
        (rootRow entity ref).lookup (rootLevel entity).name.index := by
    have joined : last ∈ Join.allRows store (rootLevel entity).name
        (below.joins ++ filtered.joins) (rootRow entity ref) := by
      rw [Join.allRows_append, List.mem_flatMap]
      exact ⟨middle, member, present⟩
    exact lookup_root_of_joined planned conditioned joined
  have satisfied : (∃ middle, middle ∈ Join.allRows store (rootLevel entity).name below.joins
      (rootRow entity ref)) ↔
      Selection.AllSatisfied store planner.settings.defaultJoinType context.vars entity
        (.entity ref) selection.selections := planned.exists_row_iff same rootBelow started
  rw [← satisfied]
  simp only [Join.allRows_append, List.mem_flatMap, Expr.holds_conjunction, List.all_append,
    Bool.and_eq_true, List.all_eq_true]
  rw [same] at conditioned
  constructor
  · rintro ⟨last, ⟨middle, member, present⟩, met, also⟩
    refine ⟨⟨middle, member⟩, ?_, fun condition inside => ?_⟩
    · exact (Model.exists_filtered_iff conditioned rootBelowFilters (joinedRoot member)).1
        ⟨last, present, met⟩
    · rw [← also condition inside]
      exact holds_sourceConditions restricted inside (filteredRoot member present).symm
  · rintro ⟨⟨middle, member⟩, admitted, also⟩
    obtain ⟨last, present, met⟩ :=
      (Model.exists_filtered_iff conditioned rootBelowFilters (joinedRoot member)).2 admitted
    refine ⟨last, ⟨middle, member, present⟩, met, fun condition inside => ?_⟩
    rw [← also condition inside]
    exact holds_sourceConditions restricted inside (filteredRoot member present)

/-- What is joined to the row of an instance still binds the root to the instance. -/
theorem value_root_of_joined {ref : EntityRef} {row : Bindings}
    (planned : planner.Plans context.vars (rootLevel entity) 1 selection.selections below)
    (conditioned : planner.model.rootConditions ⟨entity, context.vars, context.arguments⟩
      (rootLevel entity).name below.next selection.filters = .ok filtered)
    (joined : row ∈ Join.allRows store (rootLevel entity).name (below.joins ++ filtered.joins)
      (rootRow entity ref)) :
    row.value (rootLevel entity).name = .entity ref := by
  rw [Bindings.value, lookup_root_of_joined planned conditioned joined, rootRow,
    Bindings.lookup_bind_self]
  rfl

/-- The rows of a plan are the rows of instances that pass its filter. -/
theorem mem_rows_assemble_iff {refs : List EntityRef} {row : Bindings} :
    row ∈ (assemble entity own below filtered related).rows store refs ↔
      ∃ ref ∈ refs, row ∈ Join.allRows store (rootLevel entity).name
          (below.joins ++ filtered.joins) (rootRow entity ref) ∧
        (Expr.conjunction (filtered.conditions ++ related)).holds store row = true := by
  simp only [Select.rows, List.mem_filter, List.mem_flatMap]
  constructor
  · rintro ⟨⟨ref, present, joined⟩, passes⟩
    exact ⟨ref, present, joined, passes⟩
  · rintro ⟨ref, present, joined, passes⟩
    exact ⟨⟨ref, present, joined⟩, passes⟩

/-- What the plan of a field projects: each instance once that meets the filters, satisfies the
selections and is related to the source. -/
theorem exists_refs_of_run (same : planner.model = store.model)
    (planned : planner.Plans context.vars (rootLevel entity) 1 selection.selections below)
    (conditioned : planner.model.rootConditions ⟨entity, context.vars, context.arguments⟩
      (rootLevel entity).name below.next selection.filters = .ok filtered)
    (restricted : planner.sourceConditions context selection.name (rootLevel entity).name
      filtered.next = .ok related) {values : List Value}
    (run : (assemble entity own below filtered related).run store = .ok values) :
    ∃ refs : List EntityRef, values = refs.map .entity ∧ refs.Nodup ∧ ∀ ref, ref ∈ refs ↔
      (ref.entity = entity ∧ store.contains ref = true) ∧
        Selection.AllSatisfied store planner.settings.defaultJoinType context.vars entity
          (.entity ref) selection.selections ∧
        store.model.Admits store ⟨entity, context.vars, context.arguments⟩ selection.filters
          (.entity ref) ∧
        ∀ condition ∈ related, condition.holds store (rootRow entity ref) = true := by
  obtain ⟨all, listed, rfl⟩ := Select.eq_project_of_run run
  have memSorted (row : Bindings) :
      row ∈ OrderTerm.sorted store (orderingOf (own ++ below.ordering))
          ((assemble entity own below filtered related).rows store all) ↔
        row ∈ (assemble entity own below filtered related).rows store all :=
    (OrderTerm.sorted_perm store _ _).mem_iff
  obtain ⟨refs, roots⟩ : ∃ refs : List EntityRef,
      ((OrderTerm.sorted store (orderingOf (own ++ below.ordering))
        ((assemble entity own below filtered related).rows store all)).map fun row =>
          row.value (rootLevel entity).name) = refs.map .entity := by
    refine exists_refs fun value member => ?_
    obtain ⟨row, present, rfl⟩ := List.mem_map.1 member
    obtain ⟨ref, _, joined, _⟩ := mem_rows_assemble_iff.1 ((memSorted row).1 present)
    exact ⟨ref, value_root_of_joined planned conditioned joined⟩
  have inside (ref : EntityRef) : ref ∈ refs ↔
      ∃ row ∈ (assemble entity own below filtered related).rows store all,
        row.value (rootLevel entity).name = .entity ref := by
    have image : ref ∈ refs ↔ (.entity ref : Value) ∈ refs.map .entity := by simp
    rw [image, ← roots, List.mem_map]
    exact exists_congr fun row => and_congr_left fun _ => memSorted row
  refine ⟨refs.eraseDups, ?_, nodup_eraseDups refs, fun ref => ?_⟩
  · rw [← firstAppearances_map_entity, ← roots]
    rfl
  · have listedRef : ref ∈ all ↔ ref.entity = entity ∧ store.contains ref = true :=
      Store.mem_refs_iff listed
    rw [List.mem_eraseDups, inside, ← listedRef,
      ← exists_passing_row_iff same planned conditioned restricted]
    constructor
    · rintro ⟨row, member, rooted⟩
      obtain ⟨owner, present, joined, passes⟩ := mem_rows_assemble_iff.1 member
      rw [value_root_of_joined planned conditioned joined] at rooted
      cases rooted
      exact ⟨present, row, joined, passes⟩
    · rintro ⟨present, row, joined, passes⟩
      exact ⟨row, mem_rows_assemble_iff.2 ⟨ref, present, joined, passes⟩,
        value_root_of_joined planned conditioned joined⟩

/-- What the plan of a field is executed to: the instances that meet the filters, satisfy the
selections and are related to the source. -/
theorem exists_conditions_of_execute
    (planned : planner.plan context entity selection = .ok select) {instances : List Instance}
    (executed : store.execute select = .ok instances) (same : planner.model = store.model) :
    ∃ next related, planner.sourceConditions context selection.name (rootLevel entity).name next =
        .ok related ∧
      ∀ ref, ref ∈ instances.map Instance.ref ↔
        (ref.entity = entity ∧ store.contains ref = true) ∧
          Selection.AllSatisfied store planner.settings.defaultJoinType context.vars entity
            (.entity ref) selection.selections ∧
          store.model.Admits store ⟨entity, context.vars, context.arguments⟩ selection.filters
            (.entity ref) ∧
          ∀ condition ∈ related, condition.holds store (rootRow entity ref) = true := by
  obtain ⟨own, below, filtered, related, _, _, joined, conditioned, restricted, rfl⟩ :=
    plan_eq_ok_iff.1 planned
  obtain ⟨values, run, loaded⟩ := Store.execute_eq_ok_iff.1 executed
  obtain ⟨refs, valuesEq, _, selected⟩ :=
    exists_refs_of_run same joined conditioned restricted run
  refine ⟨filtered.next, related, restricted, fun ref => ?_⟩
  rw [← selected ref]
  have listed : ref ∈ instances.map Instance.ref ↔ (.entity ref : Value) ∈ values := by
    rw [Store.eq_map_of_mapM_instanceWith loaded]
    simp
  rw [listed, valuesEq]
  simp

end Planner

end EntityGraph
