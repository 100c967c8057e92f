import EntityGraph.Proofs.Planning.ParentCondition
import EntityGraph.Proofs.Planning.Progress

/-!
# The plan of a field can be run

On a store of its model, what a planner makes of a field does not fail: its root is bound to
instances of the entity, the joins of filters start from there, and the condition of a
source asks for an attribute that consistency promises. Every place of the ordering holds
values of one type.
-/

namespace EntityGraph

variable {store : Store}

namespace Model

variable {scope : ArgumentScope} {root : Alias} {next : Nat} {filters : List Argument}
  {filtered : RootConditions}

/-- The joins of filters can be expanded from rows that bind the root. -/
theorem exists_expandAll_rootConditions
    (planned : store.model.rootConditions scope root next filters = .ok filtered)
    (typed : store.WellTyped) (below : root.index < next) {rows : List Bindings}
    (each : ∀ row ∈ rows, store.BindsIn row root scope.entity) :
    ∃ expanded, Join.expandAll store root filtered.joins rows = .ok expanded := by
  induction filters generalizing next filtered rows with
  | nil =>
    cases planned
    exact ⟨rows, rfl⟩
  | cons filter rest inductionHypothesis =>
    obtain ⟨info, value, others, operands, ⟨_, remaining, rfl⟩ | ⟨_, remaining, rfl⟩⟩ :=
      rootConditions_cons_eq_ok_iff.1 planned
    · exact inductionHypothesis remaining below each
    · have known := (filterOperands_eq_ok_iff.1 operands).2
      refine Join.exists_expandAll_cons (fun row member => ?_) (fun found _ => ⟨found, rfl⟩)
        fun found origin => ?_
      · exact Join.exists_matchRow typed (each row member) known fun _ _ _ none => by cases none
      · refine inductionHypothesis remaining (Nat.lt_succ_of_lt below) fun joined member => ?_
        obtain ⟨row, among, matched, matching, inside⟩ := origin joined member
        rw [Join.allRows, List.mem_singleton] at inside
        rw [inside]
        exact (each row among).of_lookup_eq (Join.lookup_of_matched matching (Nat.ne_of_lt below))

/-- The conditions of filters have a value in every row that is joined for them. -/
theorem exists_evaluate_rootConditions
    (planned : store.model.rootConditions scope root next filters = .ok filtered)
    (typed : store.WellTyped) (below : root.index < next) {row joined : Bindings}
    (binds : store.BindsIn row root scope.entity)
    (member : joined ∈ Join.allRows store root filtered.joins row) :
    ∀ condition ∈ filtered.conditions, ∃ value, condition.evaluate store joined = .ok value := by
  induction filters generalizing next filtered row with
  | nil =>
    cases planned
    simp
  | cons filter rest inductionHypothesis =>
    obtain ⟨info, value, others, operands, ⟨_, remaining, rfl⟩ | ⟨_, remaining, rfl⟩⟩ :=
      rootConditions_cons_eq_ok_iff.1 planned
    all_goals
      rw [List.forall_mem_cons]
    · have bindsJoined := binds.of_lookup_eq (lookup_eq_of_rootConditions remaining member below)
      obtain ⟨found, evaluated, _⟩ :=
        bindsJoined.exists_evaluate_column typed (filterOperands_eq_ok_iff.1 operands).2
      exact ⟨Expr.exists_evaluate_comparison evaluated _ _,
        inductionHypothesis remaining below binds member⟩
    · obtain ⟨matched, matching, nested, memberNested, memberJoined⟩ :=
        Join.mem_allRows_cons_iff.1 member
      rw [Join.allRows, List.mem_singleton] at memberNested
      subst memberNested
      have element : ∃ found, joined.get ⟨next, filter.name⟩ = .ok found := by
        have same := lookup_eq_of_rootConditions remaining memberJoined (Nat.lt_succ_self next)
        rw [Bindings.get, same]
        rcases Join.mem_matchedRows_iff.1 matching with ⟨found, _, _, rfl⟩ | ⟨_, rfl, _⟩
        · exact ⟨found, by rw [Bindings.lookup_bind_self _ ⟨next, filter.name⟩]⟩
        · exact ⟨.null, by rw [Bindings.lookup_bind_self _ ⟨next, filter.name⟩]⟩
      obtain ⟨found, got⟩ := element
      have evaluated : (Expr.table ⟨next, filter.name⟩).evaluate store joined = .ok found := got
      refine ⟨Expr.exists_evaluate_comparison evaluated _ _, ?_⟩
      refine inductionHypothesis remaining (Nat.lt_succ_of_lt below) (binds.of_lookup_eq ?_)
        memberJoined
      exact Join.lookup_of_matched matching (Nat.ne_of_lt below)

end Model

/-- Whether the source of a context, if there is one, is an instance whose field leads to the
entity. -/
def PlanContext.LeadsTo (context : PlanContext) (store : Store) (entity attr : String) : Prop :=
  ∀ source ∈ context.source?, store.Stored source ∧ ∃ info relationship,
    store.model.attribute? source.entity attr = some info ∧
      info.type.relationship? source.entity attr = some relationship ∧
        relationship.target = entity

/-- The field of a stored source leads to its target. -/
theorem PlanContext.leadsTo_target {store : Store} {source : EntityRef} {attr : String}
    {info : Attribute} {relationship : Relationship} (context : PlanContext)
    (given : context.source? = some source) (present : store.Stored source)
    (known : store.model.attribute? source.entity attr = some info)
    (related : info.type.relationship? source.entity attr = some relationship) :
    context.LeadsTo store relationship.target attr := by
  intro other same
  rw [given] at same
  cases same
  exact ⟨present, info, relationship, known, related, rfl⟩

/-- A source restricts the plan of its field by one condition. -/
theorem Planner.exists_sourceConditions (planner : Planner) (context : PlanContext)
    {source : EntityRef} {attr : String} {info : Attribute} {relationship : Relationship}
    (given : context.source? = some source)
    (known : planner.model.attribute? source.entity attr = some info)
    (related : info.type.relationship? source.entity attr = some relationship) (root : Alias)
    (next : Nat) :
    ∃ condition, planner.model.parentCondition source attr root next = .ok condition ∧
      planner.sourceConditions context attr root next = .ok [condition] := by
  refine ⟨_, Model.parentCondition_eq known related, ?_⟩
  rw [sourceConditions, given]
  exact bind_eq_ok_iff.2 ⟨_, Model.parentCondition_eq known related, rfl⟩

namespace Planner

variable {planner : Planner} {context : PlanContext} {entity : String}
  {selection : Selection} {own : List LeveledTerm} {below : LevelPlan}
  {filtered : RootConditions} {related : List Expr}

/-- Whether a row is made of an instance of an entity by joins. -/
def RowOf (store : Store) (entity : String) (joins : List Join) (row : Bindings) : Prop :=
  ∃ ref, (ref.entity = entity ∧ store.Stored ref) ∧
    row ∈ Join.allRows store (rootLevel entity).name joins (rootRow entity ref)

/-- The row of an instance binds the root to it. -/
theorem bindsIn_rootRow {ref : EntityRef} (present : ref.entity = entity ∧ store.Stored ref) :
    store.BindsIn (rootRow entity ref) (rootLevel entity).name (rootLevel entity).entity :=
  .bind_self (.inr ⟨ref, rfl, present⟩)

/-- The rows of a plan still bind the root to an instance. -/
theorem bindsIn_of_rowOf (planned : planner.Plans context.vars (rootLevel entity) 1
      selection.selections below)
    (conditioned : planner.model.rootConditions ⟨entity, context.vars, context.arguments⟩
      (rootLevel entity).name below.next selection.filters = .ok filtered) {row : Bindings}
    (rowOf : RowOf store entity (below.joins ++ filtered.joins) row) :
    store.BindsIn row (rootLevel entity).name entity := by
  obtain ⟨ref, present, joined⟩ := rowOf
  exact (bindsIn_rootRow present).of_lookup_eq (lookup_root_of_joined planned conditioned joined)

/-- The keys of a plan have values of the same types in all of its rows. -/
theorem exists_keyTypes (same : planner.model = store.model) (typed : store.WellTyped)
    (ordered : planner.ownTerms (rootLevel entity) selection = .ok own)
    (planned : planner.Plans context.vars (rootLevel entity) 1 selection.selections below)
    (conditioned : planner.model.rootConditions ⟨entity, context.vars, context.arguments⟩
      (rootLevel entity).name below.next selection.filters = .ok filtered) :
    ∃ types : List AttributeType, (∀ type ∈ types, type.isAssociation = false) ∧
      ∀ row, RowOf store entity (below.joins ++ filtered.joins) row →
        OrderTerm.KeysFit store (orderingOf (own ++ below.ordering)) types row := by
  refine OrderTerm.exists_types fun term member => ?_
  obtain ⟨leveled, inside, rfl⟩ := List.mem_map.1 member
  rw [(sortStable_perm _ _).mem_iff, List.mem_append] at inside
  rcases inside with inside | inside
  · obtain ⟨attr, info, column, known, plain⟩ := exists_of_mem_ownTerms ordered inside
    rw [same] at known
    refine ⟨info.type, plain, fun row rowOf => ?_⟩
    rw [column]
    exact (bindsIn_of_rowOf planned conditioned rowOf).exists_evaluate_column typed known
  · have grounded := planned.grounded same typed Nat.zero_lt_one leveled inside
    refine (grounded.extend (Nat.le_refl _) ?_).exists_type typed
    rintro row ⟨ref, present, joined⟩
    rw [Join.allRows_append, List.mem_flatMap] at joined
    obtain ⟨middle, first, last⟩ := joined
    exact ⟨middle, ⟨_, bindsIn_rootRow present, first⟩,
      fun index older => Model.lookup_eq_of_rootConditions conditioned last older⟩

/-- The joins of a plan and of its filters can be expanded from the instances of the entity. -/
theorem exists_expandAll_of_refs (same : planner.model = store.model) (typed : store.WellTyped)
    (planned : planner.Plans context.vars (rootLevel entity) 1 selection.selections below)
    (conditioned : planner.model.rootConditions ⟨entity, context.vars, context.arguments⟩
      (rootLevel entity).name below.next selection.filters = .ok filtered)
    {refs : List EntityRef} (listed : store.refs entity = .ok refs) :
    ∃ expanded, Join.expandAll store (rootLevel entity).name (below.joins ++ filtered.joins)
      (refs.map (rootRow entity)) = .ok expanded := by
  have rootBelow : (rootLevel entity).name.index < below.next :=
    Nat.lt_of_lt_of_le Nat.zero_lt_one planned.next_le
  rw [same] at conditioned
  have binds : ∀ row ∈ refs.map (rootRow entity),
      store.BindsIn row (rootLevel entity).name (rootLevel entity).entity := by
    intro row member
    obtain ⟨ref, inside, rfl⟩ := List.mem_map.1 member
    exact bindsIn_rootRow ((Store.mem_refs_iff listed).1 inside)
  obtain ⟨middle, expanded⟩ := planned.exists_expandAll same typed Nat.zero_lt_one binds
  refine Join.exists_expandAll_append expanded
    (Model.exists_expandAll_rootConditions conditioned typed rootBelow fun row member => ?_)
  rw [Join.eq_flatMap_of_expandAll expanded, List.mem_flatMap] at member
  obtain ⟨start, present, joined⟩ := member
  exact (binds start present).of_lookup_eq (planned.lookup_eq joined Nat.zero_lt_one)

/-- The conditions for the filters of a field have values in the rows of its plan. -/
theorem exists_evaluate_filters (same : planner.model = store.model) (typed : store.WellTyped)
    (planned : planner.Plans context.vars (rootLevel entity) 1 selection.selections below)
    (conditioned : planner.model.rootConditions ⟨entity, context.vars, context.arguments⟩
      (rootLevel entity).name below.next selection.filters = .ok filtered) {row : Bindings}
    (rowOf : RowOf store entity (below.joins ++ filtered.joins) row) :
    ∀ condition ∈ filtered.conditions, ∃ value, condition.evaluate store row = .ok value := by
  obtain ⟨ref, present, joined⟩ := rowOf
  rw [Join.allRows_append, List.mem_flatMap] at joined
  obtain ⟨middle, first, last⟩ := joined
  rw [same] at conditioned
  exact Model.exists_evaluate_rootConditions conditioned typed
    (Nat.lt_of_lt_of_le Nat.zero_lt_one planned.next_le)
    ((bindsIn_rootRow present).of_lookup_eq (planned.lookup_eq first Nat.zero_lt_one)) last

/-- The condition for the source of a field has a value where the root is bound. -/
theorem exists_evaluate_sourceConditions (same : planner.model = store.model)
    (typed : store.WellTyped) (consistent : store.model.Consistent) {attr : String} {root : Alias}
    {next : Nat} (restricted : planner.sourceConditions context attr root next = .ok related)
    (leads : context.LeadsTo store entity attr) {row : Bindings}
    (binds : store.BindsIn row root entity) :
    ∀ condition ∈ related, ∃ value, condition.evaluate store row = .ok value := by
  unfold sourceConditions at restricted
  split at restricted
  · cases restricted
    exact fun _ impossible => by cases impossible
  · next source given =>
    obtain ⟨condition, restricting, equal⟩ := bind_eq_ok_iff.1 restricted
    cases equal
    obtain ⟨present, info, relationship, known, related, rfl⟩ := leads source given
    rw [same] at restricting
    intro only member
    rw [List.mem_singleton] at member
    rw [member]
    exact Model.exists_evaluate_parentCondition typed consistent present known related
      restricting binds

/-- The plan of a field does not fail on a store of its model. -/
theorem exists_run (same : planner.model = store.model) (typed : store.WellTyped)
    (consistent : store.model.Consistent) {select : Select}
    (planned : planner.plan context entity selection = .ok select)
    (leads : context.LeadsTo store entity selection.name) :
    ∃ values, select.run store = .ok values := by
  obtain ⟨own, below, filtered, related, declared, ordered, joined, conditioned, restricted, rfl⟩ :=
    plan_eq_ok_iff.1 planned
  rw [same, Option.isSome_iff_exists] at declared
  obtain ⟨info, declared⟩ := declared
  obtain ⟨refs, listed⟩ := typed.exists_refs declared
  have rowOf {ref : EntityRef} (inside : ref ∈ refs) {row : Bindings}
      (member : row ∈ Join.allRows store (rootLevel entity).name (below.joins ++ filtered.joins)
        (rootRow entity ref)) : RowOf store entity (below.joins ++ filtered.joins) row :=
    ⟨ref, (Store.mem_refs_iff listed).1 inside, member⟩
  refine Select.exists_run listed ?_ ?_ ?_ ?_
  · exact exists_expandAll_of_refs same typed joined conditioned listed
  · intro ref inside row member
    refine Expr.exists_evaluate_conjunction fun condition among => ?_
    rcases List.mem_append.1 among with among | among
    · exact exists_evaluate_filters same typed joined conditioned (rowOf inside member) condition
        among
    · exact exists_evaluate_sourceConditions same typed consistent restricted leads
        (bindsIn_of_rowOf joined conditioned (rowOf inside member)) condition among
  · obtain ⟨types, _, fit⟩ := exists_keyTypes same typed ordered joined conditioned
    intro row member
    obtain ⟨ref, inside, among, _⟩ := mem_rows_assemble_iff.1 member
    obtain ⟨keys, evaluated, _⟩ := fit row (rowOf inside among)
    exact ⟨keys, evaluated⟩
  · intro row member
    obtain ⟨ref, inside, among, _⟩ := mem_rows_assemble_iff.1 member
    exact ⟨_, (bindsIn_of_rowOf joined conditioned (rowOf inside among)).get_eq⟩

end Planner

end EntityGraph
