import EntityGraph.Proofs.Planning.Totality

/-!
# The field of a source

The plan for a field of a source differs from the plan for all instances of the entity by
one condition. The condition commutes with everything that comes after it: with the
ordering, since keys are ordered up to ties, with dropping repetitions, and with loading.
So the field of a source is what is left of the whole answer.
-/

namespace EntityGraph

namespace Planner

variable {planner : Planner} {store : Store} {entity : String} {own : List LeveledTerm}
  {below : LevelPlan} {filtered : RootConditions} {condition : Expr}

/-- A further condition leaves out rows. -/
theorem rows_assemble_condition (refs : List EntityRef) :
    (assemble entity own below filtered [condition]).rows store refs =
      ((assemble entity own below filtered []).rows store refs).filter fun row =>
        condition.holds store row := by
  rw [Select.rows, Select.rows, List.filter_filter]
  refine List.filter_congr fun row _ => ?_
  simp [assemble, Bool.and_comm]

/-- Repetitions of references can be dropped before or after a filter. -/
theorem firstAppearances_filter {values : List Value}
    (each : ∀ value ∈ values, ∃ ref, value = .entity ref) (keeps : Value → Bool) :
    firstAppearances (values.filter keeps) = (firstAppearances values).filter keeps := by
  obtain ⟨refs, rfl⟩ := exists_refs each
  rw [List.filter_map, firstAppearances_map_entity, firstAppearances_map_entity,
    eraseDups_filter, List.filter_map]

variable {context : PlanContext} {selection : Selection}

/-- A further condition that depends on the root alone leaves out what it does not hold for. -/
theorem project_assemble_condition (same : planner.model = store.model) (typed : store.WellTyped)
    (ordered : planner.ownTerms (rootLevel entity) selection = .ok own)
    (planned : planner.Plans context.vars (rootLevel entity) 1 selection.selections below)
    (conditioned : planner.model.rootConditions ⟨entity, context.vars, context.arguments⟩
      (rootLevel entity).name below.next selection.filters = .ok filtered)
    {refs : List EntityRef} (listed : store.refs entity = .ok refs) (keeps : Value → Bool)
    (agree : ∀ row, RowOf store entity (below.joins ++ filtered.joins) row →
      condition.holds store row = keeps (row.value (rootLevel entity).name)) :
    (assemble entity own below filtered [condition]).project store
        ((assemble entity own below filtered [condition]).rows store refs) =
      ((assemble entity own below filtered []).project store
        ((assemble entity own below filtered []).rows store refs)).filter keeps := by
  have rowOf {row : Bindings}
      (member : row ∈ (assemble entity own below filtered []).rows store refs) :
      RowOf store entity (below.joins ++ filtered.joins) row := by
    obtain ⟨ref, inside, joined, _⟩ := mem_rows_assemble_iff.1 member
    exact ⟨ref, (Store.mem_refs_iff listed).1 inside, joined⟩
  obtain ⟨types, plain, fit⟩ := exists_keyTypes same typed ordered planned conditioned
  have sorted := OrderTerm.sorted_filter plain (fun row member => fit row (rowOf member))
    fun row => condition.holds store row
  have projects (related : List Expr) (rows : List Bindings) :
      (assemble entity own below filtered related).project store rows =
        firstAppearances ((OrderTerm.sorted store (orderingOf (own ++ below.ordering)) rows).map
          fun row => row.value (rootLevel entity).name) := rfl
  have inRows {row : Bindings}
      (member : row ∈ OrderTerm.sorted store (orderingOf (own ++ below.ordering))
        ((assemble entity own below filtered []).rows store refs)) :
      row ∈ (assemble entity own below filtered []).rows store refs :=
    (OrderTerm.sorted_perm store _ _).mem_iff.1 member
  rw [projects, projects, rows_assemble_condition, sorted, ← firstAppearances_filter,
    List.filter_map]
  · congr 2
    exact List.filter_congr fun row member => agree row (rowOf (inRows member))
  · intro value member
    obtain ⟨row, inside, rfl⟩ := List.mem_map.1 member
    obtain ⟨ref, _, joined⟩ := rowOf (inRows inside)
    exact ⟨ref, value_root_of_joined planned conditioned joined⟩

end Planner

/-- A field of a source is answered with those instances that the field is answered with in general
and that the source leads to, in the same order. -/
theorem source_field_selects_its_targets {model : Model} {store : Store}
    {settings : FetchSettings} {vars arguments : Dict Value} {source : EntityRef}
    {info : Attribute} {relationship : Relationship} {field : Selection} {planOfAll : Select}
    {all : List Instance} (consistent : model.Consistent) (unchained : model.Unchained)
    (obtained : Store.Obtained model store) (present : store.contains source = true)
    (known : model.attribute? source.entity field.name = some info)
    (related : info.type.relationship? source.entity field.name = some relationship)
    (planned : Planner.plan ⟨model, settings⟩ ⟨vars, arguments, none⟩ relationship.target field =
      .ok planOfAll)
    (executed : store.execute planOfAll = .ok all) :
    ∃ plan targets,
      Planner.plan ⟨model, settings⟩ ⟨vars, arguments, some source⟩ relationship.target field =
        .ok plan ∧
      store.navigate (.entity source) field.name = .ok targets ∧
      store.execute plan =
        .ok (all.filter fun inst => targets.any fun target => target.same (.entity inst.ref)) := by
  obtain rfl := obtained.model_eq
  have typed := obtained.wellTyped
  obtain ⟨own, below, filtered, unrelated, declared, ordered, joined, conditioned, free, rfl⟩ :=
    Planner.plan_eq_ok_iff.1 planned
  cases free
  obtain ⟨values, run, loaded⟩ := Store.execute_eq_ok_iff.1 executed
  obtain ⟨refs, listed, rfl⟩ := Select.eq_project_of_run run
  obtain ⟨condition, restricting, restricted⟩ :=
    Planner.exists_sourceConditions ⟨store.model, settings⟩ ⟨vars, arguments, some source⟩ rfl
      known related (Planner.rootLevel relationship.target).name filtered.next
  have navigated := typed.navigate_of_binds (.inr ⟨source, rfl, rfl, present⟩) known
  have leads := PlanContext.leadsTo_target ⟨vars, arguments, some source⟩ rfl present known related
  have plannedSource : Planner.plan ⟨store.model, settings⟩ ⟨vars, arguments, some source⟩
      relationship.target field =
        .ok (Planner.assemble relationship.target own below filtered [condition]) :=
    Planner.plan_eq_ok_iff.2 ⟨own, below, filtered, [condition], declared, ordered, joined,
      conditioned, restricted, rfl⟩
  refine ⟨_, _, plannedSource, navigated, ?_⟩
  obtain ⟨found, runSource⟩ := Planner.exists_run rfl typed consistent plannedSource leads
  refine Store.execute_eq_ok_iff.2 ⟨found, runSource, ?_⟩
  obtain ⟨refsAgain, listedAgain, rfl⟩ := Select.eq_project_of_run runSource
  have sameRefs : refsAgain = refs := Except.ok.inj (listedAgain.symm.trans listed)
  have agrees (row : Bindings)
      (rowOf : Planner.RowOf store relationship.target (below.joins ++ filtered.joins) row) :
      condition.holds store row = (store.targets (.entity source) field.name).any fun target =>
        target.same (row.value (Planner.rootLevel relationship.target).name) := by
    obtain ⟨ref, ⟨ofTarget, stored⟩, inside⟩ := rowOf
    have rooted := Planner.lookup_root_of_joined joined conditioned inside
    have bound : row.lookup (Planner.rootLevel relationship.target).name.index =
        some (.entity ref) := rooted.trans (Bindings.lookup_bind_self _ _ _)
    rw [Planner.value_root_of_joined joined conditioned inside, Bool.eq_iff_iff,
      Model.holds_parentCondition_iff obtained consistent unchained present known related
        restricting bound stored ofTarget]
    simp
  rw [sameRefs, Planner.project_assemble_condition rfl typed ordered joined conditioned listed
    (fun value => (store.targets (.entity source) field.name).any fun target =>
      target.same value) agrees]
  refine mapM_filter_eq_ok _ _ (fun value _ inst done => ?_) loaded
  rw [Store.eq_entity_of_instanceWith done]

/-- The author of a book, where the authors with the last ids come first. -/
def authorField : Selection :=
  ⟨"author", none, [], [⟨"id", none, [⟨"orderBy", .enum "DESC"⟩], []⟩]⟩

/-- The plan for all authors. -/
def authorFieldPlan : Select :=
  (Planner.plan ⟨Model.library, .standard⟩ PlanContext.empty "Author" authorField).toOption.getD
    (.everything "Author" ⟨0, "Author"⟩)

/-- All authors. -/
def authorFieldInstances : List Instance :=
  (Store.library.execute authorFieldPlan).toOption.getD []

/-- A book is answered with the author that it leads to, and not with the other one, who comes
first among all authors. -/
theorem source_field_selects_author_of_book :
    Store.library.execute authorFieldPlan = .ok authorFieldInstances ∧
      authorFieldInstances.map Instance.ref = [⟨"Author", "b"⟩, ⟨"Author", "a"⟩] ∧
      ∃ plan targets,
        Planner.plan ⟨Model.library, .standard⟩ ⟨Dict.empty, Dict.empty, some ⟨"Book", "1"⟩⟩
          "Author" authorField = .ok plan ∧
        Store.library.navigate (.entity ⟨"Book", "1"⟩) "author" = .ok targets ∧
        Store.library.execute plan =
          .ok (authorFieldInstances.filter fun inst =>
            targets.any fun target => target.same (.entity inst.ref)) ∧
        (authorFieldInstances.filter fun inst =>
          targets.any fun target => target.same (.entity inst.ref)).map Instance.ref =
            [⟨"Author", "a"⟩] := by
  have planned : Planner.plan ⟨Model.library, .standard⟩ ⟨Dict.empty, Dict.empty, none⟩ "Author"
      authorField = .ok authorFieldPlan :=
    eq_ok_of_isOk (by decide +kernel)
  have executed : Store.library.execute authorFieldPlan = .ok authorFieldInstances :=
    eq_ok_of_isOk (by decide +kernel)
  have known : Model.library.attribute? "Book" authorField.name =
      some ⟨.association "Author" .manyToOne none, none⟩ := by
    decide +kernel
  have present : Store.library.contains ⟨"Book", "1"⟩ = true := by
    decide +kernel
  have related : AttributeType.relationship? "Book" authorField.name
      (.association "Author" .manyToOne none) =
        some ⟨"Book", "author", "Author", .singular, .owning⟩ := rfl
  obtain ⟨plan, targets, plannedSource, navigated, executedSource⟩ :=
    source_field_selects_its_targets consistent_library unchained_library obtained_library present
      known related planned executed
  have leads : Store.library.navigate (.entity ⟨"Book", "1"⟩) "author" =
      .ok [.entity ⟨"Author", "a"⟩] := by
    rfl
  obtain rfl := Except.ok.inj (navigated.symm.trans leads)
  exact ⟨executed, by decide +kernel, plan, _, plannedSource, leads, executedSource,
    by decide +kernel⟩

end EntityGraph
