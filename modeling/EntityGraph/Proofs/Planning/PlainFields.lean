import EntityGraph.Proofs.Planning.Unfetched

/-!
# Fields that select attributes only

A field without arguments that selects no association is planned as a listing of its entity: there
is nothing to join, to filter or to order by. The listing is executed to all rows of the table, in
load order.
-/

namespace EntityGraph

/-- Whether a selection names an attribute of an entity other than an association, without
arguments. -/
structure Entity.Shows (entity : Entity) (child : Selection) : Prop where
  named : child.isTypename = false
  unargued : child.arguments = []
  plain : ∃ info, entity.attributes.get? child.name = some info ∧ info.type.isAssociation = false

/-- What such a selection names is an attribute of the model that describes no relationship. -/
theorem Entity.Shows.exists_attribute {info : Entity} {child : Selection} (shows : info.Shows child)
    {model : Model} {entity : String} (declared : model.entity? entity = some info) :
    ∃ attr, model.attribute? entity child.name = some attr ∧
      attr.type.relationship? entity child.name = none := by
  obtain ⟨⟨type, description?⟩, known, plain⟩ := shows.plain
  refine ⟨_, by rw [Model.attribute?, declared, Option.bind_some, known], ?_⟩
  cases type with
  | association => cases plain
  | _ => rfl

namespace Planner

variable {planner : Planner} {entity : String} {info : Entity} {selections : List Selection}

/-- An attribute that is not an association is left out of a plan. -/
theorem leaves_of_shows {level : Level} {child : Selection}
    (declared : planner.model.entity? level.entity = some info) (shows : info.Shows child) :
    planner.Leaves level child := by
  obtain ⟨attr, looked, unrelated⟩ := shows.exists_attribute declared
  refine ⟨?_, fun _ => ⟨⟨attr, looked⟩, planner.settings.defaultJoinType, ?_⟩⟩
  · simp [Model.joined?, shows.named, looked, unrelated]
  · simp [joinType, Selection.joinType?, Selection.directive?, Selection.argument?,
      shows.unargued, checkedDirective]

/-- Attributes that are not associations are planned as nothing. -/
theorem plans_of_shows {vars : Dict Value} {level : Level} {next : Nat}
    (declared : planner.model.entity? level.entity = some info)
    (shows : ∀ child ∈ selections, info.Shows child) :
    planner.Plans vars level next selections ⟨[], [], next⟩ := by
  induction selections with
  | nil => exact .nil
  | cons child rest inductionHypothesis =>
    rw [List.forall_mem_cons] at shows
    exact .leave (leaves_of_shows declared shows.1) (inductionHypothesis shows.2)

/-- The plan that lists an entity. -/
def listing (entity : String) : Select :=
  { Select.everything entity (rootLevel entity).name with distinct := true }

/-- A field that selects attributes only is planned as a listing. -/
theorem plan_eq_listing {context : PlanContext} {field : Selection}
    (declared : planner.model.entity? entity = some info) (unrelated : context.source? = none)
    (unargued : field.arguments = []) (shows : ∀ child ∈ field.selections, info.Shows child) :
    planner.plan context entity field = .ok (listing entity) := by
  refine plan_eq_ok_iff.2 ⟨[], ⟨[], [], 1⟩, ⟨[], [], 1⟩, [], ?_, ?_, ?_, ?_, ?_, rfl⟩
  · rw [declared]
    rfl
  · refine ownTerms_eq_nil fun child member => ?_
    rw [Selection.argument?, (shows child member).unargued]
    rfl
  · exact plans_of_shows declared shows
  · rw [Selection.filters, unargued]
    rfl
  · rw [sourceConditions, unrelated]

variable {store : Store}

/-- A listing selects every instance of its entity once, in load order. -/
theorem run_listing {refs : List EntityRef} (listed : store.refs entity = .ok refs) :
    (listing entity).run store = .ok (refs.map .entity) := by
  have rows : (listing entity).rows store refs =
      refs.map fun ref => Bindings.bind [] (rootLevel entity).name (.entity ref) := by
    have unjoined (row : Bindings) :
        Join.allRows store (listing entity).root (listing entity).joins row = [row] :=
      rfl
    have unfiltered (row : Bindings) : (listing entity).filter.holds store row = true := rfl
    simp only [Select.rows, unjoined, unfiltered, List.filter_true, List.map_eq_flatMap]
    rfl
  obtain ⟨values, run⟩ : ∃ values, (listing entity).run store = .ok values := by
    refine Select.exists_run listed ⟨_, rfl⟩ (fun _ _ row _ => ⟨_, rfl⟩) (fun row _ => ⟨[], rfl⟩)
      fun row member => ?_
    rw [rows] at member
    obtain ⟨ref, _, rfl⟩ := List.mem_map.1 member
    exact ⟨_, rfl⟩
  obtain ⟨again, relisted, rfl⟩ := Select.eq_project_of_run run
  cases listed.symm.trans relisted
  have projected : (refs.map fun ref =>
      Bindings.bind [] (rootLevel entity).name (.entity ref)).map
        (fun row => row.value (listing entity).projected) = refs.map .entity := by
    rw [List.map_map]
    rfl
  have distinct : (listing entity).distinct = true := rfl
  have unordered : (listing entity).orderBy = [] := rfl
  rw [run, Select.project, if_pos distinct, rows, unordered, OrderTerm.sorted_nil, projected,
    firstAppearances_map_entity, eraseDups_of_nodup (Store.nodup_refs listed)]

/-- The instance of a row, with nothing fetched. -/
def rowInstance (info : Entity) (entity : String) (entry : String × Row) : Instance :=
  ⟨⟨entity, entry.1⟩, Store.plainFields info entry.2⟩

/-- A listing is executed to all rows of its entity, in load order. -/
theorem execute_listing {table : Table} (known : store.tables.get? entity = some table)
    (declared : store.model.entity? entity = some info) :
    store.execute (listing entity) = .ok (table.rows.map (rowInstance info entity)) := by
  have tabled : store.table entity = .ok table := Store.table_eq_ok_iff.2 known
  have listed : store.refs entity = .ok (table.ids.map fun id => ⟨entity, id⟩) := by
    rw [Store.refs, tabled]
    rfl
  refine Store.execute_eq_ok_iff.2 ⟨_, run_listing listed, ?_⟩
  rw [Table.ids, List.map_map, List.map_map, List.mapM_map]
  refine mapM_eq_ok_map ?_
  rintro ⟨id, row⟩ member
  have found : store.row ⟨entity, id⟩ = .ok row :=
    Store.row_eq_ok_iff.2 ⟨table, known, (lookup_eq_some_iff_mem table.distinct).2 member⟩
  have retrieved : store.retrieve ⟨entity, id⟩ = .ok (rowInstance info entity (id, row)) :=
    bind_eq_ok_iff.2 ⟨row, found, by simp only [declared]; rfl⟩
  show store.instanceWith (listing entity).joins (.entity ⟨entity, id⟩) = _
  rw [Store.instanceWith, Store.instanceOf, retrieved]
  rfl

end Planner

end EntityGraph
