import EntityGraph.Proofs.Planning.SelectedRefs
import EntityGraph.Proofs.Store.Mirror

/-!
# What a root field returns

A root field is answered with the instances that meet its filters and satisfy what is
selected below it, each once. Joins that find several matches, the joins of filters and the
ordering leave no trace in this.
-/

namespace EntityGraph

/-- A root field selects precisely the instances that meet its filters and satisfy its selections,
each of them once. -/
theorem root_field_selects_satisfying_instances {store : Store} {settings : FetchSettings}
    {vars : Dict Value} {entity : String} {field : Selection} {plan : Select}
    {instances : List Instance}
    (planned : Planner.plan ⟨store.model, settings⟩ ⟨vars, Dict.empty, none⟩ entity field =
      .ok plan)
    (executed : store.execute plan = .ok instances) :
    (instances.map Instance.ref).Nodup ∧
      ∀ ref, ref ∈ instances.map Instance.ref ↔
        (ref.entity = entity ∧ store.contains ref = true) ∧
        store.model.Admits store ⟨entity, vars, Dict.empty⟩ field.filters (.entity ref) ∧
        Selection.AllSatisfied store settings.defaultJoinType vars entity (.entity ref)
          field.selections := by
  obtain ⟨own, below, filtered, related, _, _, joined, conditioned, restricted, rfl⟩ :=
    Planner.plan_eq_ok_iff.1 planned
  obtain ⟨values, run, loaded⟩ := Store.execute_eq_ok_iff.1 executed
  obtain ⟨refs, projected, distinct, selected⟩ :=
    Planner.exists_refs_of_run rfl joined conditioned restricted run
  have returned : instances.map Instance.ref = refs :=
    Store.map_ref_of_mapM_instanceWith (projected ▸ loaded)
  have unrelated : related = [] := by
    cases restricted
    rfl
  rw [returned]
  refine ⟨distinct, fun ref => ?_⟩
  rw [selected ref, unrelated]
  constructor
  · rintro ⟨present, satisfied, admitted, _⟩
    exact ⟨present, admitted, satisfied⟩
  · rintro ⟨present, admitted, satisfied⟩
    exact ⟨present, satisfied, admitted, by simp⟩

/-- The authors of books with a title. -/
def authorsField : Selection :=
  ⟨"Author", none, [], [⟨"books", none, [⟨"title", .string "x"⟩], [⟨"title", none, [], []⟩]⟩]⟩

/-- The plan for the authors of books with a title. -/
def authorsPlan : Select :=
  (Planner.plan ⟨Store.library.model, ⟨true, .inner⟩⟩ PlanContext.empty "Author"
    authorsField).toOption.getD (.everything "Author" ⟨0, "Author"⟩)

/-- Both authors of the library are looked at, and one of them wrote the book. -/
theorem root_field_selects_author_of_book :
    ∃ instances, Planner.plan ⟨Store.library.model, ⟨true, .inner⟩⟩ ⟨Dict.empty, Dict.empty, none⟩
        "Author" authorsField = .ok authorsPlan ∧
      Store.library.execute authorsPlan = .ok instances ∧
      (instances.map Instance.ref).Nodup ∧
      ∀ ref, ref ∈ instances.map Instance.ref ↔
        (ref.entity = "Author" ∧ Store.library.contains ref = true) ∧
        Store.library.model.Admits Store.library ⟨"Author", Dict.empty, Dict.empty⟩
          authorsField.filters (.entity ref) ∧
        Selection.AllSatisfied Store.library .inner Dict.empty "Author" (.entity ref)
          authorsField.selections := by
  have planned : Planner.plan ⟨Store.library.model, ⟨true, .inner⟩⟩
      ⟨Dict.empty, Dict.empty, none⟩ "Author" authorsField = .ok authorsPlan :=
    eq_ok_of_isOk (by decide +kernel)
  have executed : Store.library.execute authorsPlan =
      .ok ((Store.library.execute authorsPlan).toOption.getD []) :=
    eq_ok_of_isOk (by decide +kernel)
  exact ⟨_, planned, executed, root_field_selects_satisfying_instances planned executed⟩

end EntityGraph
