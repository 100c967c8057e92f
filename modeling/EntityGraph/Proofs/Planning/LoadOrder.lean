import EntityGraph.Proofs.Planning.Unfetched
import EntityGraph.Proofs.Request.Removal

/-!
# Plans without directives

Where nothing is ordered by and every association is joined by a left join, what is selected
below a field has no say in what the field is answered with: a left join keeps every instance,
and without an ordering the instances come in the order in which they were loaded. So a field
is answered with the instances that meet its filters and that its source leads to, in load
order, and there is only one such answer.
-/

namespace EntityGraph

/-! ## Selections without directives -/

variable {store : Store} {vars : Dict Value}

/-- Every binding satisfies selections that are all joined by left joins. -/
theorem Selection.allSatisfied_of_undirected (selections : List Selection) :
    ∀ (entity : String) (binding : Value), Selection.allUndirected selections = true →
      Selection.AllSatisfied store .left vars entity binding selections := by
  induction selections using Selection.listInduction with
  | nil => exact fun _ _ _ => trivial
  | cons name key? arguments selections rest below beside =>
    intro entity binding undirected
    rw [Selection.allUndirected, Bool.and_eq_true] at undirected
    refine ⟨?_, beside entity binding undirected.2⟩
    cases joined : store.model.joined? entity ⟨name, key?, arguments, selections⟩ with
    | none => exact Selection.satisfied_of_unjoined joined
    | some relationship =>
      have undirectedBelow := (Selection.isUndirected_iff.1 undirected.1).2
      rw [Selection.satisfied_iff joined]
      by_cases found : ∃ target ∈ store.targets binding name,
          store.model.Admits store ⟨relationship.target, vars, Dict.empty⟩
            (Selection.filters ⟨name, key?, arguments, selections⟩) target
      · obtain ⟨target, member, admitted⟩ := found
        exact .inl ⟨target, member, admitted, below _ _ undirectedBelow⟩
      · refine .inr ⟨⟨none, Selection.joinType?_of_undirected undirected.1, rfl⟩, ?_,
          below _ _ undirectedBelow⟩
        intro target member admitted
        exact found ⟨target, member, admitted⟩

/-- Selections without directives order by nothing. -/
theorem Selection.allUnorderedToOne_of_undirected {model : Model} (selections : List Selection) :
    ∀ entity : String, Selection.allUndirected selections = true →
      Selection.AllUnorderedToOne model entity selections := by
  induction selections using Selection.listInduction with
  | nil => exact fun _ _ => trivial
  | cons name key? arguments selections rest below beside =>
    intro entity undirected
    rw [Selection.allUndirected, Bool.and_eq_true] at undirected
    have undirectedBelow := (Selection.isUndirected_iff.1 undirected.1).2
    refine ⟨?_, beside entity undirected.2⟩
    rw [Selection.UnorderedToOne]
    refine fun relationship _ => ⟨fun _ child member => ?_, below _ undirectedBelow⟩
    exact Selection.argument?_orderBy (Selection.allUndirected_iff.1 undirectedBelow child member)

/-- Selections without directives add nothing to the ordering. -/
theorem Planner.ownTerms_of_undirected {planner : Planner} {level : Level}
    {selection : Selection} (undirected : Selection.allUndirected selection.selections = true) :
    planner.ownTerms level selection = .ok [] :=
  ownTerms_eq_nil fun child member =>
    Selection.argument?_orderBy (Selection.allUndirected_iff.1 undirected child member)

/-! ## Answers -/

/-- A part of a list without repetitions is known by what it has. -/
theorem eq_filter_of_sublist {α : Type} [DecidableEq α] {part all : List α} (distinct : all.Nodup)
    (inOrder : part.Sublist all) : part = all.filter fun item => item ∈ part := by
  induction inOrder with
  | slnil => rfl
  | cons item inOrder inductionHypothesis =>
    obtain ⟨absent, distinct⟩ := List.nodup_cons.1 distinct
    rw [List.filter_cons_of_neg (by simpa using fun member => absent (inOrder.subset member))]
    exact inductionHypothesis distinct
  | cons_cons item inOrder inductionHypothesis =>
    obtain ⟨absent, distinct⟩ := List.nodup_cons.1 distinct
    rw [List.filter_cons_of_pos (by simp)]
    refine congrArg _ ((inductionHypothesis distinct).trans ?_)
    refine List.filter_congr fun other member => ?_
    simp [ne_of_mem_of_not_mem member absent]

namespace PlanContext

variable {context : PlanContext} {entity : String} {selection : Selection}

/-- Whether a field selects an instance whatever is selected below the field: the instance is one
of the entity, it meets the filters of the field, and the source leads to it, if there is one. -/
def Selects (context : PlanContext) (store : Store) (entity : String) (selection : Selection)
    (ref : EntityRef) : Prop :=
  (ref.entity = entity ∧ store.Stored ref) ∧
    store.model.Admits store ⟨entity, context.vars, context.arguments⟩ selection.filters
      (.entity ref) ∧
    ∀ source ∈ context.source?,
      (.entity ref : Value) ∈ store.targets (.entity source) selection.name

/-- The answer to a field: the instances that it selects, in the order in which they were
loaded. -/
structure Answers (context : PlanContext) (store : Store) (entity : String)
    (selection : Selection) (refs : List EntityRef) : Prop where
  inOrder : ∃ all, store.refs entity = .ok all ∧ refs.Sublist all
  selected : ∀ ref, ref ∈ refs ↔ context.Selects store entity selection ref

/-- A field has one answer. -/
theorem Answers.unique {refs others : List EntityRef}
    (first : context.Answers store entity selection refs)
    (second : context.Answers store entity selection others) : refs = others := by
  obtain ⟨all, listed, inOrder⟩ := first.inOrder
  obtain ⟨again, listedAgain, othersInOrder⟩ := second.inOrder
  obtain rfl : all = again := Except.ok.inj (listed.symm.trans listedAgain)
  have distinct := Store.nodup_refs listed
  rw [eq_filter_of_sublist distinct inOrder, eq_filter_of_sublist distinct othersInOrder]
  refine List.filter_congr fun ref _ => ?_
  rw [decide_eq_decide, first.selected, second.selected]

/-- What is removed below a field does not change its answer. -/
theorem Answers.of_without {removal : Removal} {refs : List EntityRef}
    (answers : context.Answers store entity (selection.without removal) refs) :
    context.Answers store entity selection refs := by
  refine ⟨answers.inOrder, fun ref => (answers.selected ref).trans ?_⟩
  rw [Selects, Selects, Selection.filters_without, Selection.name_without]

end PlanContext

namespace Planner

variable {planner : Planner} {context : PlanContext} {entity : String} {selection : Selection}

/-- The conditions of a context hold for what the source leads to. -/
theorem holds_sourceConditions_iff (sameModel : planner.model = store.model)
    (obtained : Store.Obtained store.model store) (consistent : store.model.Consistent)
    (unchained : store.model.Unchained) {attr : String}
    (leads : context.LeadsTo store entity attr) {root : Alias} {next : Nat} {related : List Expr}
    (restricted : planner.sourceConditions context attr root next = .ok related) {row : Bindings}
    {ref : EntityRef} (bound : row.lookup root.index = some (.entity ref))
    (present : ref.entity = entity ∧ store.Stored ref) :
    (∀ condition ∈ related, condition.holds store row = true) ↔
      ∀ source ∈ context.source?, (.entity ref : Value) ∈ store.targets (.entity source) attr := by
  cases given : context.source? with
  | none =>
    rw [sourceConditions, given] at restricted
    cases restricted
    simp
  | some source =>
    obtain ⟨stored, info, relationship, known, association, rfl⟩ := leads source given
    obtain ⟨condition, restricting, only⟩ := planner.exists_sourceConditions context given
      (sameModel ▸ known) association root next
    rw [restricted] at only
    cases only
    rw [sameModel] at restricting
    simp [Model.holds_parentCondition_iff obtained consistent unchained stored known association
      restricting bound present.2 present.1]

variable {own : List LeveledTerm} {below : LevelPlan} {filtered : RootConditions}
  {related : List Expr} {refs : List EntityRef}

/-- Without an ordering a plan projects instances in the order in which they were loaded. -/
theorem sublist_of_run
    (planned : planner.Plans context.vars (rootLevel entity) 1 selection.selections below)
    (conditioned : planner.model.rootConditions ⟨entity, context.vars, context.arguments⟩
      (rootLevel entity).name below.next selection.filters = .ok filtered)
    (unordered : own ++ below.ordering = [])
    (run : (assemble entity own below filtered related).run store = .ok (refs.map .entity)) :
    ∃ all, store.refs entity = .ok all ∧ refs.Sublist all := by
  obtain ⟨all, listed, projected⟩ := Select.eq_project_of_run run
  refine ⟨all, listed, ?_⟩
  let passes (row : Bindings) : Bool :=
    (Expr.conjunction (filtered.conditions ++ related)).holds store row
  let rowsOf (ref : EntityRef) : List Bindings :=
    (Join.allRows store (rootLevel entity).name (below.joins ++ filtered.joins)
      (rootRow entity ref)).filter passes
  have rooted (ref : EntityRef) :
      (rowsOf ref).map (fun row => row.value (rootLevel entity).name) =
        ((rowsOf ref).map fun _ => ref).map Value.entity := by
    rw [List.map_map]
    refine List.map_congr_left fun row member => ?_
    exact value_root_of_joined planned conditioned (List.mem_of_mem_filter member)
  have values : refs.map Value.entity = firstAppearances
      ((all.flatMap fun ref => (rowsOf ref).map fun _ => ref).map .entity) := by
    rw [projected, Select.project, assemble, unordered]
    simp only [orderingOf, sortStable, List.foldl_nil, List.reverse_nil, List.map_nil, if_true,
      OrderTerm.sorted_nil, Select.rows, List.filter_flatMap, List.map_flatMap]
    exact congrArg firstAppearances (List.flatMap_congr fun ref _ => rooted ref)
  rw [firstAppearances_map_entity] at values
  rw [List.map_injective_iff.2 (fun _ _ => Value.entity.inj) values]
  refine eraseDups_flatMap_sublist (fun ref copy member => ?_) (Store.nodup_refs listed)
  obtain ⟨_, _, same⟩ := List.mem_map.1 member
  exact same.symm

/-- Without directives the plan of a field selects the answer to the field. -/
theorem exists_answer_of_run (sameModel : planner.model = store.model)
    (left : planner.settings.defaultJoinType = .left)
    (obtained : Store.Obtained store.model store) (consistent : store.model.Consistent)
    (unchained : store.model.Unchained)
    (undirected : Selection.allUndirected selection.selections = true)
    (leads : context.LeadsTo store entity selection.name) {select : Select}
    (planned : planner.plan context entity selection = .ok select) {values : List Value}
    (run : select.run store = .ok values) :
    ∃ refs : List EntityRef, values = refs.map .entity ∧
      context.Answers store entity selection refs := by
  obtain ⟨own, below, filtered, related, _, ordered, joined, conditioned, restricted, rfl⟩ :=
    plan_eq_ok_iff.1 planned
  obtain ⟨refs, rfl, _, selected⟩ :=
    exists_refs_of_run sameModel joined conditioned restricted run
  have unordered : own ++ below.ordering = [] := by
    rw [ownTerms_of_undirected undirected] at ordered
    cases ordered
    exact joined.ordering_eq_nil (Selection.allUnorderedToOne_of_undirected _ _ undirected)
  refine ⟨refs, rfl, sublist_of_run joined conditioned unordered run, fun ref => ?_⟩
  have started : (rootRow entity ref).lookup (rootLevel entity).name.index = some (.entity ref) :=
    Bindings.lookup_bind_self _ _ _
  rw [selected ref, left]
  refine and_congr_right fun present => ?_
  rw [holds_sourceConditions_iff sameModel obtained consistent unchained leads restricted started
    present]
  exact and_iff_right (Selection.allSatisfied_of_undirected _ _ _ undirected)

end Planner

end EntityGraph
