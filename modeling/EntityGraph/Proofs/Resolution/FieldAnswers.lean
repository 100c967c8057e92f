import EntityGraph.Proofs.Planning.Fetchable
import EntityGraph.Proofs.Resolution.EagerFetching

/-!
# What a field is answered with after a removal

A field of an instance is answered with what was loaded with the instance or by a query of its
own. A removal may turn one into the other: sub-selections decide which joins stand beside each
other and which of them loads a field last. But either way the field is answered with the
instances that it selects in load order, as long as nothing is ordered by and all joins are left
joins, and either way it can be answered if it could be before the removal.
-/

namespace EntityGraph

/-- Whether a service answers from a store of a consistent model, in which no attribute is filled in
from one that is filled in, and joins by left joins. -/
structure Service.Regular (service : Service) : Prop where
  left : service.settings.defaultJoinType = .left
  obtained : Store.Obtained service.store.model service.store
  consistent : service.store.model.Consistent
  unchained : service.store.model.Unchained

/-- What is known of the instances that a field is answered with, whether they were loaded or
queried. -/
structure Service.Answered (service : Service) (context : PlanContext) (entity : String)
    (selection : Selection) (instances : List Instance) : Prop where
  answers : context.Answers service.store entity selection (instances.map Instance.ref)
  faithful : ∀ inst ∈ instances, inst.Faithful service.store
  canPlan : service.planner.CanPlan context entity selection
  fetchable : service.settings.eagerFetchToOne = true →
    ∀ inst ∈ instances, Selection.AllFetchable service.store inst.ref selection.selections

/-- Whether selections can be resolved on an instance, as far as planning and fetching go. -/
structure Instance.Ready (service : Service) (vars : Dict Value) (selections : List Selection)
    (inst : Instance) : Prop where
  faithful : inst.Faithful service.store
  planned : ∃ level next plan, level.entity = inst.ref.entity ∧
    service.planner.Plans vars level next selections plan
  fetchable : service.settings.eagerFetchToOne = true →
    Selection.AllFetchable service.store inst.ref selections

/-- Whether an instance takes the place of another one that selections can be resolved on. -/
structure Instance.Covers (service : Service) (vars : Dict Value) (selections : List Selection)
    (inst other : Instance) : Prop where
  ready : inst.Ready service vars selections
  faithful : other.Faithful service.store
  sameRef : other.ref = inst.ref

/-- The instances that a field of an instance is answered with before they are fitted to it: what
is loaded, or what is found by a query. -/
def Service.candidates (service : Service) (vars : Dict Value) (source : Instance)
    (entity : String) (selection : Selection) : Except RequestError (List Instance) :=
  match loadedField? source selection with
  | some fetched => .ok fetched.instances
  | none => service.instances ⟨vars, Dict.empty, some source.ref⟩ entity selection

variable {service : Service} {vars : Dict Value} {selections : List Selection}
  {inst other : Instance} {child : Selection} {info : Attribute} {relationship : Relationship}

/-- A field of a faithful instance is resolved to its candidates, fitted to the field. -/
theorem Service.caught_fetchNested (faithful : inst.Faithful service.store)
    (known : service.store.model.attribute? inst.ref.entity child.name = some info)
    (related : info.type.relationship? inst.ref.entity child.name = some relationship) :
    caught (service.resolver.fetchNested vars Dict.empty inst relationship.target child).outcome =
      service.candidates vars inst relationship.target child >>= fun instances =>
        caught (Resolver.fit inst child relationship.cardinality instances).outcome := by
  cases loaded : loadedField? inst child with
  | some fetched =>
    obtain ⟨target?, rfl, unfiltered, held⟩ := faithful.exists_of_loadedField? loaded
    have singular := faithful.singular_of_field? held known related
    rw [Resolver.fetchNested, candidates, loaded, singular]
    cases target? with
    | none =>
      show _ = caught (Resolver.fit inst child .singular []).outcome
      simp only [Resolver.fit, List.isEmpty_nil, unfiltered, Bool.not_false, Bool.and_self, if_true]
      rfl
    | some target => rfl
  | none =>
    rw [Service.outcome_fetchNested service loaded known related, Service.caught_instances_bind,
      candidates, loaded]

namespace Service

variable {context : PlanContext} {entity : String} {selection : Selection}
  {instances others : List Instance}

/-- What a query finds for a field is its answer. -/
theorem answered_of_instances (regular : service.Regular)
    (undirected : Selection.allUndirected selection.selections = true)
    (leads : context.LeadsTo service.store entity selection.name)
    (found : service.instances context entity selection = .ok instances) :
    service.Answered context entity selection instances := by
  obtain ⟨select, planned, executed⟩ := bind_eq_ok_iff.1 found
  rw [mapError_eq_ok_iff] at planned executed
  obtain ⟨left, obtained, consistent, unchained⟩ := regular
  have typed := obtained.wellTyped
  have ends := Planner.ends_execute rfl typed consistent planned leads
  rw [executed] at ends
  obtain ⟨values, run, loaded⟩ := Store.execute_eq_ok_iff.1 executed
  obtain ⟨refs, rfl, answers⟩ := Planner.exists_answer_of_run rfl left obtained consistent
    unchained undirected leads planned run
  have refsEq : instances.map Instance.ref = refs := Store.map_ref_of_mapM_instanceWith loaded
  have fetchable := (Planner.exists_execute_iff planned rfl typed run fun ref member =>
    ((answers.selected ref).1 member).1).1 ⟨instances, executed⟩
  refine ⟨refsEq ▸ answers, fun inst member => (ends inst member).1,
    Planner.canPlan_of_plan planned, fun eager inst member => fetchable eager inst.ref ?_⟩
  rw [← refsEq]
  exact List.mem_map_of_mem member

namespace Answered

/-- Selections can be resolved on what the field is answered with. -/
theorem ready (answered : service.Answered context entity selection instances)
    (member : inst ∈ instances) : inst.Ready service context.vars selection.selections where
  faithful := answered.faithful inst member
  planned := by
    obtain ⟨level, next, plan, ofEntity, planned⟩ := answered.canPlan.below
    have selected := (answered.answers.selected inst.ref).1 (List.mem_map_of_mem member)
    exact ⟨level, next, plan, ofEntity.trans selected.1.1.symm, planned⟩
  fetchable := fun eager => answered.fetchable eager inst member

/-- What answers a field can be found by a query after a removal. -/
theorem exists_instances_without (regular : service.Regular)
    (undirected : Selection.allUndirected selection.selections = true)
    (leads : context.LeadsTo service.store entity selection.name)
    (answered : service.Answered context entity selection instances) (removal : Removal) :
    ∃ others, service.instances context entity (selection.without removal) = .ok others := by
  obtain ⟨left, obtained, consistent, unchained⟩ := regular
  have typed := obtained.wellTyped
  obtain ⟨select, planned⟩ := answered.canPlan.exists_plan_without rfl leads undirected removal
  have leadsToo : context.LeadsTo service.store entity (selection.without removal).name := by
    rwa [Selection.name_without]
  have undirectedToo :
      Selection.allUndirected (selection.without removal).selections = true := by
    rw [Selection.selections_without]
    exact Selection.allUndirected_allWithout _ removal undirected
  obtain ⟨values, run⟩ := Planner.exists_run rfl typed consistent planned leadsToo
  obtain ⟨refs, rfl, answers⟩ := Planner.exists_answer_of_run rfl left obtained consistent
    unchained undirectedToo leadsToo planned run
  obtain rfl := answers.of_without.unique answered.answers
  have executes := Planner.exists_execute_iff planned rfl typed run fun ref member =>
    ((answers.selected ref).1 member).1
  obtain ⟨others, executed⟩ := executes.2 fun eager ref member => by
    obtain ⟨inst, inside, rfl⟩ := List.mem_map.1 member
    rw [Selection.selections_without]
    exact Selection.allFetchable_without _ removal (answered.fetchable eager inst inside)
  exact ⟨others, bind_eq_ok_iff.2 ⟨select, mapError_eq_ok_iff.2 planned,
    mapError_eq_ok_iff.2 executed⟩⟩

/-- What answers a field after a removal takes the place of what answered it before. -/
theorem covers (answered : service.Answered context entity selection instances)
    {removal : Removal}
    (reduced : service.Answered context entity (selection.without removal) others) :
    List.Forall₂ (Instance.Covers service context.vars selection.selections) instances others := by
  have refs : others.map Instance.ref = instances.map Instance.ref :=
    reduced.answers.of_without.unique answered.answers
  have each : List.Forall₂ (fun inst other : Instance => other.ref = inst.ref) instances others := by
    have same := List.forall₂_eq_eq_eq ▸ refs
    rw [List.forall₂_map_left_iff, List.forall₂_map_right_iff] at same
    exact same.flip
  rw [List.forall₂_iff_zip] at each ⊢
  refine ⟨each.1, fun {inst other} member => ?_⟩
  obtain ⟨inside, insideOther⟩ := List.of_mem_zip member
  exact ⟨answered.ready inside, reduced.faithful other insideOther, each.2 member⟩

end Answered

end Service

namespace Instance

variable {removal : Removal}

/-- What is left of selections can be resolved on an instance that takes the place of another
one. -/
theorem Covers.ready_without (covers : inst.Covers service vars selections other)
    (undirected : Selection.allUndirected selections = true) (removal : Removal) :
    other.Ready service vars (Selection.allWithout removal selections) where
  faithful := covers.faithful
  planned := by
    obtain ⟨level, next, plan, ofEntity, planned⟩ := covers.ready.planned
    obtain ⟨reduced, again⟩ := planned.exists_without removal level next rfl undirected
    exact ⟨level, next, reduced, ofEntity.trans (congrArg _ covers.sameRef.symm), again⟩
  fetchable := fun eager => by
    rw [covers.sameRef]
    exact Selection.allFetchable_without selections removal (covers.ready.fetchable eager)

/-- The target that is loaded for a field is the answer to the field. -/
theorem Faithful.answers_of_loaded {store : Store} (faithful : inst.Faithful store)
    (typed : store.WellTyped) (consistent : store.model.Consistent)
    (known : store.model.attribute? inst.ref.entity child.name = some info)
    (related : info.type.relationship? inst.ref.entity child.name = some relationship)
    (unfiltered : child.hasFilters = false) {target? : Option Instance}
    (held : inst.field? child.name = some (.reference target?)) :
    PlanContext.Answers ⟨vars, Dict.empty, some inst.ref⟩ store relationship.target child
      (target?.toList.map Instance.ref) := by
  have leads := faithful.mem_targets_iff typed held
  have free := Selection.filters_eq_nil unfiltered
  have ofTarget {ref : EntityRef}
      (inside : (.entity ref : Value) ∈ store.targets (.entity inst.ref) child.name) :
      ref.entity = relationship.target ∧ store.Stored ref := by
    obtain ⟨_, same, ofTarget, stored⟩ := typed.exists_ref_of_target
      (.inr ⟨inst.ref, rfl, rfl, faithful.stored⟩) known related inside
    cases same
    exact ⟨ofTarget, stored⟩
  refine ⟨?_, fun ref => ?_⟩
  · obtain ⟨_, declared⟩ := consistent.exists_target known related
    obtain ⟨all, listed⟩ := typed.exists_refs declared
    refine ⟨all, listed, ?_⟩
    cases target? with
    | none => exact List.nil_sublist all
    | some target =>
      have isTarget := ofTarget ((leads _).2 ⟨target, rfl, rfl⟩)
      exact List.singleton_sublist.2 ((Store.mem_refs_iff listed).2 isTarget)
  · simp only [List.mem_map, Option.mem_toList, PlanContext.Selects, free, Option.mem_some_iff,
      forall_eq']
    constructor
    · rintro ⟨target, inside, rfl⟩
      have isTarget := (leads _).2 ⟨target, inside, rfl⟩
      exact ⟨ofTarget isTarget, store.model.admits_nil _ _ _, isTarget⟩
    · rintro ⟨_, _, isTarget⟩
      obtain ⟨target, inside, same⟩ := (leads _).1 isTarget
      cases same
      exact ⟨target, inside, rfl⟩

/-- What is found loaded for a field of an instance is its answer. -/
theorem Ready.answered_of_loaded (ready : inst.Ready service vars selections)
    (typed : service.store.WellTyped) (consistent : service.store.model.Consistent)
    (member : child ∈ selections) (named : child.isTypename = false)
    (known : service.store.model.attribute? inst.ref.entity child.name = some info)
    (related : info.type.relationship? inst.ref.entity child.name = some relationship)
    {fetched : Fetched} (loaded : loadedField? inst child = some fetched) :
    service.Answered ⟨vars, Dict.empty, some inst.ref⟩ relationship.target child
      fetched.instances := by
  have faithful := ready.faithful
  obtain ⟨target?, rfl, unfiltered, held⟩ := faithful.exists_of_loadedField? loaded
  obtain ⟨singular, joined⟩ := faithful.joined_of_loaded named known related held
  refine ⟨faithful.answers_of_loaded typed consistent known related unfiltered held,
    fun target inside => ?_, ⟨?_, ?_, ?_⟩, fun eager target inside => ?_⟩
  · obtain rfl := Option.mem_toList.1 inside
    exact faithful.of_reference held
  · exact Option.isSome_iff_exists.2 (consistent.exists_target known related)
  · obtain ⟨level, next, plan, ofEntity, planned⟩ := ready.planned
    exact planned.exists_below_of_mem member (ofEntity ▸ joined)
  · have free := Selection.filters_eq_nil unfiltered
    rw [free]
    exact ⟨⟨0, child.name⟩, 0, _, rfl⟩
  · obtain rfl := Option.mem_toList.1 inside
    have fetchable := (ready.fetchable eager).of_mem member
    exact (Selection.fetchable_iff.1 fetchable relationship joined singular unfiltered).2
      target.ref ((faithful.mem_targets_iff typed held _).2 ⟨target, rfl, rfl⟩)

/-- Whatever a field of an instance is answered with is its answer. -/
theorem Ready.answered_of_candidates (ready : inst.Ready service vars selections)
    (regular : service.Regular)
    (undirected : Selection.allUndirected child.selections = true) (member : child ∈ selections)
    (named : child.isTypename = false)
    (known : service.store.model.attribute? inst.ref.entity child.name = some info)
    (related : info.type.relationship? inst.ref.entity child.name = some relationship)
    {instances : List Instance}
    (found : service.candidates vars inst relationship.target child = .ok instances) :
    service.Answered ⟨vars, Dict.empty, some inst.ref⟩ relationship.target child instances := by
  unfold Service.candidates at found
  cases loaded : loadedField? inst child with
  | none =>
    rw [loaded] at found
    exact Service.answered_of_instances regular undirected
      (PlanContext.leadsTo_target _ rfl ready.faithful.stored known related) found
  | some fetched =>
    rw [loaded] at found
    cases found
    exact ready.answered_of_loaded regular.obtained.wellTyped regular.consistent member named known
      related loaded

/-- If a field has candidates, it has candidates that take their place after a removal. -/
theorem Covers.follows_candidates (covers : inst.Covers service vars selections other)
    (regular : service.Regular)
    (undirected : Selection.allUndirected selections = true) (member : child ∈ selections)
    (kept : removal.removes child.key = false) (named : child.isTypename = false)
    (known : service.store.model.attribute? inst.ref.entity child.name = some info)
    (related : info.type.relationship? inst.ref.entity child.name = some relationship) :
    Follows (List.Forall₂ (Instance.Covers service vars child.selections))
      (service.candidates vars inst relationship.target child)
      (service.candidates vars other relationship.target
        (child.without (removal.below child.key))) := by
  intro instances found
  have undirectedBelow :=
    (Selection.isUndirected_iff.1 (Selection.allUndirected_iff.1 undirected child member)).2
  have answered := covers.ready.answered_of_candidates regular undirectedBelow member named known
    related found
  obtain ⟨others, foundToo⟩ : ∃ others, service.candidates vars other relationship.target
      (child.without (removal.below child.key)) = .ok others := by
    unfold Service.candidates
    cases loadedField? other (child.without (removal.below child.key)) with
    | some fetched => exact ⟨_, rfl⟩
    | none =>
      rw [covers.sameRef]
      exact answered.exists_instances_without regular undirectedBelow
        (PlanContext.leadsTo_target _ rfl covers.ready.faithful.stored known related) _
  have reduced : service.Answered ⟨vars, Dict.empty, some inst.ref⟩ relationship.target
      (child.without (removal.below child.key)) others := by
    have ready := covers.ready_without undirected removal
    have stays := Selection.mem_allWithout member kept
    rw [← covers.sameRef] at known related ⊢
    rw [← Selection.isTypename_without (removal.below child.key)] at named
    rw [← Selection.name_without (removal.below child.key)] at known related
    refine ready.answered_of_candidates regular ?_ stays named known related foundToo
    rw [Selection.selections_without]
    exact Selection.allUndirected_allWithout _ _ undirectedBelow
  exact ⟨others, foundToo, answered.covers reduced⟩

end Instance

/-- A field is fitted with what it keeps in a removal. -/
theorem Resolver.fit_without (source : Instance) (child : Selection) (removal : Removal)
    (cardinality : Cardinality) (instances : List Instance) :
    Resolver.fit source (child.without removal) cardinality instances =
      Resolver.fit source child cardinality instances := by
  cases child
  rfl

/-- A field that is resolved is resolved alike after a removal. -/
theorem Instance.Covers.follows_fetchNested {removal : Removal}
    (covers : inst.Covers service vars selections other)
    (regular : service.Regular)
    (undirected : Selection.allUndirected selections = true) (member : child ∈ selections)
    (kept : removal.removes child.key = false) (named : child.isTypename = false)
    (known : service.store.model.attribute? inst.ref.entity child.name = some info)
    (related : info.type.relationship? inst.ref.entity child.name = some relationship) :
    Follows (Fetched.AlikeOrViolated (Instance.Covers service vars child.selections))
      (caught (service.resolver.fetchNested vars Dict.empty inst relationship.target
        child).outcome)
      (caught (service.resolver.fetchNested vars Dict.empty other relationship.target
        (child.without (removal.below child.key))).outcome) := by
  have candidates := covers.follows_candidates regular undirected member kept named known related
  rw [Service.caught_fetchNested covers.ready.faithful known related]
  rw [← covers.sameRef] at known related
  rw [Service.caught_fetchNested covers.faithful (by rwa [Selection.name_without])
    (by rwa [Selection.name_without])]
  refine candidates.bind fun instances others each => ?_
  rw [Resolver.fit_without]
  exact follows_fit covers.sameRef relationship.cardinality each

end EntityGraph
