import EntityGraph.Proofs.Resolution.Soundness

/-!
# Instances that are walked

A response is resolved by walking from instances to what is fetched for their fields. Every
instance on the way is faithful, and since the plan that selected it joined its selections, it
satisfies them. So an association that is joined, but by no left join, has a target that meets
the filters of its field, and the target is found when the field is fetched: loaded with the
instance, or selected by a plan for the field.
-/

namespace EntityGraph

/-- Whether an instance is as it is stored, and satisfies what is selected on it. -/
structure Instance.Walked (store : Store) (standard : JoinType) (vars : Dict Value)
    (selections : List Selection) (inst : Instance) : Prop where
  faithful : inst.Faithful store
  satisfied : Selection.AllSatisfied store standard vars inst.ref.entity (.entity inst.ref)
    selections

/-- What comes of a field that is sure to have an instance: at least one, the only one, or too
many of them for an association to one. -/
inductive Fetched.Found (source : EntityRef) (attr : String) :
    Cardinality → Except CardinalityViolation Fetched → Prop where
  | list {inst : Instance} {rest : List Instance} :
    Found source attr .plural (.ok (.list (inst :: rest)))
  | object {inst : Instance} : Found source attr .singular (.ok (.object (some inst)))
  | several {rows : Nat} (several : 2 ≤ rows) :
    Found source attr .singular (.error ⟨source.entity, attr, rows⟩)

/-! ## Fields that are loaded -/

namespace Instance.Faithful

variable {store : Store} {standard : JoinType} {vars : Dict Value} {inst : Instance}
  {child : Selection} {info : Attribute} {relationship : Relationship}

/-- The targets that a faithful instance leads to are what is loaded on it. -/
theorem mem_targets_iff (typed : store.WellTyped)
    (faithful : inst.Faithful store) {attr : String} {target? : Option Instance}
    (held : inst.field? attr = some (.reference target?)) (value : Value) :
    value ∈ store.targets (.entity inst.ref) attr ↔
      ∃ target ∈ target?, value = .entity target.ref := by
  have stored := faithful.stored
  obtain ⟨info, relationship, known, related, _, found⟩ := faithful.exists_association held
  rw [← mem_firstAppearances_iff fun value member => by
    obtain ⟨ref, same, _⟩ := typed.exists_ref_of_target (.inr ⟨inst.ref, rfl, rfl, stored⟩) known
      related member
    exact ⟨ref, same⟩, found]
  cases target? <;> simp

/-- The target that is loaded for a field satisfies what is selected below it. -/
theorem satisfied_of_loaded (typed : store.WellTyped) (faithful : inst.Faithful store)
    (satisfied : child.Satisfied store standard vars inst.ref.entity (.entity inst.ref))
    (joined : store.model.joined? inst.ref.entity child = some relationship)
    (unfiltered : child.hasFilters = false) {target : Instance}
    (held : inst.field? child.name = some (.reference (some target))) :
    Selection.AllSatisfied store standard vars relationship.target (.entity target.ref)
      child.selections := by
  have free := Selection.filters_eq_nil unfiltered
  have leads := faithful.mem_targets_iff typed held
  rcases (Selection.satisfied_iff joined).1 satisfied with
    ⟨value, member, _, below⟩ | ⟨_, none, _⟩
  · obtain ⟨found, present, rfl⟩ := (leads value).1 member
    cases present
    exact below
  · refine absurd ?_ (none _ ((leads _).2 ⟨target, rfl, rfl⟩))
    rw [free]
    exact store.model.admits_nil store _ _

/-- What is loaded is the target of an association to one, which is joined. -/
theorem joined_of_loaded (faithful : inst.Faithful store) (named : child.isTypename = false)
    (known : store.model.attribute? inst.ref.entity child.name = some info)
    (related : info.type.relationship? inst.ref.entity child.name = some relationship)
    {target? : Option Instance} (held : inst.field? child.name = some (.reference target?)) :
    relationship.cardinality = .singular ∧
      store.model.joined? inst.ref.entity child = some relationship := by
  have singular := faithful.singular_of_field? held known related
  exact ⟨singular, Model.joined?_eq_some_iff.2 ⟨named, ⟨info, known, related⟩, .inl singular⟩⟩

end Instance.Faithful

/-! ## Fields that are queried -/

/-- Rows that do not fit a field with at most one target violate its cardinality. -/
theorem caught_fit_of_unfit {source : Instance} {child : Selection} {instances : List Instance}
    (several : ∀ inst, instances ≠ [inst])
    (unfit : (instances.isEmpty && !child.hasFilters) = false) :
    caught (Resolver.fit source child .singular instances).outcome =
      .ok (.error ⟨source.ref.entity, child.name, instances.length⟩) := by
  unfold Resolver.fit
  split
  · next impossible => cases impossible
  · next inst _ => exact absurd rfl (several inst)
  · rw [unfit]
    rfl

/-- Rows that are made into a field are among its instances. -/
theorem mem_of_fit {source : Instance} {child : Selection} {cardinality : Cardinality}
    {instances : List Instance} {fetched : Fetched}
    (fitted : (Resolver.fit source child cardinality instances).outcome = .ok fetched)
    {inst : Instance} (member : inst ∈ fetched.instances) : inst ∈ instances := by
  unfold Resolver.fit at fitted
  split at fitted
  · cases fitted
    exact member
  · cases fitted
    exact member
  · split at fitted
    · cases fitted
      cases member
    · cases fitted

/-- A field with rows finds one of them at least, or too many. -/
theorem found_of_fit {source : Instance} {child : Selection} {cardinality : Cardinality}
    {inst : Instance} {rest : List Instance}
    {result : Except CardinalityViolation Fetched}
    (fitted : caught (Resolver.fit source child cardinality (inst :: rest)).outcome =
      .ok result) :
    Fetched.Found source.ref child.name cardinality result := by
  cases cardinality with
  | plural =>
    cases fitted
    exact .list
  | singular =>
    cases rest with
    | nil =>
      cases fitted
      exact .object
    | cons second rest =>
      rw [caught_fit_of_unfit (by simp) (by simp)] at fitted
      cases fitted
      exact .several (Nat.le_add_left 2 rest.length)

namespace Service

variable {service : Service} {context : PlanContext} {entity : String} {selection : Selection}
  {instances : List Instance}

/-- The instances of a field can be walked. -/
theorem walked_of_instances
    (found : service.instances context entity selection = .ok instances)
    (typed : service.store.WellTyped) (consistent : service.store.model.Consistent)
    (leads : context.LeadsTo service.store entity selection.name) {inst : Instance}
    (member : inst ∈ instances) :
    inst.Walked service.store service.settings.defaultJoinType context.vars
      selection.selections ∧ inst.ref.entity = entity := by
  obtain ⟨select, planned, executed⟩ := bind_eq_ok_iff.1 found
  rw [mapError_eq_ok_iff] at planned executed
  have ends := Planner.ends_execute rfl typed consistent planned leads
  rw [executed] at ends
  obtain ⟨faithful, ofEntity⟩ := ends inst member
  obtain ⟨_, _, _, selected⟩ := Planner.exists_conditions_of_execute planned executed rfl
  have satisfied := ((selected inst.ref).1 (List.mem_map_of_mem member)).2.1
  refine ⟨⟨faithful, ?_⟩, ofEntity⟩
  rw [ofEntity]
  exact satisfied

/-- A target of a source is an instance of its field if it meets the filters of the field and
satisfies what is selected below. -/
theorem exists_instance_of_target (obtained : Store.Obtained service.store.model service.store)
    (consistent : service.store.model.Consistent) {source : EntityRef} {info : Attribute}
    {relationship : Relationship} (present : service.store.Stored source)
    (given : context.source? = some source)
    (known : service.store.model.attribute? source.entity selection.name = some info)
    (related : info.type.relationship? source.entity selection.name = some relationship)
    (found : service.instances context relationship.target selection = .ok instances)
    {target : Value} (member : target ∈ service.store.targets (.entity source) selection.name)
    (admitted : service.store.model.Admits service.store
      ⟨relationship.target, context.vars, context.arguments⟩ selection.filters target)
    (satisfied : Selection.AllSatisfied service.store service.settings.defaultJoinType
      context.vars relationship.target target selection.selections) :
    ∃ inst ∈ instances, target = .entity inst.ref := by
  obtain ⟨select, planned, executed⟩ := bind_eq_ok_iff.1 found
  rw [mapError_eq_ok_iff] at planned executed
  obtain ⟨next, conditions, restricted, selected⟩ :=
    Planner.exists_conditions_of_execute planned executed rfl
  obtain ⟨condition, restricting, only⟩ :=
    service.planner.exists_sourceConditions context given known related
      (Planner.rootLevel relationship.target).name next
  rw [restricted] at only
  cases only
  obtain ⟨ref, rfl, ofTarget, stored⟩ := obtained.wellTyped.exists_ref_of_target
    (.inr ⟨source, rfl, rfl, present⟩) known related member
  have among : ref ∈ instances.map Instance.ref := by
    refine (selected ref).2 ⟨⟨ofTarget, stored⟩, satisfied, admitted, ?_⟩
    intro only inside
    obtain rfl := List.mem_singleton.1 inside
    exact Model.holds_parentCondition_of_mem obtained consistent present known related restricting
      (Bindings.lookup_bind_self [] _ (.entity ref)) member
  obtain ⟨inst, inside, rfl⟩ := List.mem_map.1 among
  exact ⟨inst, inside, rfl⟩

end Service

/-! ## Steps of a walk -/

namespace Instance.Walked

variable {service : Service} {vars : Dict Value} {selections : List Selection} {inst : Instance}
  {child : Selection} {info : Attribute} {relationship : Relationship}

/-- What a field of an instance that is walked was resolved to can be walked further. -/
theorem walked_of_fetchNested (typed : service.store.WellTyped)
    (consistent : service.store.model.Consistent)
    (walked : inst.Walked service.store service.settings.defaultJoinType vars selections)
    (member : child ∈ selections) (named : child.isTypename = false)
    (known : service.store.model.attribute? inst.ref.entity child.name = some info)
    (related : info.type.relationship? inst.ref.entity child.name = some relationship)
    {fetched : Fetched}
    (resolved : (service.resolver.fetchNested vars Dict.empty inst relationship.target
      child).outcome = .ok fetched) {target : Instance} (inside : target ∈ fetched.instances) :
    target.Walked service.store service.settings.defaultJoinType vars child.selections ∧
      target.ref.entity = relationship.target := by
  have faithful := walked.faithful
  cases loaded : loadedField? inst child with
  | some found =>
    rw [Resolver.fetchNested, loaded] at resolved
    cases resolved
    obtain ⟨target?, rfl, unfiltered, held⟩ := faithful.exists_of_loadedField? loaded
    obtain rfl := Option.mem_toList.1 inside
    obtain ⟨_, joined⟩ := faithful.joined_of_loaded named known related held
    obtain ⟨_, same, ofTarget, _⟩ := typed.exists_ref_of_target
      (.inr ⟨inst.ref, rfl, rfl, faithful.stored⟩) known related
      ((faithful.mem_targets_iff typed held _).2 ⟨target, rfl, rfl⟩)
    cases same
    refine ⟨⟨faithful.of_reference held, ?_⟩, ofTarget⟩
    rw [ofTarget]
    exact faithful.satisfied_of_loaded typed (walked.satisfied.of_mem member) joined unfiltered
      held
  | none =>
    rw [Service.outcome_fetchNested service loaded known related] at resolved
    obtain ⟨instances, found, fitted⟩ := bind_eq_ok_iff.1 resolved
    exact Service.walked_of_instances found typed consistent
      (PlanContext.leadsTo_target ⟨vars, Dict.empty, some inst.ref⟩ rfl faithful.stored known
        related) (mem_of_fit fitted inside)

/-- A field that is joined, but by no left join, finds what its instance leads to. -/
theorem found_of_fetchNested (obtained : Store.Obtained service.store.model service.store)
    (consistent : service.store.model.Consistent)
    (walked : inst.Walked service.store service.settings.defaultJoinType vars selections)
    (member : child ∈ selections)
    (joined : service.store.model.joined? inst.ref.entity child = some relationship)
    (required : ¬ child.IsLeft service.settings.defaultJoinType)
    {result : Except CardinalityViolation Fetched}
    (resolved : caught (service.resolver.fetchNested vars Dict.empty inst relationship.target
      child).outcome = .ok result) :
    Fetched.Found inst.ref child.name relationship.cardinality result := by
  have typed := obtained.wellTyped
  have faithful := walked.faithful
  obtain ⟨named, ⟨info, known, related⟩, _⟩ := Model.joined?_eq_some_iff.1 joined
  obtain ⟨target, leads, admitted, satisfied⟩ :=
    ((Selection.satisfied_iff joined).1 (walked.satisfied.of_mem member)).resolve_right
      fun left => required left.1
  cases loaded : loadedField? inst child with
  | some found =>
    rw [Resolver.fetchNested, loaded] at resolved
    cases resolved
    obtain ⟨target?, rfl, _, held⟩ := faithful.exists_of_loadedField? loaded
    obtain ⟨singular, _⟩ := faithful.joined_of_loaded named known related held
    obtain ⟨only, present, _⟩ := (faithful.mem_targets_iff typed held target).1 leads
    cases present
    rw [singular]
    exact .object
  | none =>
    rw [Service.outcome_fetchNested service loaded known related,
      Service.caught_instances_bind] at resolved
    obtain ⟨instances, found, fitted⟩ := bind_eq_ok_iff.1 resolved
    obtain ⟨first, inside, _⟩ := Service.exists_instance_of_target obtained consistent
      faithful.stored rfl known related found leads admitted satisfied
    cases instances with
    | nil => cases inside
    | cons inst rest => exact found_of_fit fitted

end Instance.Walked

end EntityGraph
