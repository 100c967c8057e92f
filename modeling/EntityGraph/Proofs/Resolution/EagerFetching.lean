import EntityGraph.Proofs.Resolution.Counterparts

/-!
# Fetching associations to one changes no response

A field that is found loaded would also be found by a query of its own: the query is
restricted to the one target, and the target satisfies what is selected below the field,
since the source was selected by a plan that joined it. So a response does not depend on
whether associations to one are fetched with their source.
-/

namespace EntityGraph

variable {store : Store} {standard : JoinType} {vars : Dict Value} {inst bare : Instance}
  {child : Selection} {rest : List Selection} {info : Attribute} {relationship : Relationship}

/-- Nothing is found loaded on an instance that was only retrieved. -/
theorem loadedField?_of_retrieve {ref : EntityRef} (retrieved : store.retrieve ref = .ok bare) :
    loadedField? bare child = none := by
  unfold loadedField?
  split
  · rfl
  · cases held : bare.field? child.name with
    | none => rfl
    | some field =>
      obtain ⟨value, rfl⟩ := Instance.Faithful.exists_value_of_retrieve retrieved held
      rfl

/-! ## Fields that are loaded -/

/-- What is selected below a joined field is planned. -/
theorem Instance.Counterpart.exists_plans_below
    (same : inst.Counterpart store standard vars (child :: rest) bare)
    (joined : store.model.joined? inst.ref.entity child = some relationship) :
    ∃ level next plan, level.entity = relationship.target ∧
      Planner.Plans (store.serving standard true).planner vars level next child.selections
        plan := by
  obtain ⟨level, next, plan, entity, planned⟩ := same.planned
  exact planned.exists_below_of_mem List.mem_cons_self (by rw [entity]; exact joined)

/-- The target that is loaded for a field has a counterpart for what is selected below it. -/
theorem Instance.Counterpart.exists_of_loaded (typed : store.WellTyped)
    (same : inst.Counterpart store standard vars (child :: rest) bare)
    (known : store.model.attribute? inst.ref.entity child.name = some info)
    (related : info.type.relationship? inst.ref.entity child.name = some relationship)
    (joined : store.model.joined? inst.ref.entity child = some relationship)
    (unfiltered : child.hasFilters = false) {target : Instance}
    (held : inst.field? child.name = some (.reference (some target))) :
    ∃ bareTarget, store.retrieve target.ref = .ok bareTarget ∧
      target.Counterpart store standard vars child.selections bareTarget := by
  have faithful := same.faithful.of_reference held
  obtain ⟨bareTarget, retrieved, _⟩ := faithful.exists_retrieve
  have member : (.entity target.ref : Value) ∈ store.targets (.entity inst.ref) child.name :=
    (same.faithful.mem_targets_iff typed held _).2 ⟨target, rfl, rfl⟩
  obtain ⟨_, equal, ofTarget, _⟩ := typed.exists_ref_of_target
    (.inr ⟨inst.ref, rfl, rfl, same.faithful.stored⟩) known related member
  cases equal
  refine ⟨bareTarget, retrieved, faithful, retrieved, ?_, ?_, ?_⟩
  · rw [ofTarget]
    exact same.faithful.satisfied_of_loaded typed same.satisfied.1 joined unfiltered held
  · rw [ofTarget]
    exact same.exists_plans_below joined
  · rw [ofTarget]
    exact (same.unordered.1.of_joined joined).2

/-- Without fetches an unfiltered field of a source is planned if what is selected below it is
planned with them. -/
theorem exists_plan_of_source (consistent : store.model.Consistent) (context : PlanContext)
    {source : EntityRef} (given : context.source? = some source)
    (known : store.model.attribute? source.entity child.name = some info)
    (related : info.type.relationship? source.entity child.name = some relationship)
    (unfiltered : child.hasFilters = false)
    (unordered : ∀ below ∈ child.selections, below.argument? orderByName = none)
    (planned : ∃ level next plan, level.entity = relationship.target ∧
      Planner.Plans (store.serving standard true).planner context.vars level next
        child.selections plan) :
    ∃ select, (store.serving standard false).planner.plan context relationship.target child =
      .ok select := by
  have free := Selection.filters_eq_nil unfiltered
  obtain ⟨level, next, plan, entity, planned⟩ := planned
  obtain ⟨below, joined⟩ := planned.exists_unfetched (Planner.rootLevel relationship.target) 1
    entity.symm
  obtain ⟨target, declared⟩ := consistent.exists_target known related
  obtain ⟨condition, _, restricted⟩ :=
    Planner.exists_sourceConditions (store.serving standard false).planner context given known
      related (Planner.rootLevel relationship.target).name below.next
  refine ⟨_, Planner.plan_eq_ok_iff.2 ⟨[], below, ⟨[], [], below.next⟩, _, ?_,
    Planner.ownTerms_eq_nil unordered, joined, ?_, restricted, rfl⟩⟩
  · exact Option.isSome_iff_exists.2 ⟨target, declared⟩
  · rw [free]
    rfl

/-- The plan of an unfiltered field of a source selects the targets of the source that satisfy what
is selected below the field. -/
theorem exists_run_of_source {planner : Planner} (sameModel : planner.model = store.model)
    (obtained : Store.Obtained store.model store) (consistent : store.model.Consistent)
    (unchained : store.model.Unchained) {context : PlanContext} {source : EntityRef}
    (given : context.source? = some source) (present : store.Stored source)
    (known : store.model.attribute? source.entity child.name = some info)
    (related : info.type.relationship? source.entity child.name = some relationship)
    (unfiltered : child.hasFilters = false) {select : Select}
    (planned : planner.plan context relationship.target child = .ok select) :
    ∃ refs : List EntityRef, select.run store = .ok (refs.map .entity) ∧ refs.Nodup ∧
      ∀ ref, ref ∈ refs ↔
        (.entity ref : Value) ∈ store.targets (.entity source) child.name ∧
        Selection.AllSatisfied store planner.settings.defaultJoinType context.vars
          relationship.target (.entity ref) child.selections := by
  have typed := obtained.wellTyped
  have free := Selection.filters_eq_nil unfiltered
  obtain ⟨values, run⟩ := Planner.exists_run sameModel typed consistent planned
    (context.leadsTo_target given present known related)
  obtain ⟨own, below, filtered, conditions, _, _, joined, conditioned, restricted, rfl⟩ :=
    Planner.plan_eq_ok_iff.1 planned
  obtain ⟨refs, rfl, distinct, selected⟩ :=
    Planner.exists_refs_of_run sameModel joined conditioned restricted run
  obtain ⟨condition, restricting, only⟩ :=
    planner.exists_sourceConditions context given (sameModel ▸ known) related
      (Planner.rootLevel relationship.target).name filtered.next
  rw [restricted] at only
  cases only
  rw [sameModel] at restricting
  refine ⟨refs, run, distinct, fun ref => ?_⟩
  have holds (ofTarget : ref.entity = relationship.target) (stored : store.Stored ref) :=
    Model.holds_parentCondition_iff obtained consistent unchained present known related
      restricting (Bindings.lookup_bind_self [] _ (.entity ref)) stored ofTarget
  rw [selected ref, free]
  simp only [List.mem_singleton, forall_eq]
  constructor
  · rintro ⟨⟨ofTarget, stored⟩, satisfied, _, met⟩
    exact ⟨(holds ofTarget stored).1 met, satisfied⟩
  · rintro ⟨member, satisfied⟩
    obtain ⟨found, same, ofTarget, stored⟩ := typed.exists_ref_of_target
      (.inr ⟨source, rfl, rfl, present⟩) known related member
    cases same
    exact ⟨⟨ofTarget, stored⟩, satisfied, store.model.admits_nil store _ _,
      (holds ofTarget stored).2 member⟩

/-- Without fetches a field that is loaded is queried to what is loaded. -/
theorem Instance.Counterpart.instances_of_loaded
    (obtained : Store.Obtained store.model store) (consistent : store.model.Consistent)
    (unchained : store.model.Unchained)
    (same : inst.Counterpart store standard vars (child :: rest) bare)
    (named : child.isTypename = false)
    (known : store.model.attribute? inst.ref.entity child.name = some info)
    (related : info.type.relationship? inst.ref.entity child.name = some relationship)
    (unfiltered : child.hasFilters = false) {target? : Option Instance}
    (held : inst.field? child.name = some (.reference target?)) :
    (store.serving standard false).instances ⟨vars, Dict.empty, some inst.ref⟩
        relationship.target child =
      (target?.toList.mapM fun target => store.retrieve target.ref).mapError .execution := by
  have typed := obtained.wellTyped
  have leads := same.faithful.mem_targets_iff typed held
  obtain ⟨singular, joined⟩ := same.faithful.joined_of_loaded named known related held
  obtain ⟨select, planned⟩ := exists_plan_of_source consistent
    ⟨vars, Dict.empty, some inst.ref⟩ rfl known related unfiltered
    ((same.unordered.1.of_joined joined).1 singular) (same.exists_plans_below joined)
  obtain ⟨refs, run, distinct, selected⟩ := exists_run_of_source rfl obtained consistent unchained
    rfl same.faithful.stored known related unfiltered planned
  have onlyTarget : refs = target?.toList.map Instance.ref := by
    cases target? with
    | none =>
      refine List.eq_nil_iff_forall_not_mem.2 fun ref member => ?_
      obtain ⟨target, impossible, _⟩ := (leads _).1 ((selected ref).1 member).1
      cases impossible
    | some target =>
      have satisfied :=
        same.faithful.satisfied_of_loaded typed same.satisfied.1 joined unfiltered held
      refine List.perm_singleton.1 ((List.perm_ext_iff_of_nodup distinct
        (List.nodup_singleton _)).2 fun ref => ?_)
      rw [selected ref, List.mem_singleton, leads]
      constructor
      · rintro ⟨⟨found, present, same⟩, _⟩
        cases present
        cases same
        rfl
      · rintro rfl
        exact ⟨⟨target, rfl, rfl⟩, satisfied⟩
  rw [Service.instances, planned]
  show (store.execute select).mapError _ = _
  rw [Planner.execute_of_run planned run, onlyTarget, List.mapM_map]
  rfl

/-- A field that is loaded is queried to the same target. -/
theorem Instance.Counterpart.exists_queried_of_loaded
    (obtained : Store.Obtained store.model store) (consistent : store.model.Consistent)
    (unchained : store.model.Unchained)
    (same : inst.Counterpart store standard vars (child :: rest) bare)
    (named : child.isTypename = false)
    (known : store.model.attribute? inst.ref.entity child.name = some info)
    (related : info.type.relationship? inst.ref.entity child.name = some relationship)
    {fetched : Fetched} (loaded : loadedField? inst child = some fetched) :
    ∃ queried, ((store.serving standard false).resolver.fetchNested vars Dict.empty bare
        relationship.target child).outcome = .ok queried ∧
      Fetched.Alike (Instance.Counterpart store standard vars child.selections) fetched
        queried := by
  obtain ⟨target?, rfl, unfiltered, held⟩ := same.faithful.exists_of_loadedField? loaded
  obtain ⟨singular, joined⟩ := same.faithful.joined_of_loaded named known related held
  have bareRef := Store.ref_of_retrieve same.retrieved
  rw [Service.outcome_fetchNested _ (loadedField?_of_retrieve same.retrieved)
    (bareRef.symm ▸ known) (bareRef.symm ▸ related), bareRef, singular,
    same.instances_of_loaded obtained consistent unchained named known related unfiltered held]
  cases target? with
  | none =>
    refine ⟨.object none, ?_, .none⟩
    show (Resolver.fit bare child .singular []).outcome = _
    simp [Resolver.fit, unfiltered]
  | some target =>
    obtain ⟨bareTarget, retrieved, alike⟩ :=
      same.exists_of_loaded obtained.wellTyped known related joined unfiltered held
    refine ⟨.object (some bareTarget), ?_, .some alike⟩
    rw [Option.toList_some, List.mapM_cons, List.mapM_nil, retrieved]
    rfl

/-! ## Fields that are queried -/

/-- The rows of a field fit it alike with and without what is fetched. -/
theorem follows_fit {alike : Instance → Instance → Prop} {source other : Instance}
    (sameRef : other.ref = source.ref) (cardinality : Cardinality)
    {instances others : List Instance} (each : List.Forall₂ alike instances others) :
    Follows (Fetched.AlikeOrViolated alike)
      (caught (Resolver.fit source child cardinality instances).outcome)
      (caught (Resolver.fit other child cardinality others).outcome) := by
  cases cardinality with
  | plural => exact .ok (.ok (.list each))
  | singular =>
    cases each with
    | nil =>
      cases filtered : child.hasFilters with
      | false =>
        simp only [Resolver.fit, filtered]
        exact .ok (.ok .none)
      | true =>
        rw [caught_fit_of_unfit (by simp) (by simp [filtered]),
          caught_fit_of_unfit (by simp) (by simp [filtered]), sameRef]
        exact .ok (.violated _)
    | cons first remaining =>
      cases remaining with
      | nil => exact .ok (.ok (.some first))
      | cons second remaining =>
        rw [caught_fit_of_unfit (by simp) (by simp), caught_fit_of_unfit (by simp) (by simp),
          sameRef, List.length_cons, List.length_cons, List.length_cons, List.length_cons,
          remaining.length_eq]
        exact .ok (.violated _)

/-- A field is resolved alike with and without what is fetched. -/
theorem Instance.Counterpart.follows_fetchNested
    (obtained : Store.Obtained store.model store) (consistent : store.model.Consistent)
    (unchained : store.model.Unchained)
    (same : inst.Counterpart store standard vars (child :: rest) bare)
    (named : child.isTypename = false)
    (known : store.model.attribute? inst.ref.entity child.name = some info)
    (related : info.type.relationship? inst.ref.entity child.name = some relationship) :
    Follows (Fetched.AlikeOrViolated (Instance.Counterpart store standard vars child.selections))
      (caught ((store.serving standard true).resolver.fetchNested vars Dict.empty inst
        relationship.target child).outcome)
      (caught ((store.serving standard false).resolver.fetchNested vars Dict.empty bare
        relationship.target child).outcome) := by
  cases loaded : loadedField? inst child with
  | some fetched =>
    obtain ⟨queried, resolved, alike⟩ :=
      same.exists_queried_of_loaded obtained consistent unchained named known related loaded
    rw [resolved, Resolver.fetchNested, loaded]
    exact .ok (.ok alike)
  | none =>
    have bareRef := Store.ref_of_retrieve same.retrieved
    have leads := PlanContext.leadsTo_target ⟨vars, Dict.empty, some inst.ref⟩ rfl
      same.faithful.stored known related
    rw [Service.outcome_fetchNested _ loaded known related,
      Service.outcome_fetchNested _ (loadedField?_of_retrieve same.retrieved)
        (bareRef.symm ▸ known) (bareRef.symm ▸ related), bareRef,
      Service.caught_instances_bind, Service.caught_instances_bind]
    exact (follows_instances obtained consistent leads
      (same.unordered.1.below named known related)).bind fun instances others each =>
        follows_fit bareRef relationship.cardinality each

/-! ## Responses -/

/-- What a field was resolved to is resolved further alike. -/
theorem follows_resolveFetched {resolver other : Resolver} {alike : Instance → Instance → Prop}
    (members : ∀ {inst bare : Instance}, alike inst bare →
      Follows Eq (resolver.resolveMembers vars inst child.selections).outcome
        (other.resolveMembers vars bare child.selections).outcome)
    {fetched queried : Fetched} (same : Fetched.Alike alike fetched queried) :
    Follows Eq (resolver.resolveFetched vars fetched child).outcome
      (other.resolveFetched vars queried child).outcome := by
  rw [Resolver.resolveFetched_eq, Resolver.resolveFetched_eq]
  cases same with
  | list each =>
    simp only [Trace.outcome_bind, Trace.outcome_mapM]
    exact (Follows.mapM (each.imp fun _ _ => members)).andThen fun items => .refl _
  | none => exact .refl _
  | some same =>
    simp only [Trace.outcome_bind]
    exact (members same).andThen fun resolved => .refl _

/-- Faithful instances of one reference have the same values of attributes that are no
associations. -/
theorem Instance.Faithful.attributeData_eq {store : Store} {inst other : Instance}
    (faithful : inst.Faithful store) (faithfulOther : other.Faithful store)
    (sameRef : other.ref = inst.ref) {attr : String} {info : Attribute}
    (known : store.model.attribute? inst.ref.entity attr = some info)
    (unrelated : info.type.relationship? inst.ref.entity attr = none) :
    Resolver.attributeData other attr = Resolver.attributeData inst attr := by
  obtain ⟨plain, retrieved, kept⟩ := faithful.exists_retrieve
  obtain ⟨again, retrievedToo, keptToo⟩ := faithfulOther.exists_retrieve
  rw [sameRef, retrieved] at retrievedToo
  cases retrievedToo
  have unloaded {loaded : Instance} (faithful : loaded.Faithful store)
      (same : loaded.ref = inst.ref) (target? : Option Instance) :
      loaded.field? attr ≠ some (.reference target?) := by
    intro held
    obtain ⟨_, _, knownAgain, related, _⟩ := faithful.exists_association held
    rw [same] at knownAgain related
    rw [known] at knownAgain
    cases knownAgain
    rw [unrelated] at related
    cases related
  rw [Resolver.attributeData, Resolver.attributeData, Instance.value?, Instance.value?,
    kept attr (unloaded faithful rfl), keptToo attr (unloaded faithfulOther sameRef)]

/-- An attribute that is no association has the same value with and without what is fetched. -/
theorem Instance.Counterpart.attributeData_eq
    (same : inst.Counterpart store standard vars (child :: rest) bare)
    (known : store.model.attribute? inst.ref.entity child.name = some info)
    (unrelated : info.type.relationship? inst.ref.entity child.name = none) :
    Resolver.attributeData inst child.name = Resolver.attributeData bare child.name :=
  (same.faithful.attributeData_eq (.of_retrieve same.retrieved)
    (Store.ref_of_retrieve same.retrieved) known unrelated).symm

/-- A selection is resolved alike with and without what is fetched. -/
theorem Instance.Counterpart.follows_resolveMember
    (obtained : Store.Obtained store.model store) (consistent : store.model.Consistent)
    (unchained : store.model.Unchained)
    (same : inst.Counterpart store standard vars (child :: rest) bare)
    (below : ∀ {inst bare : Instance},
      inst.Counterpart store standard vars child.selections bare →
        Follows Eq ((store.serving standard true).resolver.resolveMembers vars inst
          child.selections).outcome ((store.serving standard false).resolver.resolveMembers vars
          bare child.selections).outcome) :
    Follows Eq ((store.serving standard true).resolver.resolveMember vars inst child).outcome
      ((store.serving standard false).resolver.resolveMember vars bare child).outcome := by
  have bareRef := Store.ref_of_retrieve same.retrieved
  rw [Resolver.resolveMember, Resolver.resolveMember, bareRef]
  cases named : child.isTypename with
  | true =>
    rw [if_pos rfl, if_pos rfl]
    exact .refl _
  | false =>
    simp only [Bool.false_eq_true, if_false, Trace.outcome_bind, Trace.outcome_planned]
    refine Follows.after fun info looked => ?_
    have known : store.model.attribute? inst.ref.entity child.name = some info :=
      Model.lookupAttribute_eq_ok_iff.1 (mapError_eq_ok_iff.1 looked)
    cases related : info.type.relationship? inst.ref.entity child.name with
    | none =>
      rw [same.attributeData_eq known related]
      exact .refl _
    | some relationship =>
      simp only [Trace.outcome_bind, Trace.outcome_orViolation]
      refine (same.follows_fetchNested obtained consistent unchained named known related).bind
        fun result other alike => ?_
      cases alike with
      | ok alike => exact follows_resolveFetched below alike
      | violated violation => exact .refl _

/-- Selections are resolved alike with and without what is fetched. -/
theorem follows_resolveMembers (obtained : Store.Obtained store.model store)
    (consistent : store.model.Consistent) (unchained : store.model.Unchained)
    (selections : List Selection) : ∀ {inst bare : Instance},
      inst.Counterpart store standard vars selections bare →
        Follows Eq ((store.serving standard true).resolver.resolveMembers vars inst
          selections).outcome
          ((store.serving standard false).resolver.resolveMembers vars bare selections).outcome := by
  induction selections using Selection.listInduction with
  | nil =>
    intro inst bare same
    rw [Resolver.resolveMembers, Resolver.resolveMembers]
    exact .refl _
  | cons name key? arguments selections rest below beside =>
    intro inst bare same
    rw [Resolver.resolveMembers_cons, Resolver.resolveMembers_cons]
    simp only [Trace.outcome_bind]
    refine (same.follows_resolveMember obtained consistent unchained below).andThen
      fun resolved => ?_
    exact (beside same.rest).andThen fun others => .refl _

/-- Whether nothing directly below an association to one is ordered by, anywhere in a request. -/
def Request.UnorderedToOne (model : Model) (request : Request) : Prop :=
  ∀ field ∈ request.fields, field.isTypename = false →
    Selection.AllUnorderedToOne model field.name field.selections
deriving Decidable

/-- A root field is resolved alike with and without what is fetched. -/
theorem follows_resolveRoot (obtained : Store.Obtained store.model store)
    (consistent : store.model.Consistent) (unchained : store.model.Unchained) {field : Selection}
    (unordered : field.isTypename = false →
      Selection.AllUnorderedToOne store.model field.name field.selections) :
    Follows Eq ((store.serving standard true).resolver.resolveRoot vars field).outcome
      ((store.serving standard false).resolver.resolveRoot vars field).outcome := by
  rw [Resolver.resolveRoot, Resolver.resolveRoot]
  cases named : field.isTypename with
  | true =>
    rw [if_pos rfl, if_pos rfl]
    exact .refl _
  | false =>
    simp only [Bool.false_eq_true, if_false, Trace.outcome_bind]
    rw [Service.outcome_fetchRoot, Service.outcome_fetchRoot, bind_assoc, bind_assoc]
    refine (follows_instances obtained consistent (by rintro source ⟨⟩) (unordered named)).bind
      fun instances others each => ?_
    exact follows_resolveFetched (follows_resolveMembers obtained consistent unchained _)
      (.list each)

/-- A response that is given when associations to one are fetched with their source is also given
when they are not. -/
theorem eager_response_is_lazy_response {model : Model} {store : Store} {standard : JoinType}
    {request : Request} {response : Resolved} (consistent : model.Consistent)
    (unchained : model.Unchained) (obtained : Store.Obtained model store)
    (unordered : request.UnorderedToOne model)
    (answered : (Service.query ⟨⟨true, standard⟩, store⟩ request).outcome = .ok response) :
    (Service.query ⟨⟨false, standard⟩, store⟩ request).outcome = .ok response := by
  obtain rfl := obtained.model_eq
  have follows : Follows Eq ((store.serving standard true).query request).outcome
      ((store.serving standard false).query request).outcome := by
    rw [Service.query, Service.query, Resolver.answer, Resolver.answer]
    simp only [Trace.outcome_bind, Trace.outcome_planned, Trace.outcome_mapM]
    refine Follows.after fun vars _ => ?_
    refine Follows.andThen (Follows.mapM (List.forall₂_same.2 fun field member => ?_))
      fun members => .refl _
    exact (follows_resolveRoot obtained consistent unchained (unordered field member)).andThen
      fun resolved => .refl _
  obtain ⟨_, done, rfl⟩ := follows response answered
  exact done

/-- Books with their authors and the books of those. -/
def booksRequest : Request :=
  ⟨[⟨"Book", none, [], [⟨"title", none, [], []⟩, ⟨"author", none, [], [⟨"id", none, [], []⟩,
    ⟨"books", none, [], [⟨"title", none, [⟨"orderBy", .enum "DESC"⟩], []⟩]⟩]⟩]⟩], Dict.empty⟩

/-- Books are answered alike whether their authors are fetched with them or after them. -/
theorem eager_books_are_lazy_books :
    ∃ response, booksRequest.UnorderedToOne Model.library ∧
      (Service.query ⟨⟨true, .inner⟩, Store.library⟩ booksRequest).outcome = .ok response ∧
      (Service.query ⟨⟨false, .inner⟩, Store.library⟩ booksRequest).outcome = .ok response := by
  have answered : (Service.query ⟨⟨true, .inner⟩, Store.library⟩ booksRequest).outcome =
      .ok ((Service.query ⟨⟨true, .inner⟩, Store.library⟩ booksRequest).outcome.toOption.getD
        (.leaf .null)) :=
    eq_ok_of_isOk (by decide +kernel)
  have unordered : booksRequest.UnorderedToOne Model.library := by
    decide +kernel
  exact ⟨_, unordered, answered, eager_response_is_lazy_response consistent_library
    unchained_library obtained_library unordered answered⟩

end EntityGraph
