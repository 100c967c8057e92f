import EntityGraph.Proofs.Planning.Totality

/-!
# What is loaded is what is stored

An instance that a plan returns is faithful: its attributes have their stored values, and
what was fetched onto it is the one target that the store leads to, again faithful, or
nothing if there is none. Loading fails only if a fetch finds more than one target.
-/

namespace EntityGraph

/-- Whether a failure is a fetch that found more than one target. -/
def ExecutionError.IsNonUnique (error : ExecutionError) : Prop :=
  ∃ source attr, error = .nonUniqueFetch source attr

/-- What a field holds after it was given its content. -/
theorem lookup_setField (name other : String) (field : Field) (fields : List (String × Field)) :
    (setField name field fields).lookup other =
      if other = name then some field else fields.lookup other := by
  induction fields with
  | nil => simp [setField, lookup_cons_eq]
  | cons entry rest inductionHypothesis =>
    obtain ⟨first, old⟩ := entry
    rw [setField]
    split
    · next same =>
      subst same
      rw [lookup_cons_eq, lookup_cons_eq]
      by_cases same : other = first <;> simp [same]
    · next different =>
      rw [lookup_cons_eq, lookup_cons_eq, inductionHypothesis]
      by_cases same : other = name
      · subst same
        simp [Ne.symm different]
      · simp [same]

namespace Instance

/-- Whether an instance is as it is stored, as far as it is loaded. -/
inductive Faithful (store : Store) : Instance → Prop where
  | intro {inst plain : Instance} (retrieved : store.retrieve inst.ref = .ok plain)
      (kept : ∀ attr, (∀ target?, inst.field? attr ≠ some (.reference target?)) →
        inst.field? attr = plain.field? attr)
      (leads : ∀ attr target?, inst.field? attr = some (.reference target?) →
        ∃ info relationship, store.model.attribute? inst.ref.entity attr = some info ∧
          info.type.relationship? inst.ref.entity attr = some relationship ∧
          relationship.cardinality = .singular ∧
          firstAppearances (store.targets (.entity inst.ref) attr) =
            (target?.map fun target => .entity target.ref).toList)
      (below : ∀ attr target, inst.field? attr = some (.reference (some target)) →
        Faithful store target) :
      Faithful store inst

namespace Faithful

variable {store : Store} {inst plain : Instance} {attr : String}

/-- A retrieved instance has values only. -/
theorem exists_value_of_retrieve {ref : EntityRef} (retrieved : store.retrieve ref = .ok plain)
    {field : Field} (held : plain.field? attr = some field) : ∃ value, field = .value value := by
  simp only [Store.retrieve, bind_eq_ok_iff] at retrieved
  obtain ⟨row, _, found⟩ := retrieved
  split at found
  · next entity _ =>
    cases found
    obtain ⟨before, after, split, _⟩ := List.lookup_eq_some_iff.1 held
    have member : (attr, field) ∈ (Instance.mk ref (Store.plainFields entity row)).fields := by
      rw [split]
      simp
    obtain ⟨_, _, same⟩ := List.mem_map.1 member
    cases same
    exact ⟨_, rfl⟩
  · cases found

/-- A retrieved instance is faithful. -/
theorem of_retrieve {ref : EntityRef} (retrieved : store.retrieve ref = .ok plain) :
    plain.Faithful store := by
  have same := Store.ref_of_retrieve retrieved
  have noReference {attr : String} {target? : Option Instance}
      (held : plain.field? attr = some (.reference target?)) : False := by
    obtain ⟨value, impossible⟩ := exists_value_of_retrieve retrieved held
    cases impossible
  have again : store.retrieve plain.ref = .ok plain := by rw [same, retrieved]
  refine .intro again (fun _ _ => rfl) (fun attr target? held => ?_) fun attr target held => ?_
  · exact (noReference held).elim
  · exact (noReference held).elim

/-- A faithful instance can be retrieved, and has the fields of what is retrieved apart from what
was fetched. -/
theorem exists_retrieve (faithful : inst.Faithful store) :
    ∃ plain, store.retrieve inst.ref = .ok plain ∧
      ∀ attr, (∀ target?, inst.field? attr ≠ some (.reference target?)) →
        inst.field? attr = plain.field? attr := by
  obtain ⟨retrieved, kept, _, _⟩ := faithful
  exact ⟨_, retrieved, kept⟩

/-- A faithful instance is stored. -/
theorem stored (faithful : inst.Faithful store) : store.Stored inst.ref := by
  obtain ⟨plain, retrieved, _⟩ := faithful.exists_retrieve
  obtain ⟨row, found, _⟩ := bind_eq_ok_iff.1 retrieved
  exact Store.contains_iff.2 ⟨row, found⟩

/-- What was fetched is what an association to one leads to. -/
theorem exists_association (faithful : inst.Faithful store) {target? : Option Instance}
    (held : inst.field? attr = some (.reference target?)) :
    ∃ info relationship, store.model.attribute? inst.ref.entity attr = some info ∧
      info.type.relationship? inst.ref.entity attr = some relationship ∧
      relationship.cardinality = .singular ∧
      firstAppearances (store.targets (.entity inst.ref) attr) =
        (target?.map fun target => .entity target.ref).toList := by
  obtain ⟨_, _, leads, _⟩ := faithful
  exact leads attr target? held

/-- A field that was fetched is that of an association to one. -/
theorem singular_of_field? (faithful : inst.Faithful store) {target? : Option Instance}
    (held : inst.field? attr = some (.reference target?)) {info : Attribute}
    {relationship : Relationship}
    (known : store.model.attribute? inst.ref.entity attr = some info)
    (related : info.type.relationship? inst.ref.entity attr = some relationship) :
    relationship.cardinality = .singular := by
  obtain ⟨_, _, knownAgain, relatedAgain, singular, _⟩ := faithful.exists_association held
  rw [known] at knownAgain
  cases knownAgain
  rw [related] at relatedAgain
  cases relatedAgain
  exact singular

/-- What was fetched is faithful. -/
theorem of_reference (faithful : inst.Faithful store) {target : Instance}
    (held : inst.field? attr = some (.reference (some target))) : target.Faithful store := by
  obtain ⟨_, _, _, below⟩ := faithful
  exact below attr target held

/-- An instance stays faithful when its only target along an association is loaded onto it. -/
theorem withReference (faithful : inst.Faithful store) {info : Attribute}
    {relationship : Relationship}
    (known : store.model.attribute? inst.ref.entity attr = some info)
    (related : info.type.relationship? inst.ref.entity attr = some relationship)
    (singular : relationship.cardinality = .singular) {target? : Option Instance}
    (found : firstAppearances (store.targets (.entity inst.ref) attr) =
      (target?.map fun target => .entity target.ref).toList)
    (each : ∀ target ∈ target?, target.Faithful store) :
    (inst.withField attr (.reference target?)).Faithful store := by
  obtain ⟨retrieved, kept, leads, below⟩ := faithful
  have field (other : String) : (inst.withField attr (.reference target?)).field? other =
      if other = attr then some (.reference target?) else inst.field? other :=
    lookup_setField attr other _ _
  refine .intro retrieved (fun other absent => ?_) (fun other found? held => ?_)
    fun other target held => ?_
  all_goals
    by_cases same : other = attr
  · exact absurd (by rw [field, if_pos same]) (absent target?)
  · rw [field, if_neg same]
    exact kept other fun target? held => absent target? (by rw [field, if_neg same, held])
  · rw [field, if_pos same] at held
    cases held
    subst same
    exact ⟨info, relationship, known, related, singular, found⟩
  · rw [field, if_neg same] at held
    exact leads other found? held
  · rw [field, if_pos same] at held
    cases held
    exact each target rfl
  · rw [field, if_neg same] at held
    exact below other target held

end Faithful

end Instance

/-- The field that is fetched for an association to one holds its only target. -/
theorem ends_fetchedField {source : EntityRef} {attr : String} {instances : List Instance} :
    Ends ExecutionError.IsNonUnique
      (fun field => ∃ target? : Option Instance,
        field = .reference target? ∧ instances = target?.toList)
      (fetchedField source attr .singular instances) := by
  match instances with
  | [] => exact ⟨none, rfl, rfl⟩
  | [target] => exact ⟨some target, rfl, rfl⟩
  | _ :: _ :: _ => exact ⟨source, attr, rfl⟩

/-- A fetch has no condition if the association has no filters. -/
theorem Model.eq_none_of_joinCondition? {model : Model} {scope : ArgumentScope} {target : Alias}
    {child : Selection} {on? : Option Expr} (unfiltered : child.hasFilters = false)
    (conditioned : model.joinCondition? scope target child.filters = .ok on?) : on? = none := by
  have free := Selection.filters_eq_nil unfiltered
  rw [free] at conditioned
  cases conditioned
  rfl

/-- A fetch along an association to one leaves a faithful instance faithful if its targets are. -/
theorem Join.ends_load_fetch {store : Store} (typed : store.WellTyped) {inst : Instance}
    (faithful : inst.Faithful store) {attr : String} {info : Attribute}
    {relationship : Relationship}
    (known : store.model.attribute? inst.ref.entity attr = some info)
    (related : info.type.relationship? inst.ref.entity attr = some relationship)
    (singular : relationship.cardinality = .singular) {target : Alias} {type : JoinType}
    {joins : List Join}
    (below : ∀ value ∈ store.targets (.entity inst.ref) attr,
      Ends ExecutionError.IsNonUnique (Instance.Faithful store)
        (store.instanceWith joins value)) :
    Ends ExecutionError.IsNonUnique
      (fun loaded => loaded.Faithful store ∧ loaded.ref = inst.ref)
      (Join.load store inst ⟨attr, target, .fetch, type, none, joins⟩) := by
  have binds : store.Binds inst.ref.entity (.entity inst.ref) :=
    .inr ⟨inst.ref, rfl, rfl, faithful.stored⟩
  have association : store.relationship? inst.ref.entity attr = .ok (some relationship) :=
    Store.relationship?_eq_ok_iff.2 ⟨info, known, related⟩
  have references : ∀ value ∈ store.targets (.entity inst.ref) attr,
      ∃ ref, value = .entity ref := fun value member => by
    obtain ⟨ref, equal, _⟩ := typed.exists_ref_of_target binds known related member
    exact ⟨ref, equal⟩
  rw [load_fetch_eq, association, typed.navigate_of_binds binds known]
  show Ends _ _ ((firstAppearances (store.targets (.entity inst.ref) attr)).mapM
    (store.instanceWith joins) >>= _)
  cases loading : (firstAppearances (store.targets (.entity inst.ref) attr)).mapM
      (store.instanceWith joins) with
  | error error =>
    have ends := Ends.mapM fun value member =>
      below value ((mem_firstAppearances_iff references).1 member)
    rw [loading] at ends
    exact ends
  | ok instances =>
    have ends := Ends.mapM fun value member =>
      below value ((mem_firstAppearances_iff references).1 member)
    rw [loading] at ends
    rw [singular]
    refine ends_fetchedField.bind fun field fitting => ?_
    obtain ⟨target?, rfl, all⟩ := fitting
    refine ⟨faithful.withReference known related singular ?_ fun target member => ?_, rfl⟩
    · rw [Store.eq_map_of_mapM_instanceWith loading, all]
      cases target? <;> rfl
    · exact ends target (by rw [all]; simpa using member)

namespace Planner.Plans

variable {planner : Planner} {vars : Dict Value} {level : Level} {next : Nat}
  {selections : List Selection} {plan : LevelPlan} {store : Store}

/-- What the joins of a plan load onto a faithful instance leaves it faithful. -/
theorem ends_loadAll (planned : planner.Plans vars level next selections plan)
    (same : planner.model = store.model) (typed : store.WellTyped) {inst : Instance}
    (faithful : inst.Faithful store) (ofLevel : inst.ref.entity = level.entity) :
    Ends ExecutionError.IsNonUnique (Instance.Faithful store)
      (Join.loadAll store inst plan.joins) := by
  induction planned generalizing inst with
  | nil => exact faithful
  | leave _ _ inductionHypothesis => exact inductionHypothesis faithful ofLevel
  | @join level next child rest relationship type own nested others on? joined typedJoin ordered
      planned conditioned remaining beneath beside =>
    rw [same] at joined conditioned
    obtain ⟨_, ⟨info, known, related⟩, _⟩ := Model.joined?_eq_some_iff.1 joined
    have first : Ends ExecutionError.IsNonUnique
        (fun loaded => loaded.Faithful store ∧ loaded.ref = inst.ref)
        (Join.load store inst
          (planner.joinFor level next child relationship type on? nested.joins)) := by
      cases fetches : planner.settings.fetches level.loaded child relationship with
      | false =>
        simp only [joinFor, fetches, Bool.false_eq_true, if_false, Join.load]
        exact ⟨faithful, rfl⟩
      | true =>
        obtain ⟨_, _, unfiltered, singular⟩ := FetchSettings.fetches_eq_true_iff.1 fetches
        have free := Model.eq_none_of_joinCondition? unfiltered conditioned
        rw [← ofLevel] at known related
        simp only [joinFor, fetches, if_true, free]
        refine Join.ends_load_fetch typed faithful known related singular fun value member => ?_
        obtain ⟨ref, rfl, ofTarget, present⟩ := typed.exists_ref_of_target
          (.inr ⟨inst.ref, rfl, rfl, faithful.stored⟩) known related member
        obtain ⟨plain, retrieved⟩ := typed.exists_retrieve present
        rw [Store.instanceWith, Store.instanceOf, retrieved]
        exact beneath (.of_retrieve retrieved) (by rw [Store.ref_of_retrieve retrieved, ofTarget]; rfl)
    rw [Join.loadAll]
    refine first.bind fun loaded result => ?_
    exact beside result.1 (by rw [result.2, ofLevel])

end Planner.Plans

/-- The joins of filters load nothing. -/
theorem Model.loadAll_rootConditions {model : Model} {scope : ArgumentScope} {root : Alias}
    {next : Nat} {filters : List Argument} {filtered : RootConditions}
    (planned : model.rootConditions scope root next filters = .ok filtered) (store : Store)
    (inst : Instance) : Join.loadAll store inst filtered.joins = .ok inst := by
  induction filters generalizing next filtered with
  | nil =>
    cases planned
    rfl
  | cons filter rest inductionHypothesis =>
    obtain ⟨info, value, others, _, ⟨_, remaining, rfl⟩ | ⟨_, remaining, rfl⟩⟩ :=
      rootConditions_cons_eq_ok_iff.1 planned
    all_goals
      have others := inductionHypothesis remaining
    · exact others
    · rw [Join.plain, Join.loadAll, Join.load]
      exact others

namespace Planner

variable {planner : Planner} {context : PlanContext} {entity : String} {selection : Selection}
  {plan : Select} {store : Store}

/-- What the plan of a field is executed to: faithful instances of the entity, unless a fetch
finds more than one target. -/
theorem ends_execute (same : planner.model = store.model) (typed : store.WellTyped)
    (consistent : store.model.Consistent)
    (planned : planner.plan context entity selection = .ok plan)
    (leads : context.LeadsTo store entity selection.name) :
    Ends ExecutionError.IsNonUnique
      (fun instances : List Instance => ∀ inst ∈ instances,
        inst.Faithful store ∧ inst.ref.entity = entity)
      (store.execute plan) := by
  obtain ⟨values, run⟩ := exists_run same typed consistent planned leads
  obtain ⟨own, below, filtered, related, _, _, joined, conditioned, restricted, rfl⟩ :=
    plan_eq_ok_iff.1 planned
  obtain ⟨refs, rfl, _, selected⟩ := exists_refs_of_run same joined conditioned restricted run
  rw [Store.execute, run]
  show Ends _ _ ((refs.map Value.entity).mapM (store.instanceWith (below.joins ++ filtered.joins)))
  refine Ends.mapM fun value member => ?_
  obtain ⟨ref, inside, rfl⟩ := List.mem_map.1 member
  obtain ⟨ofEntity, present⟩ := ((selected ref).1 inside).1
  obtain ⟨plain, retrieved⟩ := typed.exists_retrieve present
  have ofLevel : plain.ref.entity = (rootLevel entity).entity := by
    rw [Store.ref_of_retrieve retrieved, ofEntity]
    rfl
  have loaded := joined.ends_loadAll same typed (.of_retrieve retrieved) ofLevel
  rw [Store.instanceWith, Store.instanceOf, retrieved]
  show Ends _ _ (Join.loadAll store plain (below.joins ++ filtered.joins))
  rw [Join.loadAll_append]
  cases loading : Join.loadAll store plain below.joins with
  | error error =>
    rw [loading] at loaded
    exact loaded
  | ok inst =>
    rw [loading] at loaded
    show Ends _ _ (Join.loadAll store inst filtered.joins)
    rw [Model.loadAll_rootConditions conditioned]
    exact ⟨loaded, by rw [Join.ref_of_loadAll loading, ofLevel]; rfl⟩

end Planner

end EntityGraph
