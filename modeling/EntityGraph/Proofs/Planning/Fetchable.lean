import EntityGraph.Proofs.Planning.Reduced

/-!
# Which fetches succeed

Loading fails where a fetch finds more than one target. Whether that happens does not depend
on the plan, only on the instance and on what is selected on it: each unfiltered association
to one has to lead to one target at most, and so on from there. A plan that was executed shows
that its fetches succeed; and then they succeed in any other plan for the same selections, and
after a removal.
-/

namespace EntityGraph

mutual

/-- Whether a selection can be fetched onto an instance, should it be fetched. -/
def Selection.Fetchable (store : Store) (source : EntityRef) : Selection → Prop
  | ⟨name, key?, arguments, selections⟩ =>
    ∀ relationship,
      store.model.joined? source.entity ⟨name, key?, arguments, selections⟩ = some relationship →
      relationship.cardinality = .singular →
      Selection.hasFilters ⟨name, key?, arguments, selections⟩ = false →
        (∀ left ∈ store.targets (.entity source) name,
          ∀ right ∈ store.targets (.entity source) name, left = right) ∧
        ∀ target : EntityRef, (.entity target : Value) ∈ store.targets (.entity source) name →
          Selection.AllFetchable store target selections

/-- Whether several selections can be fetched onto an instance. -/
def Selection.AllFetchable (store : Store) (source : EntityRef) : List Selection → Prop
  | [] => True
  | child :: rest => child.Fetchable store source ∧ Selection.AllFetchable store source rest

end

variable {store : Store}

namespace Selection

variable {source : EntityRef} {child : Selection} {selections : List Selection}

/-- What it takes to fetch a selection. -/
theorem fetchable_iff :
    child.Fetchable store source ↔ ∀ relationship,
      store.model.joined? source.entity child = some relationship →
      relationship.cardinality = .singular → child.hasFilters = false →
        (∀ left ∈ store.targets (.entity source) child.name,
          ∀ right ∈ store.targets (.entity source) child.name, left = right) ∧
        ∀ target : EntityRef, (.entity target : Value) ∈ store.targets (.entity source) child.name →
          AllFetchable store target child.selections := by
  obtain ⟨name, key?, arguments, selections⟩ := child
  rw [Fetchable]

/-- If several selections can be fetched, each of them can. -/
theorem AllFetchable.of_mem (fetchable : AllFetchable store source selections)
    (member : child ∈ selections) : child.Fetchable store source := by
  induction selections with
  | nil => cases member
  | cons first rest inductionHypothesis =>
    rcases List.mem_cons.1 member with rfl | member
    · exact fetchable.1
    · exact inductionHypothesis fetchable.2 member

/-- What is left of selections that can be fetched can be fetched. -/
theorem allFetchable_without (selections : List Selection) :
    ∀ (removal : Removal) {source : EntityRef}, AllFetchable store source selections →
      AllFetchable store source (allWithout removal selections) := by
  induction selections using Selection.listInduction with
  | nil => exact fun _ _ _ => trivial
  | cons name key? arguments selections rest below beside =>
    intro removal source fetchable
    cases removed : removal.removes (Selection.key ⟨name, key?, arguments, selections⟩) with
    | true =>
      rw [allWithout_cons_of_removed removed]
      exact beside removal fetchable.2
    | false =>
      rw [allWithout_cons_of_kept removed]
      refine ⟨fetchable_iff.2 ?_, beside removal fetchable.2⟩
      intro relationship joined singular unfiltered
      rw [hasFilters_without] at unfiltered
      rw [name_without, selections_without]
      obtain ⟨single, further⟩ := fetchable_iff.1 fetchable.1 relationship
        (Model.joined?_of_without joined) singular unfiltered
      exact ⟨single, fun target member => below _ (further target member)⟩

end Selection

/-! ## Loading -/

/-- The field of an association to one is made of one instance at most. -/
theorem exists_fetchedField_iff {source : EntityRef} {attr : String} {instances : List Instance} :
    (∃ field, fetchedField source attr .singular instances = .ok field) ↔
      instances.length ≤ 1 := by
  match instances with
  | [] => simp [fetchedField]
  | [target] => simp [fetchedField]
  | _ :: _ :: _ => simp [fetchedField]

/-- A fetch along an association to one succeeds exactly if its targets can be loaded and are one
at most. -/
theorem Join.exists_load_fetch_iff_of_navigate {inst : Instance} {attr : String}
    {relationship : Relationship}
    (association : store.relationship? inst.ref.entity attr = .ok (some relationship))
    (singular : relationship.cardinality = .singular) {targets : List Value}
    (navigated : store.navigate (.entity inst.ref) attr = .ok targets) {target : Alias}
    {type : JoinType} {joins : List Join} :
    (∃ loaded, Join.load store inst ⟨attr, target, .fetch, type, none, joins⟩ = .ok loaded) ↔
      ∃ instances, (firstAppearances targets).mapM (store.instanceWith joins) = .ok instances ∧
        instances.length ≤ 1 := by
  have fits (instances : List Instance) :
      (∃ field, fetchedField inst.ref attr relationship.cardinality instances = .ok field) ↔
        instances.length ≤ 1 := by
    rw [singular]
    exact exists_fetchedField_iff
  simp only [← fits]
  constructor
  · rintro ⟨loaded, done⟩
    obtain ⟨_, _, _, instances, field, again, navigatedAgain, kept, found, fitted, _⟩ :=
      Join.load_fetch_eq_ok_iff.1 done
    rw [association] at again
    cases again
    rw [navigated] at navigatedAgain
    cases navigatedAgain
    cases kept
    exact ⟨instances, found, field, fitted⟩
  · rintro ⟨instances, found, field, fitted⟩
    exact ⟨_, Join.load_fetch_eq_ok_iff.2 ⟨relationship, _, _, instances, field, association,
      navigated, rfl, found, fitted, rfl⟩⟩

/-- A fetch along an association to one succeeds exactly if there is one target at most and what is
fetched below can be loaded onto it. -/
theorem Join.exists_load_fetch_iff (typed : store.WellTyped) {inst : Instance} {attr : String}
    {info : Attribute} {relationship : Relationship} (stored : store.Stored inst.ref)
    (known : store.model.attribute? inst.ref.entity attr = some info)
    (related : info.type.relationship? inst.ref.entity attr = some relationship)
    (singular : relationship.cardinality = .singular) {target : Alias} {type : JoinType}
    {joins : List Join} :
    (∃ loaded, Join.load store inst ⟨attr, target, .fetch, type, none, joins⟩ = .ok loaded) ↔
      (∀ left ∈ store.targets (.entity inst.ref) attr,
        ∀ right ∈ store.targets (.entity inst.ref) attr, left = right) ∧
      ∀ value ∈ store.targets (.entity inst.ref) attr,
        ∃ loaded, store.instanceWith joins value = .ok loaded := by
  have binds : store.Binds inst.ref.entity (.entity inst.ref) := .inr ⟨inst.ref, rfl, rfl, stored⟩
  obtain ⟨refs, leads⟩ := exists_refs fun value member => by
    obtain ⟨ref, equal, _⟩ := typed.exists_ref_of_target binds known related member
    exact ⟨ref, equal⟩
  have association : store.relationship? inst.ref.entity attr = .ok (some relationship) :=
    Store.relationship?_eq_ok_iff.2 ⟨info, known, related⟩
  have navigated := typed.navigate_of_binds binds known
  rw [leads] at navigated ⊢
  have sameLength {instances : List Instance}
      (found : (refs.eraseDups.map Value.entity).mapM (store.instanceWith joins) =
        .ok instances) : refs.eraseDups.length = instances.length := by
    rw [← Store.map_ref_of_mapM_instanceWith found, List.length_map]
  have among (value : Value) : value ∈ refs.eraseDups.map Value.entity ↔
      value ∈ refs.map Value.entity := by
    simp
  have single : refs.eraseDups.length ≤ 1 ↔
      ∀ left ∈ refs.map Value.entity, ∀ right ∈ refs.map Value.entity, left = right := by
    simp [length_eraseDups_le_one_iff]
  rw [exists_load_fetch_iff_of_navigate association singular navigated, ← single]
  simp only [firstAppearances_map_entity, ← among, ← exists_mapM_eq_ok_iff]
  constructor
  · rintro ⟨instances, found, short⟩
    exact ⟨sameLength found ▸ short, instances, found⟩
  · rintro ⟨short, instances, found⟩
    exact ⟨instances, found, sameLength found ▸ short⟩

namespace Planner

variable {planner : Planner} {level : Level} {next : Nat} {child : Selection}
  {relationship : Relationship} {inst : Instance}

/-- With fetches a joined selection can be loaded from a loaded level exactly if it can be
fetched. -/
theorem exists_load_joinFor_iff (next : Nat) (type : JoinType) (typed : store.WellTyped)
    (eager : planner.settings.eagerFetchToOne = true) (loaded : level.loaded = true)
    (stored : store.Stored inst.ref)
    (joined : store.model.joined? inst.ref.entity child = some relationship) {scope : ArgumentScope}
    {target : Alias} {on? : Option Expr} {joins : List Join}
    (conditioned : store.model.joinCondition? scope target child.filters = .ok on?)
    (below : planner.settings.fetches level.loaded child relationship = true →
      ∀ plain : Instance, store.Stored plain.ref → plain.ref.entity = relationship.target →
        ((∃ final, Join.loadAll store plain joins = .ok final) ↔
          Selection.AllFetchable store plain.ref child.selections)) :
    (∃ middle, Join.load store inst
        (planner.joinFor level next child relationship type on? joins) = .ok middle) ↔
      child.Fetchable store inst.ref := by
  obtain ⟨_, ⟨info, known, related⟩, _⟩ := Model.joined?_eq_some_iff.1 joined
  rw [Selection.fetchable_iff]
  simp only [joined, Option.some.injEq, forall_eq']
  cases fetches : planner.settings.fetches level.loaded child relationship with
  | false =>
    simp only [joinFor, fetches, Bool.false_eq_true, if_false, Join.load]
    refine iff_of_true ⟨inst, rfl⟩ fun singular unfiltered => ?_
    simp [FetchSettings.fetches, loaded, eager, singular, unfiltered] at fetches
  | true =>
    obtain ⟨_, _, unfiltered, singular⟩ := FetchSettings.fetches_eq_true_iff.1 fetches
    obtain rfl := Model.eq_none_of_joinCondition? unfiltered conditioned
    simp only [joinFor, fetches, if_true]
    rw [Join.exists_load_fetch_iff typed stored known related singular]
    simp only [singular, unfiltered, true_implies]
    refine and_congr_right fun _ => ?_
    have target (value : Value) (member : value ∈ store.targets (.entity inst.ref) child.name) :
        ∃ ref, value = .entity ref ∧ ((∃ final, store.instanceWith joins value = .ok final) ↔
          Selection.AllFetchable store ref child.selections) := by
      obtain ⟨ref, rfl, ofTarget, present⟩ := typed.exists_ref_of_target
        (.inr ⟨inst.ref, rfl, rfl, stored⟩) known related member
      obtain ⟨plain, retrieved⟩ := typed.exists_retrieve present
      obtain rfl := Store.ref_of_retrieve retrieved
      refine ⟨_, rfl, ?_⟩
      rw [← below fetches plain present ofTarget, Store.instanceWith, Store.instanceOf, retrieved]
      rfl
    constructor
    · intro each ref member
      obtain ⟨_, same, loads⟩ := target _ member
      cases same
      exact loads.1 (each _ member)
    · intro each value member
      obtain ⟨ref, rfl, loads⟩ := target value member
      exact loads.2 (each ref member)

/-- With fetches the joins of a loaded level can be loaded onto an instance exactly if its
selections can be fetched. -/
theorem Plans.exists_loadAll_iff {vars : Dict Value} {selections : List Selection}
    {plan : LevelPlan} (planned : planner.Plans vars level next selections plan)
    (sameModel : planner.model = store.model) (typed : store.WellTyped)
    (eager : planner.settings.eagerFetchToOne = true) (loaded : level.loaded = true)
    (stored : store.Stored inst.ref) (ofLevel : inst.ref.entity = level.entity) :
    (∃ final, Join.loadAll store inst plan.joins = .ok final) ↔
      Selection.AllFetchable store inst.ref selections := by
  induction planned generalizing inst with
  | nil => exact iff_of_true ⟨inst, rfl⟩ trivial
  | leave left _ inductionHypothesis =>
    rw [inductionHypothesis loaded stored ofLevel, Selection.AllFetchable, iff_and_self]
    intro _
    rw [Selection.fetchable_iff, ofLevel, ← sameModel, left.1]
    simp
  | @join level next child rest relationship type own nested others on? joined _ _ _ conditioned _
      beneath beside =>
    rw [sameModel] at joined conditioned
    rw [← ofLevel] at joined
    have first := exists_load_joinFor_iff next type typed eager loaded stored
      joined conditioned fun fetches plain present ofTarget => beneath fetches present ofTarget
    rw [Selection.AllFetchable, ← first, Join.loadAll]
    simp only [bind_eq_ok_iff]
    constructor
    · rintro ⟨final, middle, done, remaining⟩
      have same := Join.ref_of_load done
      refine ⟨⟨middle, done⟩, ?_⟩
      rw [← same]
      exact (beside loaded (same ▸ stored) (same ▸ ofLevel)).1 ⟨final, remaining⟩
    · rintro ⟨⟨middle, done⟩, fetchable⟩
      have same := Join.ref_of_load done
      rw [← same] at fetchable
      obtain ⟨final, remaining⟩ := (beside loaded (same ▸ stored) (same ▸ ofLevel)).2 fetchable
      exact ⟨final, middle, done, remaining⟩

/-- The joins of a plan can be loaded onto an instance exactly if what is selected can be fetched,
should it be fetched. -/
theorem Plans.exists_loadAll_root_iff {vars : Dict Value} {selections : List Selection}
    {plan : LevelPlan} {entity : String}
    (planned : planner.Plans vars (rootLevel entity) next selections plan)
    (sameModel : planner.model = store.model) (typed : store.WellTyped)
    (present : inst.ref.entity = entity ∧ store.Stored inst.ref) :
    (∃ final, Join.loadAll store inst plan.joins = .ok final) ↔
      (planner.settings.eagerFetchToOne = true →
        Selection.AllFetchable store inst.ref selections) := by
  obtain ⟨model, eager, standard⟩ := planner
  cases eager with
  | false => exact iff_of_true ⟨inst, planned.loadAll_eq store inst⟩ nofun
  | true => simp [planned.exists_loadAll_iff sameModel typed rfl rfl present.2 present.1]

/-- A plan can be executed exactly if what is selected can be fetched onto the instances that the
plan selects, should it be fetched. -/
theorem exists_execute_iff {context : PlanContext} {entity : String} {selection : Selection}
    {select : Select} (planned : planner.plan context entity selection = .ok select)
    (sameModel : planner.model = store.model) (typed : store.WellTyped) {refs : List EntityRef}
    (run : select.run store = .ok (refs.map .entity))
    (present : ∀ ref ∈ refs, ref.entity = entity ∧ store.Stored ref) :
    (∃ instances, store.execute select = .ok instances) ↔
      (planner.settings.eagerFetchToOne = true →
        ∀ ref ∈ refs, Selection.AllFetchable store ref selection.selections) := by
  obtain ⟨own, below, filtered, related, _, _, joined, conditioned, _, rfl⟩ :=
    plan_eq_ok_iff.1 planned
  have loads (ref : EntityRef) (member : ref ∈ refs) :
      (∃ inst, store.instanceWith (below.joins ++ filtered.joins) (.entity ref) = .ok inst) ↔
        (planner.settings.eagerFetchToOne = true →
          Selection.AllFetchable store ref selection.selections) := by
    obtain ⟨plain, retrieved⟩ := typed.exists_retrieve (present ref member).2
    obtain rfl := Store.ref_of_retrieve retrieved
    rw [← joined.exists_loadAll_root_iff sameModel typed (present _ member), Store.instanceWith,
      Store.instanceOf, retrieved]
    show (∃ inst, Join.loadAll store plain (below.joins ++ filtered.joins) = .ok inst) ↔ _
    simp [Join.loadAll_append, Model.loadAll_rootConditions conditioned, bind_eq_ok_iff]
  have executed : (∃ instances, store.execute
      (assemble entity own below filtered related) = .ok instances) ↔
        ∃ instances, (refs.map Value.entity).mapM
          (store.instanceWith (below.joins ++ filtered.joins)) = .ok instances := by
    rw [Store.execute, run]
    rfl
  rw [executed, exists_mapM_eq_ok_iff]
  simp only [List.forall_mem_map]
  constructor
  · exact fun each eager ref member => (loads ref member).1 (each ref member) eager
  · exact fun each ref member => (loads ref member).2 fun eager => each eager ref member

end Planner

end EntityGraph
