import EntityGraph.Plan.Execution
import EntityGraph.Proofs.Outcome

/-!
# Loading keeps instances what they are

Executing a plan retrieves an instance for each value that the plan projects. What its
fetches load changes the fields of an instance and never what the instance is.
-/

namespace EntityGraph

/-- The instance behind a reference has this reference. -/
theorem Store.ref_of_retrieve {store : Store} {ref : EntityRef} {inst : Instance}
    (retrieved : store.retrieve ref = .ok inst) : inst.ref = ref := by
  simp only [Store.retrieve, bind_eq_ok_iff] at retrieved
  obtain ⟨row, _, found⟩ := retrieved
  split at found
  · cases found
    rfl
  · cases found

/-- The instance that a value refers to. -/
theorem Store.eq_entity_of_instanceOf {store : Store} {value : Value} {inst : Instance}
    (found : store.instanceOf value = .ok inst) : value = .entity inst.ref := by
  unfold Store.instanceOf at found
  split at found
  · rw [Store.ref_of_retrieve found]
  · cases found

/-- The instance that a value refers to, with what joins load onto it. -/
def Store.instanceWith (store : Store) (joins : List Join) (value : Value) :
    Except ExecutionError Instance := do
  Join.loadAll store (← store.instanceOf value) joins

/-- The targets that meet the condition of a fetch, if it has one. -/
def Join.wanted (store : Store) (target : Alias) (on? : Option Expr) (targets : List Value) :
    Except ExecutionError (List Value) :=
  match on? with
  | none => .ok targets
  | some on => keep (fun value => on.evaluate store (Bindings.bind [] target value)) targets

/-- A plan is executed by loading each value that it projects. -/
theorem Store.execute_eq_ok_iff {store : Store} {plan : Select} {instances : List Instance} :
    store.execute plan = .ok instances ↔
      ∃ values, plan.run store = .ok values ∧
        values.mapM (store.instanceWith plan.joins) = .ok instances :=
  bind_eq_ok_iff

/-- The steps of a fetch. -/
theorem Join.load_fetch_eq (store : Store) (attr : String) (target : Alias) (type : JoinType)
    (on? : Option Expr) (joins : List Join) (inst : Instance) :
    Join.load store inst ⟨attr, target, .fetch, type, on?, joins⟩ = (do
      match ← store.relationship? inst.ref.entity attr with
      | none => .error (.notAnAssociation inst.ref.entity attr)
      | some relationship => do
        let targets ← store.navigate (.entity inst.ref) attr
        let wanted ← Join.wanted store target on? targets
        let instances ← (firstAppearances wanted).mapM (store.instanceWith joins)
        let field ← fetchedField inst.ref attr relationship.cardinality instances
        return inst.withField attr field) := by
  rw [Join.load]
  cases store.relationship? inst.ref.entity attr with
  | error error => rfl
  | ok relationship? => cases relationship? <;> cases on? <;> rfl

/-- A fetch loads each of its targets once and puts them into a field. -/
theorem Join.load_fetch_eq_ok_iff {store : Store} {attr : String} {target : Alias}
    {type : JoinType} {on? : Option Expr} {joins : List Join} {inst loaded : Instance} :
    Join.load store inst ⟨attr, target, .fetch, type, on?, joins⟩ = .ok loaded ↔
      ∃ relationship targets wanted instances field,
        store.relationship? inst.ref.entity attr = .ok (some relationship) ∧
        store.navigate (.entity inst.ref) attr = .ok targets ∧
        Join.wanted store target on? targets = .ok wanted ∧
        (firstAppearances wanted).mapM (store.instanceWith joins) = .ok instances ∧
        fetchedField inst.ref attr relationship.cardinality instances = .ok field ∧
        loaded = inst.withField attr field := by
  simp only [load_fetch_eq, bind_eq_ok_iff]
  constructor
  · rintro ⟨relationship?, related, done⟩
    cases relationship? with
    | none => cases done
    | some relationship =>
      simp only [bind_eq_ok_iff] at done
      obtain ⟨targets, navigated, wanted, kept, instances, found, field, fitted, same⟩ := done
      cases same
      exact ⟨relationship, targets, wanted, instances, field, related, navigated, kept, found,
        fitted, rfl⟩
  · rintro ⟨relationship, targets, wanted, instances, field, related, navigated, kept, found,
      fitted, rfl⟩
    refine ⟨some relationship, related, ?_⟩
    simp only [bind_eq_ok_iff]
    exact ⟨targets, navigated, wanted, kept, instances, found, field, fitted, rfl⟩

/-- A join loads its targets onto the instance that it starts from. -/
theorem Join.ref_of_load {store : Store} {join : Join} {inst loaded : Instance}
    (done : join.load store inst = .ok loaded) : loaded.ref = inst.ref := by
  obtain ⟨attr, target, kind, type, on?, joins⟩ := join
  cases kind with
  | join =>
    rw [Join.load] at done
    cases done
    rfl
  | fetch =>
    obtain ⟨_, _, _, _, _, _, _, _, _, _, rfl⟩ := Join.load_fetch_eq_ok_iff.1 done
    rfl

/-- Joins load their targets onto the instance that they start from. -/
theorem Join.ref_of_loadAll {store : Store} {joins : List Join} {inst loaded : Instance}
    (done : Join.loadAll store inst joins = .ok loaded) : loaded.ref = inst.ref := by
  induction joins generalizing inst with
  | nil =>
    rw [Join.loadAll] at done
    cases done
    rfl
  | cons join rest inductionHypothesis =>
    simp only [Join.loadAll, bind_eq_ok_iff] at done
    obtain ⟨middle, first, others⟩ := done
    rw [inductionHypothesis others, Join.ref_of_load first]

/-- Joins can be loaded in two parts. -/
theorem Join.loadAll_append (store : Store) (inst : Instance) (joins others : List Join) :
    Join.loadAll store inst (joins ++ others) = (do
      Join.loadAll store (← Join.loadAll store inst joins) others) := by
  induction joins generalizing inst with
  | nil => rfl
  | cons join rest inductionHypothesis =>
    rw [List.cons_append, Join.loadAll, Join.loadAll]
    cases join.load store inst with
    | error error => rfl
    | ok loaded => exact inductionHypothesis loaded

/-- What a value is loaded as is the instance that it refers to. -/
theorem Store.eq_entity_of_instanceWith {store : Store} {joins : List Join} {value : Value}
    {inst : Instance} (loaded : store.instanceWith joins value = .ok inst) :
    value = .entity inst.ref := by
  obtain ⟨retrieved, found, done⟩ := bind_eq_ok_iff.1 loaded
  rw [Store.eq_entity_of_instanceOf found, Join.ref_of_loadAll done]

/-- A list of values is loaded as the instances that they refer to. -/
theorem Store.eq_map_of_mapM_instanceWith {store : Store} {joins : List Join}
    {values : List Value} {instances : List Instance}
    (loaded : values.mapM (store.instanceWith joins) = .ok instances) :
    values = (instances.map Instance.ref).map Value.entity := by
  rw [mapM_eq_ok_iff] at loaded
  induction loaded with
  | nil => rfl
  | cons first _ inductionHypothesis =>
    rw [List.map_cons, List.map_cons, ← inductionHypothesis,
      ← Store.eq_entity_of_instanceWith first]

/-- References are loaded as instances of their own. -/
theorem Store.map_ref_of_mapM_instanceWith {store : Store} {joins : List Join}
    {refs : List EntityRef} {instances : List Instance}
    (loaded : (refs.map Value.entity).mapM (store.instanceWith joins) = .ok instances) :
    instances.map Instance.ref = refs :=
  List.map_injective_iff.2 (fun _ _ => Value.entity.inj)
    (eq_map_of_mapM_instanceWith loaded).symm

end EntityGraph
