import EntityGraph.Plan.Evaluation

/-!
# Executing plans

Executing a plan retrieves the instances that its selection projects and loads the
associations that its fetches name. A fetch goes along the attribute again, from the
instance at hand and with only its own alias bound, so what it loads does not depend on the
rows of the selection.
-/

namespace EntityGraph

/-- The instance that a value refers to. -/
def Store.instanceOf (store : Store) : Value → Except ExecutionError Instance
  | .entity ref => store.retrieve ref
  | other => .error (.notAnInstance other)

/-- The field that a fetch adds. An association with one target at most cannot take several. -/
def fetchedField (source : EntityRef) (attr : String) :
    Cardinality → List Instance → Except ExecutionError Field
  | .plural, targets => .ok (.collection targets)
  | .singular, [] => .ok (.reference none)
  | .singular, [target] => .ok (.reference (some target))
  | .singular, _ => .error (.nonUniqueFetch source attr)

mutual

/-- An instance with what a join loads onto it. Only fetches load anything. -/
def Join.load (store : Store) (inst : Instance) : Join → Except ExecutionError Instance
  | ⟨_, _, .join, _, _, _⟩ => .ok inst
  | ⟨attr, target, .fetch, _, on?, joins⟩ => do
    let some relationship ← store.relationship? inst.ref.entity attr
      | .error (.notAnAssociation inst.ref.entity attr)
    let targets ← store.navigate (.entity inst.ref) attr
    let targets ← match on? with
      | none => pure targets
      | some on => keep (fun value => on.evaluate store (Bindings.bind [] target value)) targets
    let loaded ← (firstAppearances targets).mapM fun value => do
      Join.loadAll store (← store.instanceOf value) joins
    return inst.withField attr (← fetchedField inst.ref attr relationship.cardinality loaded)

/-- An instance with what joins load onto it, one after the other. -/
def Join.loadAll (store : Store) (inst : Instance) : List Join → Except ExecutionError Instance
  | [] => .ok inst
  | join :: rest => do
    let inst ← join.load store inst
    Join.loadAll store inst rest

end

/-- Execute a plan: the instances that it selects, with the associations that it fetches. -/
def Store.execute (store : Store) (plan : Select) : Except ExecutionError (List Instance) := do
  let values ← plan.run store
  values.mapM fun value => do
    Join.loadAll store (← store.instanceOf value) plan.joins

end EntityGraph
