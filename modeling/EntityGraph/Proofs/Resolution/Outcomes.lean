import EntityGraph.Proofs.Planning.Planned
import EntityGraph.Service

/-!
# Outcomes of a resolution

Leaving events never changes what comes out of a resolution. So its outcome is computed from
the outcomes of its parts, and claims about responses can forget the events.
-/

namespace EntityGraph

namespace Trace

variable {α β : Type}

@[simp] theorem outcome_pure (value : α) : (pure value : Trace α).outcome = .ok value :=
  rfl

@[simp] theorem outcome_bind (trace : Trace α) (next : α → Trace β) :
    (trace >>= next).outcome = trace.outcome >>= fun value => (next value).outcome := by
  obtain ⟨events, outcome⟩ := trace
  cases outcome <;> rfl

@[simp] theorem outcome_mapM (step : α → Trace β) (items : List α) :
    (items.mapM step).outcome = items.mapM fun item => (step item).outcome := by
  induction items with
  | nil => rfl
  | cons item rest inductionHypothesis =>
    rw [List.mapM_cons, List.mapM_cons, outcome_bind]
    simp only [outcome_bind, inductionHypothesis]
    rfl

@[simp] theorem outcome_planned (outcome : Except PlanningError α) :
    (planned outcome).outcome = outcome.mapError .planning :=
  rfl

@[simp] theorem outcome_ask (event : Select → Answer → Event) (transport : Transport)
    (plan : Select) :
    (ask event transport plan).outcome = (transport plan).mapError .execution :=
  rfl

@[simp] theorem outcome_note (event : Event) : (note event).outcome = .ok () :=
  rfl

@[simp] theorem outcome_fail (error : RequestError) : (fail error : Trace α).outcome = .error error :=
  rfl

end Trace

/-- A violation of cardinality as a value, other failures as they are. -/
def caught {α : Type} : Except RequestError α → Except RequestError (Except CardinalityViolation α)
  | .ok value => .ok (.ok value)
  | .error (.cardinality violation) => .ok (.error violation)
  | .error error => .error error

/-- Only a value is caught as a value. -/
theorem eq_ok_of_caught {α : Type} {outcome : Except RequestError α} {value : α}
    (done : caught outcome = .ok (.ok value)) : outcome = .ok value := by
  cases outcome with
  | ok found =>
    cases done
    rfl
  | error error => cases error <;> cases done

/-- Only a violation is caught as a violation. -/
theorem eq_violation_of_caught {α : Type} {outcome : Except RequestError α}
    {violation : CardinalityViolation} (done : caught outcome = .ok (.error violation)) :
    outcome = .error (.cardinality violation) := by
  cases outcome with
  | ok found => cases done
  | error error =>
    cases error <;> cases done
    rfl

@[simp] theorem Trace.outcome_orViolation {α : Type} (trace : Trace α) :
    trace.orViolation.outcome = caught trace.outcome := by
  obtain ⟨events, outcome⟩ := trace
  cases outcome with
  | ok value => rfl
  | error error => cases error <;> rfl

namespace Service

/-- The instances of a field, planned and executed. -/
def instances (service : Service) (context : PlanContext) (entity : String)
    (selection : Selection) : Except RequestError (List Instance) := do
  let plan ← (service.planner.plan context entity selection).mapError .planning
  (service.store.execute plan).mapError .execution

/-- Finding the instances of a field violates no cardinality. -/
theorem caught_instances_bind {α : Type} (service : Service) (context : PlanContext)
    (entity : String) (selection : Selection) (next : List Instance → Except RequestError α) :
    caught (service.instances context entity selection >>= next) =
      service.instances context entity selection >>= fun instances => caught (next instances) := by
  unfold instances
  cases service.planner.plan context entity selection with
  | error refusal => rfl
  | ok plan =>
    show caught ((service.store.execute plan).mapError RequestError.execution >>= next) =
      (service.store.execute plan).mapError RequestError.execution >>= fun instances =>
        caught (next instances)
    cases service.store.execute plan with
    | error failure => rfl
    | ok instances => rfl

/-- A root field is resolved to its instances. -/
theorem outcome_fetchRoot (service : Service) (vars arguments : Dict Value) (entity : String)
    (selection : Selection) :
    (service.resolver.fetchRoot vars arguments entity selection).outcome =
      service.instances ⟨vars, arguments, none⟩ entity selection >>= fun instances =>
        .ok (.list instances) := by
  rw [Resolver.fetchRoot, instances, bind_assoc]
  simp only [Trace.outcome_bind, Trace.outcome_planned]
  rfl

/-- A field that is not found loaded is resolved to what its instances make of it. -/
theorem outcome_fetchNested (service : Service) {vars arguments : Dict Value}
    {source : Instance} {entity : String} {selection : Selection} {info : Attribute}
    {relationship : Relationship} (unloaded : loadedField? source selection = none)
    (known : service.store.model.attribute? source.ref.entity selection.name = some info)
    (related : info.type.relationship? source.ref.entity selection.name = some relationship) :
    (service.resolver.fetchNested vars arguments source entity selection).outcome =
      service.instances ⟨vars, arguments, some source.ref⟩ entity selection >>= fun instances =>
        (Resolver.fit source selection relationship.cardinality instances).outcome := by
  have looked : service.resolver.planner.model.lookupAssociation source.ref.entity
      selection.name = .ok relationship := Model.lookupAssociation_eq_ok known related
  rw [Resolver.fetchNested, unloaded, instances, bind_assoc]
  simp only [Resolver.queryNested, Trace.outcome_bind, Trace.outcome_planned, looked]
  rfl

end Service

/-- The instances that a field was resolved to. -/
def Fetched.instances : Fetched → List Instance
  | .list instances => instances
  | .object inst? => inst?.toList

namespace Resolver

/-- Resolve what is selected below a field, whatever the field was resolved to. -/
theorem resolveFetched_eq (resolver : Resolver) (vars : Dict Value) (fetched : Fetched)
    (selection : Selection) :
    resolver.resolveFetched vars fetched selection =
      match fetched with
      | .list instances => do
        let items ← instances.mapM fun inst =>
          resolver.resolveMembers vars inst selection.selections
        return .list (items.map Resolved.object)
      | .object (some inst) => do
        return .object (← resolver.resolveMembers vars inst selection.selections)
      | .object none => return .leaf .null := by
  obtain ⟨name, key?, arguments, selections⟩ := selection
  unfold resolveFetched
  cases fetched with
  | list instances => rfl
  | object inst? => cases inst? <;> rfl

/-- Resolve a selection on an instance. -/
def resolveMember (resolver : Resolver) (vars : Dict Value) (inst : Instance)
    (child : Selection) : Trace Resolved := do
  if child.isTypename then return .leaf (.string inst.ref.entity)
  else
    let info ← Trace.planned <|
      resolver.planner.model.lookupAttribute inst.ref.entity child.name
    match info.type.relationship? inst.ref.entity child.name with
    | none => return .leaf (attributeData inst child.name)
    | some relationship =>
      let fetched ← Trace.orViolation <|
        resolver.fetchNested vars Dict.empty inst relationship.target child
      match fetched with
      | .ok fetched => resolver.resolveFetched vars fetched child
      | .error violation => return .violated violation

/-- Selections are resolved one after the other. -/
theorem resolveMembers_cons (resolver : Resolver) (vars : Dict Value) (inst : Instance)
    (child : Selection) (rest : List Selection) :
    resolver.resolveMembers vars inst (child :: rest) = (do
      let value ← resolver.resolveMember vars inst child
      let others ← resolver.resolveMembers vars inst rest
      return (child.key, value) :: others) := by
  rw [resolveMembers, resolveMember]
  cases child.isTypename with
  | true => simp
  | false =>
    simp only [Bool.false_eq_true, if_false, bind_assoc]
    refine congrArg _ (funext fun info => ?_)
    cases info.type.relationship? inst.ref.entity child.name with
    | none => simp
    | some relationship =>
      simp only [bind_assoc]
      refine congrArg _ (funext fun fetched => ?_)
      cases fetched <;> simp

/-- The selections on an instance are resolved each by itself. -/
theorem outcome_resolveMembers (resolver : Resolver) (vars : Dict Value) (inst : Instance)
    (selections : List Selection) :
    (resolver.resolveMembers vars inst selections).outcome = selections.mapM fun child => do
      return (child.key, ← (resolver.resolveMember vars inst child).outcome) := by
  induction selections with
  | nil =>
    rw [resolveMembers]
    rfl
  | cons child rest inductionHypothesis =>
    rw [resolveMembers_cons, List.mapM_cons, ← inductionHypothesis]
    simp only [Trace.outcome_bind, Trace.outcome_pure, bind_assoc, pure_bind]
    rfl

/-- An attribute that is not an association is resolved to its value. -/
theorem outcome_resolveMember_of_unrelated (resolver : Resolver) (vars : Dict Value)
    {inst : Instance} {child : Selection} {info : Attribute} (named : child.isTypename = false)
    (known : resolver.planner.model.attribute? inst.ref.entity child.name = some info)
    (unrelated : info.type.relationship? inst.ref.entity child.name = none) :
    (resolver.resolveMember vars inst child).outcome =
      .ok (.leaf (attributeData inst child.name)) := by
  have looked : resolver.planner.model.lookupAttribute inst.ref.entity child.name = .ok info :=
    Model.lookupAttribute_eq_ok_iff.2 known
  rw [resolveMember, if_neg (by simp [named]), Trace.outcome_bind, Trace.outcome_planned, looked]
  refine bind_eq_ok_iff.2 ⟨info, rfl, ?_⟩
  simp only [unrelated]
  rfl

/-- Resolve further what came of fetching a field. -/
def resolveResult (resolver : Resolver) (vars : Dict Value) (child : Selection) :
    Except CardinalityViolation Fetched → Except RequestError Resolved
  | .ok fetched => (resolver.resolveFetched vars fetched child).outcome
  | .error violation => .ok (.violated violation)

/-- An association of an instance is resolved to what is fetched for it. -/
theorem outcome_resolveMember (resolver : Resolver) (vars : Dict Value) {inst : Instance}
    {child : Selection} {info : Attribute} {relationship : Relationship}
    (named : child.isTypename = false)
    (known : resolver.planner.model.attribute? inst.ref.entity child.name = some info)
    (related : info.type.relationship? inst.ref.entity child.name = some relationship) :
    (resolver.resolveMember vars inst child).outcome =
      caught (resolver.fetchNested vars Dict.empty inst relationship.target child).outcome >>=
        resolver.resolveResult vars child := by
  have looked : resolver.planner.model.lookupAttribute inst.ref.entity child.name = .ok info :=
    Model.lookupAttribute_eq_ok_iff.2 known
  rw [resolveMember, if_neg (by simp [named]), Trace.outcome_bind, Trace.outcome_planned, looked]
  show (match info.type.relationship? inst.ref.entity child.name with
    | none => pure (.leaf (attributeData inst child.name))
    | some relationship => do
      match ← Trace.orViolation (resolver.fetchNested vars Dict.empty inst relationship.target
        child) with
      | .ok fetched => resolver.resolveFetched vars fetched child
      | .error violation => pure (.violated violation) : Trace Resolved).outcome = _
  rw [related]
  simp only [Trace.outcome_bind, Trace.outcome_orViolation]
  refine congrArg _ (funext fun result => ?_)
  cases result <;> rfl

end Resolver

end EntityGraph
