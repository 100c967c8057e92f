import EntityGraph.Proofs.Resolution.Events
import EntityGraph.Proofs.Resolution.Outcomes

/-!
# Associations met on the way

A response is resolved by walking over instances and, on each of them, over what is selected. The
walk meets an association of an instance, fetches it, and goes on with what it fetched; the first
failure ends it. What is met is described here without regard to events: by what the steps of the
walk come to. The events of a walk are then those of the single fetches, in the order in which their
associations are met.
-/

namespace EntityGraph

/-- The association that a selection names on an instance of an entity, if it names one. -/
def Model.association? (model : Model) (entity : String) (child : Selection) :
    Option Relationship :=
  if child.isTypename then none
  else (model.attribute? entity child.name).bind fun info =>
    info.type.relationship? entity child.name

/-- A selection names an association exactly if it names an attribute that is one. -/
theorem Model.association?_eq_some_iff {model : Model} {entity : String} {child : Selection}
    {relationship : Relationship} :
    model.association? entity child = some relationship ↔
      child.isTypename = false ∧ ∃ info, model.attribute? entity child.name = some info ∧
        info.type.relationship? entity child.name = some relationship := by
  unfold Model.association?
  cases child.isTypename <;> simp [Option.bind_eq_some_iff]

/-- An instance and an association that is selected on it. -/
structure Visit (model : Model) where
  source : Instance
  child : Selection
  relationship : Relationship
  related : model.association? source.ref.entity child = some relationship

namespace Resolver

variable (resolver : Resolver) (vars : Dict Value)

/-- Fetch the association of a visit. -/
def fetchVisit (visit : Visit resolver.planner.model) : Trace Fetched :=
  resolver.fetchNested vars Dict.empty visit.source visit.relationship.target visit.child

mutual

/-- What is met of a selection on an instance: the association that it names, and then whatever is
met on the instances that are fetched for it. -/
def visitsOf (inst : Instance) : Selection → List (Visit resolver.planner.model)
  | child@⟨_, _, _, selections⟩ =>
    match related : resolver.planner.model.association? inst.ref.entity child with
    | none => []
    | some relationship =>
      let visit : Visit resolver.planner.model := ⟨inst, child, relationship, related⟩
      visit :: match (resolver.fetchVisit vars visit).outcome with
        | .ok fetched =>
          (reached (fun target => (resolver.resolveMembers vars target selections).outcome.isOk)
            fetched.instances).flatMap fun target => visitsOn target selections
        | .error _ => []

/-- What is met of several selections on an instance. -/
def visitsOn (inst : Instance) : List Selection → List (Visit resolver.planner.model)
  | [] => []
  | child :: rest =>
    visitsOf inst child ++
      if (resolver.resolveMember vars inst child).outcome.isOk then visitsOn inst rest else []

end

/-- What is met below a field on the instances that it was resolved to. -/
def visitsBelow (fetched : Fetched) (selection : Selection) :
    List (Visit resolver.planner.model) :=
  (reached (fun inst => (resolver.resolveMembers vars inst selection.selections).outcome.isOk)
    fetched.instances).flatMap fun inst => resolver.visitsOn vars inst selection.selections

/-- Nothing is met of a selection that names no association. -/
theorem visitsOf_of_none {inst : Instance} {child : Selection}
    (plain : resolver.planner.model.association? inst.ref.entity child = none) :
    resolver.visitsOf vars inst child = [] := by
  obtain ⟨name, key?, arguments, selections⟩ := child
  rw [visitsOf]
  split
  · rfl
  · next relationship related =>
    rw [plain] at related
    cases related

/-- An association is met before what it leads to. -/
theorem visitsOf_visit (visit : Visit resolver.planner.model) :
    resolver.visitsOf vars visit.source visit.child =
      visit :: match (resolver.fetchVisit vars visit).outcome with
        | .ok fetched => resolver.visitsBelow vars fetched visit.child
        | .error _ => [] := by
  obtain ⟨source, ⟨name, key?, arguments, selections⟩, relationship, related⟩ := visit
  dsimp only
  rw [visitsOf]
  split
  · next plain =>
    rw [plain] at related
    cases related
  · next found again =>
    cases related.symm.trans again
    rfl

/-! ## Events of a walk -/

/-- A selection that names no association is refused, or it is resolved to a value without events
and errors. -/
theorem resolveMember_of_none {inst : Instance} {child : Selection}
    (plain : resolver.planner.model.association? inst.ref.entity child = none) :
    ∃ data : Except PlanningError Json,
      resolver.resolveMember vars inst child = Trace.planned (data.map Resolved.leaf) := by
  rw [resolveMember]
  split
  · exact ⟨.ok (.string inst.ref.entity), rfl⟩
  · next named =>
    cases looked : resolver.planner.model.lookupAttribute inst.ref.entity child.name with
    | error refusal => exact ⟨.error refusal, rfl⟩
    | ok info =>
      have known := Model.lookupAttribute_eq_ok_iff.1 looked
      have unrelated : info.type.relationship? inst.ref.entity child.name = none := by
        rwa [Model.association?, if_neg named, known] at plain
      refine ⟨.ok (attributeData inst child.name), ?_⟩
      rw [Trace.planned_ok_bind, unrelated]
      rfl

/-- An association is resolved by fetching it and resolving further what was fetched. -/
theorem resolveMember_visit (visit : Visit resolver.planner.model) :
    resolver.resolveMember vars visit.source visit.child =
      (resolver.fetchVisit vars visit).orViolation >>= fun result =>
        match result with
        | .ok fetched => resolver.resolveFetched vars fetched visit.child
        | .error violation => pure (.violated violation) := by
  obtain ⟨named, info, known, related⟩ := Model.association?_eq_some_iff.1 visit.related
  have looked := Model.lookupAttribute_eq_ok_iff.2 known
  rw [resolveMember, if_neg (by simp [named]), looked, Trace.planned_ok_bind, related]
  rfl

/-- The events below a field are those of the associations that are met there, if this holds of
what is selected on its instances. -/
theorem events_resolveFetched {selection : Selection}
    (members : ∀ inst, (resolver.resolveMembers vars inst selection.selections).events =
      (resolver.visitsOn vars inst selection.selections).flatMap fun visit =>
        (resolver.fetchVisit vars visit).events) (fetched : Fetched) :
    (resolver.resolveFetched vars fetched selection).events =
      (resolver.visitsBelow vars fetched selection).flatMap fun visit =>
        (resolver.fetchVisit vars visit).events := by
  rw [visitsBelow, List.flatMap_assoc, ← List.flatMap_congr fun inst _ => members inst,
    resolveFetched_eq]
  match fetched with
  | .list instances => rw [Trace.events_bind_pure, Trace.events_mapM, Fetched.instances]
  | .object (some inst) =>
    rw [Trace.events_bind_pure]
    simp [Fetched.instances, reached]
  | .object none => rfl

/-- The events of a selection are those of the associations that are met with it, if this holds of
what is selected below it. -/
theorem events_resolveMember {child : Selection}
    (below : ∀ inst, (resolver.resolveMembers vars inst child.selections).events =
      (resolver.visitsOn vars inst child.selections).flatMap fun visit =>
        (resolver.fetchVisit vars visit).events) (inst : Instance) :
    (resolver.resolveMember vars inst child).events =
      (resolver.visitsOf vars inst child).flatMap fun visit =>
        (resolver.fetchVisit vars visit).events := by
  cases related : resolver.planner.model.association? inst.ref.entity child with
  | none =>
    obtain ⟨data, plain⟩ := resolver.resolveMember_of_none vars related
    rw [plain, visitsOf_of_none _ _ related]
    rfl
  | some relationship =>
    let visit : Visit resolver.planner.model := ⟨inst, child, relationship, related⟩
    show (resolver.resolveMember vars visit.source visit.child).events =
      (resolver.visitsOf vars visit.source visit.child).flatMap _
    rw [resolveMember_visit, visitsOf_visit, List.flatMap_cons]
    have caughtHere := Trace.outcome_orViolation (resolver.fetchVisit vars visit)
    cases outcome : (resolver.fetchVisit vars visit).outcome with
    | ok fetched =>
      rw [outcome] at caughtHere
      rw [Trace.events_bind_of_ok caughtHere, Trace.events_orViolation,
        events_resolveFetched resolver vars below]
    | error error =>
      rw [outcome] at caughtHere
      cases error with
      | cardinality violation =>
        rw [Trace.events_bind_of_ok caughtHere, Trace.events_orViolation]
        rfl
      | planning refusal =>
        rw [Trace.events_bind_of_error caughtHere, Trace.events_orViolation, List.flatMap_nil,
          List.append_nil]
      | execution failure =>
        rw [Trace.events_bind_of_error caughtHere, Trace.events_orViolation, List.flatMap_nil,
          List.append_nil]

/-- The events of what is selected on an instance are those of the associations that are met. -/
theorem events_resolveMembers (selections : List Selection) : ∀ inst : Instance,
    (resolver.resolveMembers vars inst selections).events =
      (resolver.visitsOn vars inst selections).flatMap fun visit =>
        (resolver.fetchVisit vars visit).events := by
  induction selections using Selection.listInduction with
  | nil =>
    intro inst
    rw [resolveMembers, visitsOn]
    rfl
  | cons name key? arguments selections rest below beside =>
    intro inst
    rw [resolveMembers_cons, visitsOn, List.flatMap_append,
      ← events_resolveMember resolver vars below]
    cases outcome : (resolver.resolveMember vars inst
        ⟨name, key?, arguments, selections⟩).outcome with
    | ok value => rw [Trace.events_bind_of_ok outcome, Trace.events_bind_pure, beside]; rfl
    | error error =>
      rw [Trace.events_bind_of_error outcome]
      exact (List.append_nil _).symm

/-! ## Events of a request -/

/-- The root fields of a request that are reached. -/
def reachedFields (request : Request) : List Selection :=
  reached (fun field => (resolver.resolveRoot vars field).outcome.isOk) request.fields

variable {resolver vars}

/-- If all root fields are resolved, then all of them are reached. -/
theorem reachedFields_eq_self {request : Request}
    (each : ∀ field ∈ request.fields,
      ∃ value, (resolver.resolveRoot vars field).outcome = .ok value) :
    resolver.reachedFields vars request = request.fields := by
  rw [reachedFields, reached_eq_self]
  intro field member
  obtain ⟨value, resolved⟩ := each field member
  rw [resolved]
  rfl

/-- A request leaves the events of the root fields that are reached. -/
theorem events_answer_of_reached {request : Request}
    (valued : variableValues request.vars = .ok vars) :
    (resolver.answer request).events =
      (resolver.reachedFields vars request).flatMap fun field =>
        (resolver.resolveRoot vars field).events := by
  have planned : (Trace.planned (variableValues request.vars)).outcome = .ok vars := by
    rw [valued]
    rfl
  have resolves (field : Selection) :
      (resolver.resolveRoot vars field >>= fun value =>
        (pure (field.key, value) : Trace (String × Resolved))).outcome.isOk =
          (resolver.resolveRoot vars field).outcome.isOk := by
    rw [Trace.outcome_bind]
    cases (resolver.resolveRoot vars field).outcome <;> rfl
  rw [answer, Trace.events_bind_of_ok planned, Trace.events_planned, List.nil_append,
    Trace.events_bind_pure, Trace.events_mapM, reachedFields]
  simp only [Trace.events_bind_pure, resolves]

/-- A request whose variables cannot be read leaves no events. -/
theorem events_answer_of_refused {request : Request} {refusal : PlanningError}
    (refused : variableValues request.vars = .error refusal) :
    (resolver.answer request).events = [] := by
  have planned : (Trace.planned (variableValues request.vars)).outcome =
      .error (.planning refusal) := by
    rw [refused]
    rfl
  rw [answer, Trace.events_bind_of_error planned, Trace.events_planned]

end Resolver

end EntityGraph
