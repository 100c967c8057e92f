import EntityGraph.Proofs.Resolution.Visits

/-!
# Plans that a request hands over

Which plans are handed to the transport is known from the walk that answers a request: a plan for
each root field, and one for each association that is met and was not loaded, restricted to its
instance. A field that is refused hands over nothing, and the first failure ends it all. Whether the
request is answered or fails, the events tell of just these plans, in this order.
-/

namespace EntityGraph

/-- A plan that is handed over, with the instance that it is restricted to if it is for a nested
field. -/
structure Handed where
  plan : Select
  source? : Option EntityRef

/-- Whether a plan is for a nested field. -/
def Handed.isNested (handed : Handed) : Bool :=
  handed.source?.isSome

namespace Resolver

variable (resolver : Resolver) (vars : Dict Value)

/-- The plan that a visit hands over, unless the association was loaded or the field is refused. -/
def handedFor (visit : Visit resolver.planner.model) : Option Handed :=
  if (loadedField? visit.source visit.child).isSome then none
  else
    (resolver.planner.plan ⟨vars, Dict.empty, some visit.source.ref⟩ visit.relationship.target
      visit.child).toOption.map (⟨·, some visit.source.ref⟩)

/-- The arguments that are bound for a root field. -/
def rootArguments (field : Selection) : Dict Value :=
  resolver.planner.model.boundArguments field.name vars field

/-- The plan that a root field hands over, unless it is refused. -/
def handedForRoot (field : Selection) : Option Handed :=
  (resolver.planner.plan ⟨vars, resolver.rootArguments vars field, none⟩ field.name
    field).toOption.map (⟨·, none⟩)

/-- Fetch a root field. -/
def fetchField (field : Selection) : Trace Fetched :=
  resolver.fetchRoot vars (resolver.rootArguments vars field) field.name field

/-- What is met below a root field. -/
def visitsUnder (field : Selection) : List (Visit resolver.planner.model) :=
  if field.isTypename then []
  else match (resolver.fetchField vars field).outcome with
    | .ok fetched => resolver.visitsBelow vars fetched field
    | .error _ => []

/-- The plans that a root field hands over: its own, and those of the associations that are met
below it. -/
def handedUnder (field : Selection) : List Handed :=
  if field.isTypename then []
  else (resolver.handedForRoot vars field).toList ++
    (resolver.visitsUnder vars field).filterMap (resolver.handedFor vars)

/-- The plans that a request hands over, in order. -/
def handed (request : Request) : List Handed :=
  match variableValues request.vars with
  | .ok vars => (resolver.reachedFields vars request).flatMap (resolver.handedUnder vars)
  | .error _ => []

/-- The associations that are met while a request is answered, each with the instance that it is
selected on. -/
def visits (request : Request) : List (Visit resolver.planner.model) :=
  match variableValues request.vars with
  | .ok vars => (resolver.reachedFields vars request).flatMap (resolver.visitsUnder vars)
  | .error _ => []

end Resolver

/-- The plan that an event tells of, and whether it is for a nested field. -/
def Event.handed? : Event → Option (Select × Bool)
  | .query plan _ => some (plan, false)
  | .nestedQuery plan _ => some (plan, true)
  | .loadStateHit | .violation => none

/-! ## Events of a single fetch -/

/-- What comes of fetching the association of a visit, by the plan that is handed over for it: it is
loaded or refused without one, and otherwise asked for, to fail, to be fetched or to be violated. -/
inductive VisitOutcome (source : EntityRef) : Option Handed → Trace Fetched → Prop where
  | loaded (fetched : Fetched) : VisitOutcome source none ⟨[.loadStateHit], .ok fetched⟩
  | refused (refusal : PlanningError) :
    VisitOutcome source none ⟨[], .error (.planning refusal)⟩
  | failed (plan : Select) (answer : Answer) (failure : ExecutionError) :
    VisitOutcome source (some ⟨plan, some source⟩)
      ⟨[.nestedQuery plan answer], .error (.execution failure)⟩
  | fetched (plan : Select) (answer : Answer) (fetched : Fetched) :
    VisitOutcome source (some ⟨plan, some source⟩) ⟨[.nestedQuery plan answer], .ok fetched⟩
  | violated (plan : Select) (answer : Answer) (violation : CardinalityViolation) :
    VisitOutcome source (some ⟨plan, some source⟩)
      ⟨[.nestedQuery plan answer, .violation], .error (.cardinality violation)⟩

/-- What comes of fetching a root field, by the plan that is handed over for it. -/
inductive RootOutcome : Option Handed → Trace Fetched → Prop where
  | refused (refusal : PlanningError) : RootOutcome none ⟨[], .error (.planning refusal)⟩
  | failed (plan : Select) (answer : Answer) (failure : ExecutionError) :
    RootOutcome (some ⟨plan, none⟩) ⟨[.query plan answer], .error (.execution failure)⟩
  | fetched (plan : Select) (answer : Answer) (fetched : Fetched) :
    RootOutcome (some ⟨plan, none⟩) ⟨[.query plan answer], .ok fetched⟩

namespace Resolver

variable {resolver : Resolver} {vars : Dict Value}

/-- Rows that do not fit leave a violation, other rows leave no event. -/
theorem fit_cases (source : Instance) (selection : Selection) (cardinality : Cardinality)
    (instances : List Instance) :
    (∃ fetched, fit source selection cardinality instances = ⟨[], .ok fetched⟩) ∨
      ∃ violation, fit source selection cardinality instances =
        ⟨[.violation], .error (.cardinality violation)⟩ := by
  unfold fit
  split
  · exact .inl ⟨_, rfl⟩
  · exact .inl ⟨_, rfl⟩
  · split
    · exact .inl ⟨_, rfl⟩
    · exact .inr ⟨_, rfl⟩

/-- An association that was not loaded is planned and asked for, and its rows are fitted. -/
theorem fetchVisit_unloaded {visit : Visit resolver.planner.model}
    (unloaded : loadedField? visit.source visit.child = none) :
    resolver.fetchVisit vars visit =
      (Trace.planned (resolver.planner.plan ⟨vars, Dict.empty, some visit.source.ref⟩
        visit.relationship.target visit.child) >>= fun plan =>
          Trace.ask .nestedQuery resolver.transport plan >>=
            fit visit.source visit.child visit.relationship.cardinality) := by
  obtain ⟨_, info, known, related⟩ := Model.association?_eq_some_iff.1 visit.related
  rw [fetchVisit, fetchNested, unloaded]
  dsimp only
  rw [queryNested, Model.lookupAssociation_eq_ok known related]
  rfl

/-- Fetching the association of a visit has one of the possible outcomes. -/
theorem visitOutcome (visit : Visit resolver.planner.model) :
    VisitOutcome visit.source.ref (resolver.handedFor vars visit)
      (resolver.fetchVisit vars visit) := by
  rw [handedFor]
  cases loaded : loadedField? visit.source visit.child with
  | some fetched =>
    rw [fetchVisit, fetchNested, loaded]
    exact .loaded fetched
  | none =>
    rw [if_neg (by simp), fetchVisit_unloaded loaded]
    cases resolver.planner.plan ⟨vars, Dict.empty, some visit.source.ref⟩
        visit.relationship.target visit.child with
    | error refusal => exact .refused refusal
    | ok plan =>
      show VisitOutcome _ _ (Trace.ask .nestedQuery resolver.transport plan >>= _)
      rw [Trace.ask]
      cases resolver.transport plan with
      | error failure => exact .failed plan _ failure
      | ok instances =>
        show VisitOutcome _ _ ⟨_ ++ (fit _ _ _ instances).events, (fit _ _ _ instances).outcome⟩
        rcases fit_cases visit.source visit.child visit.relationship.cardinality instances with
          ⟨fetched, fits⟩ | ⟨violation, fits⟩
        · rw [fits]
          exact .fetched plan _ fetched
        · rw [fits]
          exact .violated plan _ violation

/-- Fetching a root field has one of the possible outcomes. -/
theorem rootOutcome (field : Selection) :
    RootOutcome (resolver.handedForRoot vars field) (resolver.fetchField vars field) := by
  rw [handedForRoot, fetchField, fetchRoot]
  cases resolver.planner.plan ⟨vars, resolver.rootArguments vars field, none⟩ field.name field with
  | error refusal => exact .refused refusal
  | ok plan =>
    show RootOutcome _ (Trace.ask .query resolver.transport plan >>= _)
    rw [Trace.ask]
    cases resolver.transport plan with
    | error failure => exact .failed plan _ failure
    | ok instances => exact .fetched plan _ (.list instances)

/-- The events of a root field are those of fetching it and of what is met below it. -/
theorem events_resolveRoot {field : Selection} (named : field.isTypename = false) :
    (resolver.resolveRoot vars field).events =
      (resolver.fetchField vars field).events ++
        (resolver.visitsUnder vars field).flatMap fun visit =>
          (resolver.fetchVisit vars visit).events := by
  rw [resolveRoot, if_neg (by simp [named]), visitsUnder, if_neg (by simp [named])]
  show (resolver.fetchField vars field >>= fun fetched =>
    resolver.resolveFetched vars fetched field).events = _
  cases outcome : (resolver.fetchField vars field).outcome with
  | error error =>
    rw [Trace.events_bind_of_error outcome]
    exact (List.append_nil _).symm
  | ok fetched =>
    rw [Trace.events_bind_of_ok outcome, events_resolveFetched _ _
      (resolver.events_resolveMembers vars field.selections)]

end Resolver

/-! ## What the transport gets -/

/-- A plan as the events tell of it. -/
def Handed.told (handed : Handed) : Select × Bool :=
  (handed.plan, handed.isNested)

/-- Fetching an association tells of the plan that is handed over for it. -/
theorem VisitOutcome.told {source : EntityRef} {handed? : Option Handed} {trace : Trace Fetched}
    (outcome : VisitOutcome source handed? trace) :
    trace.events.filterMap Event.handed? = handed?.toList.map Handed.told := by
  cases outcome <;> rfl

/-- Fetching a root field tells of the plan that is handed over for it. -/
theorem RootOutcome.told {handed? : Option Handed} {trace : Trace Fetched}
    (outcome : RootOutcome handed? trace) :
    trace.events.filterMap Event.handed? = handed?.toList.map Handed.told := by
  cases outcome <;> rfl

namespace Resolver

variable {resolver : Resolver} {vars : Dict Value}

/-- Fetching associations tells of the plans that are handed over for them. -/
theorem told_visits (visits : List (Visit resolver.planner.model)) :
    (visits.flatMap fun visit => (resolver.fetchVisit vars visit).events).filterMap
        Event.handed? =
      (visits.filterMap (resolver.handedFor vars)).map Handed.told := by
  induction visits with
  | nil => rfl
  | cons visit rest inductionHypothesis =>
    rw [List.flatMap_cons, List.filterMap_append, inductionHypothesis,
      (resolver.visitOutcome visit).told, List.filterMap_cons]
    cases resolver.handedFor vars visit <;> rfl

/-- The events of a root field tell of the plans that it hands over. -/
theorem told_resolveRoot (field : Selection) :
    (resolver.resolveRoot vars field).events.filterMap Event.handed? =
      (resolver.handedUnder vars field).map Handed.told := by
  rw [handedUnder]
  cases named : field.isTypename with
  | true =>
    rw [resolveRoot, if_pos named]
    rfl
  | false =>
    rw [events_resolveRoot named, List.filterMap_append, told_visits,
      (resolver.rootOutcome field).told, if_neg Bool.false_ne_true, List.map_append]

/-- The events of a request tell of the plans that it hands over. -/
theorem told_answer (request : Request) :
    (resolver.answer request).events.filterMap Event.handed? =
      (resolver.handed request).map Handed.told := by
  rw [handed]
  cases valued : variableValues request.vars with
  | error refusal =>
    rw [events_answer_of_refused valued]
    rfl
  | ok vars =>
    rw [events_answer_of_reached valued, List.filterMap_flatMap, List.map_flatMap]
    exact List.flatMap_congr fun field _ => told_resolveRoot field

end Resolver

end EntityGraph
