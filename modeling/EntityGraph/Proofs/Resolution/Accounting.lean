import EntityGraph.Proofs.Resolution.Handed
import EntityGraph.Proofs.Store.Mirror

/-!
# The counters account for what happens

Every plan that the transport gets is counted as a query, and every one for a nested field as a
nested query too, whether the request is answered or fails. If it is answered, the books balance:
the queries are those for the root fields and the nested ones, each association that was met was
either asked for or found loaded, and each violation is an error of the response.
-/

namespace EntityGraph

/-! ## What is counted -/

namespace Counters

/-- The counters grow by one event after the other. -/
theorem growth_cons (event : Event) (rest : List Event) :
    growth (event :: rest) = zero.record event.tick + growth rest :=
  growth_append [event] rest

/-- Every plan that is handed over is counted as a query. -/
theorem queries_growth (events : List Event) :
    (growth events).queries = (events.filterMap Event.handed?).length := by
  induction events with
  | nil => rfl
  | cons event rest inductionHypothesis =>
    rw [growth_cons, queries_add, inductionHypothesis, List.filterMap_cons]
    cases event with
    | query plan answer => exact Nat.add_comm _ _
    | nestedQuery plan answer => exact Nat.add_comm _ _
    | loadStateHit => exact Nat.zero_add _
    | violation => exact Nat.zero_add _

/-- Every plan that is handed over for a nested field is counted as a nested query. -/
theorem nestedQueries_growth (events : List Event) :
    (growth events).nestedQueries =
      ((events.filterMap Event.handed?).filter Prod.snd).length := by
  induction events with
  | nil => rfl
  | cons event rest inductionHypothesis =>
    rw [growth_cons, nestedQueries_add, inductionHypothesis, List.filterMap_cons]
    cases event with
    | query plan answer => exact Nat.zero_add _
    | nestedQuery plan answer => exact Nat.add_comm _ _
    | loadStateHit => exact Nat.zero_add _
    | violation => exact Nat.zero_add _

/-- The plans that events tell of are those that were executed. -/
theorem plans_of_executed (events : List Event) :
    (events.filterMap Event.executed?).map Prod.fst =
      (events.filterMap Event.handed?).map Prod.fst := by
  induction events with
  | nil => rfl
  | cons event rest inductionHypothesis =>
    rw [List.filterMap_cons, List.filterMap_cons]
    cases event with
    | query plan answer => exact congrArg (plan :: ·) inductionHypothesis
    | nestedQuery plan answer => exact congrArg (plan :: ·) inductionHypothesis
    | loadStateHit => exact inductionHypothesis
    | violation => exact inductionHypothesis

/-- Whether there are no more violations than nested queries, and no more of these than queries. -/
structure Bounded (counters : Counters) : Prop where
  violations : counters.violations ≤ counters.nestedQueries
  nestedQueries : counters.nestedQueries ≤ counters.queries

/-- The counters at the start are bounded. -/
theorem bounded_zero : zero.Bounded :=
  ⟨Nat.le_refl 0, Nat.le_refl 0⟩

/-- Bounded counters add up to bounded counters. -/
theorem Bounded.add {left right : Counters} (first : left.Bounded) (second : right.Bounded) :
    (left + right).Bounded where
  violations := Nat.add_le_add first.violations second.violations
  nestedQueries := Nat.add_le_add first.nestedQueries second.nestedQueries

/-- What grows by bounded steps grows by something bounded. -/
theorem bounded_growth_flatMap {α : Type} {collect : α → List Event} {items : List α}
    (each : ∀ item ∈ items, (growth (collect item)).Bounded) :
    (growth (items.flatMap collect)).Bounded := by
  induction items with
  | nil => exact bounded_zero
  | cons item rest inductionHypothesis =>
    rw [List.forall_mem_cons] at each
    rw [List.flatMap_cons, growth_append]
    exact each.1.add (inductionHypothesis each.2)

/-- Whether the books balance: all queries are for root fields or nested, each visit was asked for
or loaded, and each violation is an error. -/
structure Balance (counters : Counters) (roots visits errors : Nat) : Prop where
  queries : counters.queries = counters.nestedQueries + roots
  nestedQueries : counters.nestedQueries + counters.loadStateHits = visits
  violations : counters.violations = errors

/-- Nothing balances nothing. -/
theorem balance_zero : Balance 0 0 0 0 :=
  ⟨rfl, rfl, rfl⟩

/-- Books that balance can be put together. -/
theorem Balance.add {left right : Counters} {roots visits errors otherRoots otherVisits
    otherErrors : Nat} (first : left.Balance roots visits errors)
    (second : right.Balance otherRoots otherVisits otherErrors) :
    (left + right).Balance (roots + otherRoots) (visits + otherVisits) (errors + otherErrors) where
  queries := by
    have firstQueries := first.queries
    have secondQueries := second.queries
    rw [queries_add, nestedQueries_add]
    omega
  nestedQueries := by
    have firstNested := first.nestedQueries
    have secondNested := second.nestedQueries
    rw [nestedQueries_add, loadStateHits_add]
    omega
  violations := by
    rw [violations_add, first.violations, second.violations]

end Counters

open Counters (growth Balance)

/-- Fetching an association stays within the bounds. -/
theorem VisitOutcome.bounded {source : EntityRef} {handed? : Option Handed} {trace : Trace Fetched}
    (outcome : VisitOutcome source handed? trace) : (growth trace.events).Bounded := by
  cases outcome with
  | loaded fetched => exact ⟨Nat.le_refl 0, Nat.le_refl 0⟩
  | refused refusal => exact Counters.bounded_zero
  | failed plan answer failure => exact ⟨Nat.zero_le 1, Nat.le_refl 1⟩
  | fetched plan answer fetched => exact ⟨Nat.zero_le 1, Nat.le_refl 1⟩
  | violated plan answer violation => exact ⟨Nat.le_refl 1, Nat.le_refl 1⟩

/-- Fetching a root field stays within the bounds. -/
theorem RootOutcome.bounded {handed? : Option Handed} {trace : Trace Fetched}
    (outcome : RootOutcome handed? trace) : (growth trace.events).Bounded := by
  cases outcome with
  | refused refusal => exact Counters.bounded_zero
  | failed plan answer failure => exact ⟨Nat.le_refl 0, Nat.zero_le 1⟩
  | fetched plan answer fetched => exact ⟨Nat.le_refl 0, Nat.zero_le 1⟩

/-- Fetching an association that does not end the request accounts for one visit, and for an error
if the association is violated. -/
theorem VisitOutcome.balance {source : EntityRef} {handed? : Option Handed} {trace : Trace Fetched}
    (outcome : VisitOutcome source handed? trace) {result : Except CardinalityViolation Fetched}
    (passed : caught trace.outcome = .ok result) :
    (growth trace.events).Balance 0 1 (match result with | .ok _ => 0 | .error _ => 1) := by
  cases outcome with
  | loaded fetched => cases passed; exact ⟨rfl, rfl, rfl⟩
  | refused refusal => cases passed
  | failed plan answer failure => cases passed
  | fetched plan answer fetched => cases passed; exact ⟨rfl, rfl, rfl⟩
  | violated plan answer violation => cases passed; exact ⟨rfl, rfl, rfl⟩

/-- Fetching a root field accounts for one root field. -/
theorem RootOutcome.balance {handed? : Option Handed} {trace : Trace Fetched}
    (outcome : RootOutcome handed? trace) {fetched : Fetched}
    (done : trace.outcome = .ok fetched) : (growth trace.events).Balance 1 0 0 := by
  cases outcome with
  | refused refusal => cases done
  | failed plan answer failure => cases done
  | fetched plan answer fetched => exact ⟨rfl, rfl, rfl⟩

/-! ## Balance of a walk -/

namespace Resolved

/-- A list has the errors of its items. -/
theorem length_errors_list (items : List Resolved) :
    (list items).errors.length = (items.map fun item => item.errors.length).sum := by
  have general (index : Nat) :
      (itemErrors index items).length = (items.map fun item => item.errors.length).sum := by
    induction items generalizing index with
    | nil => rfl
    | cons item rest inductionHypothesis =>
      rw [itemErrors, List.length_append, List.length_map, inductionHypothesis, List.map_cons,
        List.sum_cons]
  exact general 0

/-- An object has the errors of its members. -/
theorem length_errors_object (members : List (String × Resolved)) :
    (object members).errors.length =
      (members.map fun member => member.2.errors.length).sum := by
  simp only [object, List.length_flatMap, List.length_map]

end Resolved

/-- Fields are counted one by one, but not `__typename`. -/
theorem Selection.sum_unless_typename (fields : List Selection) :
    (fields.map fun field => if field.isTypename then 0 else 1).sum =
      (fields.filter fun field => !field.isTypename).length := by
  induction fields with
  | nil => rfl
  | cons field rest inductionHypothesis =>
    rw [List.map_cons, List.sum_cons, inductionHypothesis, List.filter_cons]
    cases field.isTypename with
    | true => exact Nat.zero_add _
    | false => exact Nat.add_comm _ _

/-- All steps of a list of steps with values are reached. -/
theorem reached_of_mapM {α β : Type} {step : α → Trace β} {items : List α} {values : List β}
    (done : (items.mapM fun item => (step item).outcome) = .ok values) :
    reached (fun item => (step item).outcome.isOk) items = items := by
  apply reached_eq_self
  intro item member
  obtain ⟨value, _, found⟩ := exists_of_mem_of_mapM done member
  rw [found]
  rfl

/-- Steps whose books balance balance together. -/
theorem balance_mapM {α β : Type} {step : α → Trace β} (roots visits : α → Nat) (errors : β → Nat)
    {items : List α}
    (each : ∀ item ∈ items, ∀ value, (step item).outcome = .ok value →
      (growth (step item).events).Balance (roots item) (visits item) (errors value))
    {values : List β} (done : (items.mapM step).outcome = .ok values) :
    (growth (items.mapM step).events).Balance (items.map roots).sum (items.map visits).sum
      (values.map errors).sum := by
  rw [Trace.outcome_mapM] at done
  rw [Trace.events_mapM, reached_of_mapM done]
  rw [mapM_eq_ok_iff] at done
  induction done with
  | nil => exact Counters.balance_zero
  | cons first _ inductionHypothesis =>
    rw [List.forall_mem_cons] at each
    rw [List.flatMap_cons, Counters.growth_append]
    simp only [List.map_cons, List.sum_cons]
    exact (each.1 _ first).add (inductionHypothesis each.2)

namespace Resolver

variable (resolver : Resolver) (vars : Dict Value)

/-- Whether the books balance when selections are resolved on an instance. -/
def Balances (selections : List Selection) (inst : Instance) : Prop :=
  ∀ members, (resolver.resolveMembers vars inst selections).outcome = .ok members →
    (growth (resolver.resolveMembers vars inst selections).events).Balance 0
      (resolver.visitsOn vars inst selections).length (Resolved.object members).errors.length

/-- The books balance below a field if they balance on its instances. -/
theorem balance_resolveFetched {selection : Selection}
    (below : ∀ inst, resolver.Balances vars selection.selections inst) (fetched : Fetched)
    {value : Resolved}
    (done : (resolver.resolveFetched vars fetched selection).outcome = .ok value) :
    (growth (resolver.resolveFetched vars fetched selection).events).Balance 0
      (resolver.visitsBelow vars fetched selection).length value.errors.length := by
  rw [resolveFetched_eq] at done ⊢
  rw [visitsBelow, List.length_flatMap]
  cases fetched with
  | list instances =>
    rw [Trace.outcome_bind] at done
    obtain ⟨items, walked, same⟩ := bind_eq_ok_iff.1 done
    cases same
    have balance := balance_mapM (fun _ => 0) _
      (fun members => (Resolved.object members).errors.length) (fun inst _ => below inst) walked
    rw [Trace.outcome_mapM] at walked
    rw [Trace.events_bind_pure, Resolved.length_errors_list, List.map_map, Fetched.instances,
      reached_of_mapM walked]
    rw [List.map_const', List.sum_replicate, smul_zero] at balance
    exact balance
  | object inst? =>
    cases inst? with
    | some inst =>
      rw [Trace.outcome_bind] at done
      obtain ⟨members, walked, same⟩ := bind_eq_ok_iff.1 done
      cases same
      rw [Trace.events_bind_pure]
      simpa [Fetched.instances, reached] using below inst members walked
    | none =>
      cases done
      exact Counters.balance_zero

/-- The books balance for a selection if they balance for what is selected below it. -/
theorem balance_resolveMember {child : Selection}
    (below : ∀ inst, resolver.Balances vars child.selections inst) (inst : Instance)
    {value : Resolved} (done : (resolver.resolveMember vars inst child).outcome = .ok value) :
    (growth (resolver.resolveMember vars inst child).events).Balance 0
      (resolver.visitsOf vars inst child).length value.errors.length := by
  cases related : resolver.planner.model.association? inst.ref.entity child with
  | none =>
    obtain ⟨data, plain⟩ := resolver.resolveMember_of_none vars related
    rw [plain] at done ⊢
    rw [visitsOf_of_none _ _ related]
    cases data with
    | error refusal => cases done
    | ok data =>
      cases done
      exact Counters.balance_zero
  | some relationship =>
    let visit : Visit resolver.planner.model := ⟨inst, child, relationship, related⟩
    change (resolver.resolveMember vars visit.source visit.child).outcome = .ok value at done
    show (growth (resolver.resolveMember vars visit.source visit.child).events).Balance 0
      (resolver.visitsOf vars visit.source visit.child).length value.errors.length
    rw [resolveMember_visit] at done ⊢
    rw [Trace.outcome_bind, Trace.outcome_orViolation] at done
    obtain ⟨result, passed, done⟩ := bind_eq_ok_iff.1 done
    have fetching := (resolver.visitOutcome visit).balance passed
    have caughtHere : (resolver.fetchVisit vars visit).orViolation.outcome = .ok result := by
      rw [Trace.outcome_orViolation, passed]
    rw [visitsOf_visit, Trace.events_bind_of_ok caughtHere, Trace.events_orViolation,
      Counters.growth_append, List.length_cons, Nat.add_comm]
    cases result with
    | ok fetched =>
      rw [eq_ok_of_caught passed]
      have further := resolver.balance_resolveFetched vars below fetched done
      simpa using fetching.add further
    | error violation =>
      cases done
      rw [eq_violation_of_caught passed]
      exact fetching.add Counters.balance_zero

/-- The books balance when selections are resolved. -/
theorem balances (selections : List Selection) :
    ∀ inst, resolver.Balances vars selections inst := by
  induction selections using Selection.listInduction with
  | nil =>
    intro inst members done
    rw [resolveMembers] at done ⊢
    cases done
    rw [visitsOn]
    exact Counters.balance_zero
  | cons name key? arguments selections rest below beside =>
    intro inst members done
    rw [resolveMembers_cons] at done ⊢
    rw [Trace.outcome_bind] at done
    obtain ⟨value, first, done⟩ := bind_eq_ok_iff.1 done
    rw [Trace.outcome_bind] at done
    obtain ⟨others, second, same⟩ := bind_eq_ok_iff.1 done
    cases same
    have ofFirst := resolver.balance_resolveMember vars below inst first
    have ofRest := beside inst others second
    rw [Trace.events_bind_of_ok first, Trace.events_bind_pure, Counters.growth_append, visitsOn,
      first, List.length_append, Resolved.length_errors_object, List.map_cons, List.sum_cons,
      ← Resolved.length_errors_object]
    exact ofFirst.add ofRest

/-- The books balance for a root field. -/
theorem balance_resolveRoot (field : Selection) {value : Resolved}
    (done : (resolver.resolveRoot vars field).outcome = .ok value) :
    (growth (resolver.resolveRoot vars field).events).Balance (if field.isTypename then 0 else 1)
      (resolver.visitsUnder vars field).length value.errors.length := by
  rw [visitsUnder]
  rw [resolveRoot] at done ⊢
  cases named : field.isTypename with
  | true =>
    rw [named] at done
    cases done
    exact Counters.balance_zero
  | false =>
    simp only [named, Bool.false_eq_true, if_false] at done ⊢
    change (resolver.fetchField vars field >>= fun fetched =>
      resolver.resolveFetched vars fetched field).outcome = _ at done
    show (growth (resolver.fetchField vars field >>= fun fetched =>
      resolver.resolveFetched vars fetched field).events).Balance 1 _ _
    rw [Trace.outcome_bind] at done
    obtain ⟨fetched, found, done⟩ := bind_eq_ok_iff.1 done
    have fetching := (resolver.rootOutcome field).balance found
    have further := resolver.balance_resolveFetched vars (resolver.balances vars field.selections)
      fetched done
    rw [Trace.events_bind_of_ok found, Counters.growth_append, found]
    simpa using fetching.add further

/-- The books balance for a request that is answered. -/
theorem balance_answer {request : Request} {response : Resolved}
    (answered : (resolver.answer request).outcome = .ok response) :
    (growth (resolver.answer request).events).Balance
      (request.fields.filter fun field => !field.isTypename).length
      (resolver.visits request).length response.errors.length := by
  rw [answer, Trace.outcome_bind] at answered
  obtain ⟨vars, planned, answered⟩ := bind_eq_ok_iff.1 answered
  rw [Trace.outcome_bind] at answered
  obtain ⟨members, resolved, same⟩ := bind_eq_ok_iff.1 answered
  cases same
  have valued : variableValues request.vars = .ok vars := mapError_eq_ok_iff.1 planned
  have balance := balance_mapM (fun field : Selection => if field.isTypename then 0 else 1)
    (fun field => (resolver.visitsUnder vars field).length)
    (fun member : String × Resolved => member.2.errors.length)
    (fun field _ member done => by
      rw [Trace.outcome_bind] at done
      obtain ⟨value, found, same⟩ := bind_eq_ok_iff.1 done
      cases same
      rw [Trace.events_bind_pure]
      exact resolver.balance_resolveRoot vars field found) resolved
  have all : resolver.reachedFields vars request = request.fields := by
    refine reachedFields_eq_self fun field member => ?_
    rw [Trace.outcome_mapM] at resolved
    obtain ⟨_, _, keyed⟩ := exists_of_mem_of_mapM resolved member
    rw [Trace.outcome_bind] at keyed
    obtain ⟨value, found, _⟩ := bind_eq_ok_iff.1 keyed
    exact ⟨value, found⟩
  rw [answer, Trace.events_bind_of_ok planned, Trace.events_planned, List.nil_append,
    Trace.events_bind_pure, visits, valued, Resolved.length_errors_object,
    ← Selection.sum_unless_typename]
  dsimp only
  rw [all, List.length_flatMap]
  exact balance

/-- A request stays within the bounds, whether it is answered or fails. -/
theorem bounded_answer (request : Request) :
    (growth (resolver.answer request).events).Bounded := by
  cases valued : variableValues request.vars with
  | error refusal =>
    rw [events_answer_of_refused valued]
    exact Counters.bounded_zero
  | ok vars =>
    rw [events_answer_of_reached valued]
    refine Counters.bounded_growth_flatMap fun field _ => ?_
    cases named : field.isTypename with
    | true =>
      rw [resolveRoot, if_pos named]
      exact Counters.bounded_zero
    | false =>
      rw [events_resolveRoot named, Counters.growth_append]
      refine (resolver.rootOutcome field).bounded.add ?_
      exact Counters.bounded_growth_flatMap fun visit _ => (resolver.visitOutcome visit).bounded

end Resolver

namespace Counters

/-- The counters after a sequence of requests, each answered in its own way. -/
def afterAll (counters : Counters) (runs : List (Resolver × Request)) : Counters :=
  runs.foldl (fun counters run => counters.after (run.1.answer run.2).events) counters

/-- A sequence of requests stays within the bounds. -/
theorem Bounded.afterAll {counters : Counters} (bounded : counters.Bounded)
    (runs : List (Resolver × Request)) : (counters.afterAll runs).Bounded := by
  induction runs generalizing counters with
  | nil => exact bounded
  | cons run rest inductionHypothesis =>
    apply inductionHypothesis
    dsimp only
    rw [after_eq_add]
    exact bounded.add (run.1.bounded_answer run.2)

end Counters

/-- The queries and nested queries that are counted for a request are the plans that it hands over,
which are those that the transport gets. If the request is answered, then there is a query for each
root field but `__typename`, each association that was met is a nested query or a hit, and the
violations are the errors. So over any sequence of requests there are no more violations than nested
queries and no more of these than queries. -/
theorem counters_account_for_resolutions (resolver : Resolver) (request : Request) :
    let trace := resolver.answer request
    let growth := Counters.growth trace.events
    (∀ counters : Counters, counters.after trace.events = counters + growth) ∧
    trace.executed.map Prod.fst = (resolver.handed request).map Handed.plan ∧
    growth.queries = trace.executed.length ∧
    growth.nestedQueries = ((resolver.handed request).filter Handed.isNested).length ∧
    (∀ response, trace.outcome = .ok response →
      growth.queries = growth.nestedQueries +
        (request.fields.filter fun field => !field.isTypename).length ∧
      growth.nestedQueries + growth.loadStateHits = (resolver.visits request).length ∧
      growth.violations = response.errors.length) ∧
    ∀ runs : List (Resolver × Request),
      (Counters.zero.afterAll runs).violations ≤ (Counters.zero.afterAll runs).nestedQueries ∧
      (Counters.zero.afterAll runs).nestedQueries ≤ (Counters.zero.afterAll runs).queries := by
  intro trace growth
  have told : trace.events.filterMap Event.handed? = (resolver.handed request).map Handed.told :=
    Resolver.told_answer request
  have plans : trace.executed.map Prod.fst = (resolver.handed request).map Handed.plan := by
    rw [Trace.executed, Counters.plans_of_executed, told, List.map_map]
    rfl
  have count : trace.executed.length = (trace.events.filterMap Event.handed?).length := by
    rw [told, List.length_map, ← List.length_map Handed.plan, ← plans, List.length_map]
  refine ⟨fun counters => Counters.after_eq_add counters _, plans, ?_, ?_,
    fun response answered => ?_, fun runs => ?_⟩
  · rw [Counters.queries_growth, count]
  · rw [Counters.nestedQueries_growth, told, List.filter_map, List.length_map]
    rfl
  · have balance := resolver.balance_answer answered
    exact ⟨balance.queries, balance.nestedQueries, balance.violations⟩
  · have whole := Counters.bounded_zero.afterAll runs
    exact ⟨whole.violations, whole.nestedQueries⟩

/-- Authors and their books, with the author of each book once as it is and once provided that it is
`b`. -/
def twiceAuthoredRequest : Request :=
  ⟨[⟨"Author", none, [], [⟨"books", none, [], [⟨"author", none, [], [⟨"id", none, [], []⟩]⟩,
    ⟨"author", some "stranger", [⟨"id", .string "b"⟩], [⟨"id", none, [], []⟩]⟩]⟩]⟩], Dict.empty⟩

/-- Both authors are asked for their books; of the two books, which are by `a`, each was loaded with
its author, and asked in vain for another one. -/
theorem counters_account_for_twice_authored_books :
    let trace := (Service.resolver ⟨⟨true, .left⟩, Store.library⟩).answer twiceAuthoredRequest
    Counters.growth trace.events = ⟨5, 4, 2, 2⟩ ∧ trace.executed.length = 5 ∧
      ∃ response, trace.outcome = .ok response ∧ response.errors.length = 2 ∧
        ((Service.resolver ⟨⟨true, .left⟩, Store.library⟩).visits
          twiceAuthoredRequest).length = 6 := by
  intro trace
  have grown : Counters.growth trace.events = ⟨5, 4, 2, 2⟩ := by
    decide +kernel
  have answered : trace.outcome = .ok (trace.outcome.toOption.getD (.leaf .null)) :=
    eq_ok_of_isOk (by decide +kernel)
  obtain ⟨_, _, queries, _, balance, _⟩ :=
    counters_account_for_resolutions (Service.resolver ⟨⟨true, .left⟩, Store.library⟩)
      twiceAuthoredRequest
  obtain ⟨_, met, violations⟩ := balance _ answered
  rw [grown] at queries met violations
  exact ⟨grown, queries.symm, _, answered, violations.symm, met.symm⟩

end EntityGraph
