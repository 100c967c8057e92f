import EntityGraph.Resolution.Trace
import Mathlib.Algebra.BigOperators.Group.List.Basic

/-!
# Events of a resolution

Steps of a computation leave their events one after the other, up to the first step that fails,
which leaves its own events too. What the counters make of some events does not depend on what they
were before: it is added to it. So the counters after a list of steps are a sum over its steps.
-/

namespace EntityGraph

universe u v

/-! ## Up to the first failure -/

/-- The items up to the first one that does not succeed, which is included. -/
def reached {α : Type u} (succeeds : α → Bool) : List α → List α
  | [] => []
  | item :: rest => item :: if succeeds item then reached succeeds rest else []

/-- If all items succeed, then all of them are reached. -/
theorem reached_eq_self {α : Type u} {succeeds : α → Bool} {items : List α}
    (each : ∀ item ∈ items, succeeds item = true) : reached succeeds items = items := by
  induction items with
  | nil => rfl
  | cons item rest inductionHypothesis =>
    rw [List.forall_mem_cons] at each
    rw [reached, if_pos each.1, inductionHypothesis each.2]

/-! ## Events of steps -/

namespace Trace

variable {α β : Type}

@[simp] theorem events_pure (value : α) : (pure value : Trace α).events = [] :=
  rfl

@[simp] theorem events_planned (outcome : Except PlanningError α) :
    (planned outcome).events = [] :=
  rfl

/-- A planning step that succeeds leaves nothing but its value. -/
theorem planned_ok_bind (value : α) (next : α → Trace β) :
    planned (.ok value) >>= next = next value :=
  rfl

/-- The events of a step that has a value come before those of the next one. -/
theorem events_bind_of_ok {trace : Trace α} {value : α} (done : trace.outcome = .ok value)
    (next : α → Trace β) : (trace >>= next).events = trace.events ++ (next value).events := by
  obtain ⟨events, outcome⟩ := trace
  cases done
  rfl

/-- The events of a step that fails are all that there are. -/
theorem events_bind_of_error {trace : Trace α} {error : RequestError}
    (failed : trace.outcome = .error error) (next : α → Trace β) :
    (trace >>= next).events = trace.events := by
  obtain ⟨events, outcome⟩ := trace
  cases failed
  rfl

/-- Doing something with the value leaves no events. -/
theorem events_bind_pure (trace : Trace α) (change : α → β) :
    (trace >>= fun value => pure (change value)).events = trace.events := by
  cases outcome : trace.outcome with
  | ok value => rw [events_bind_of_ok outcome, events_pure, List.append_nil]
  | error error => rw [events_bind_of_error outcome]

/-- Catching a violation keeps the events. -/
@[simp] theorem events_orViolation (trace : Trace α) : trace.orViolation.events = trace.events := by
  obtain ⟨events, outcome⟩ := trace
  cases outcome with
  | ok value => rfl
  | error error => cases error <;> rfl

/-- A list of steps leaves the events of the steps that are reached. -/
theorem events_mapM (step : α → Trace β) (items : List α) :
    (items.mapM step).events =
      (reached (fun item => (step item).outcome.isOk) items).flatMap fun item =>
        (step item).events := by
  induction items with
  | nil => rfl
  | cons item rest inductionHypothesis =>
    rw [List.mapM_cons, reached, List.flatMap_cons]
    cases outcome : (step item).outcome with
    | ok value =>
      rw [events_bind_of_ok outcome, events_bind_pure, inductionHypothesis]
      rfl
    | error error =>
      rw [events_bind_of_error outcome]
      exact (List.append_nil _).symm

end Trace

/-! ## Counters of events -/

namespace Counters

instance : Zero Counters := ⟨zero⟩

instance : Add Counters where
  add left right := ⟨left.queries + right.queries, left.nestedQueries + right.nestedQueries,
    left.loadStateHits + right.loadStateHits, left.violations + right.violations⟩

@[simp] theorem queries_add (left right : Counters) :
    (left + right).queries = left.queries + right.queries :=
  rfl

@[simp] theorem nestedQueries_add (left right : Counters) :
    (left + right).nestedQueries = left.nestedQueries + right.nestedQueries :=
  rfl

@[simp] theorem loadStateHits_add (left right : Counters) :
    (left + right).loadStateHits = left.loadStateHits + right.loadStateHits :=
  rfl

@[simp] theorem violations_add (left right : Counters) :
    (left + right).violations = left.violations + right.violations :=
  rfl

/-- Counters are the same if all four of them are. -/
theorem ext {left right : Counters} (queries : left.queries = right.queries)
    (nestedQueries : left.nestedQueries = right.nestedQueries)
    (loadStateHits : left.loadStateHits = right.loadStateHits)
    (violations : left.violations = right.violations) : left = right := by
  cases left
  cases right
  cases queries
  cases nestedQueries
  cases loadStateHits
  cases violations
  rfl

instance : AddCommMonoid Counters where
  add_assoc _ _ _ := ext (Nat.add_assoc ..) (Nat.add_assoc ..) (Nat.add_assoc ..) (Nat.add_assoc ..)
  zero_add _ := ext (Nat.zero_add _) (Nat.zero_add _) (Nat.zero_add _) (Nat.zero_add _)
  add_zero _ := ext (Nat.add_zero _) (Nat.add_zero _) (Nat.add_zero _) (Nat.add_zero _)
  add_comm _ _ := ext (Nat.add_comm ..) (Nat.add_comm ..) (Nat.add_comm ..) (Nat.add_comm ..)
  nsmul := nsmulRec

/-- What the counters grow by while a computation runs. -/
def growth (events : List Event) : Counters :=
  zero.after events

/-- Counting once more adds what counting once from the start gives. -/
theorem record_eq_add (counters : Counters) (tick : Tick) :
    counters.record tick = counters + zero.record tick := by
  cases tick <;> rfl

/-- Whatever the counters were, they grow by the same. -/
theorem after_eq_add (counters : Counters) (events : List Event) :
    counters.after events = counters + growth events := by
  induction events generalizing counters with
  | nil => exact (add_zero counters).symm
  | cons event rest inductionHypothesis =>
    have step (start : Counters) : start.after (event :: rest) =
        (start.record event.tick).after rest := rfl
    rw [growth, step, step, inductionHypothesis, inductionHypothesis (zero.record event.tick),
      ← add_assoc, ← record_eq_add]

/-- The counters grow by one list of events after the other. -/
theorem growth_append (events others : List Event) :
    growth (events ++ others) = growth events + growth others := by
  rw [← after_eq_add]
  simp only [growth, after, recordAll, List.map_append, List.foldl_append]

/-- The counters grow by the sum over whatever leaves the events. -/
theorem growth_flatMap {α : Type u} (collect : α → List Event) (items : List α) :
    growth (items.flatMap collect) = (items.map fun item => growth (collect item)).sum := by
  induction items with
  | nil => rfl
  | cons item rest inductionHypothesis =>
    rw [List.flatMap_cons, growth_append, inductionHypothesis, List.map_cons, List.sum_cons]

end Counters

end EntityGraph
