import EntityGraph.Plan.Basic
import EntityGraph.Resolution.Counters
import EntityGraph.Resolution.Error
import EntityGraph.Store.Instance

/-!
# Traces of a resolution

Answering a request is a computation that leaves a list of events: the plans that were
executed with their answers, the fields found loaded, and the violations. The events are
there even if the computation fails, and what happens later never changes them.
-/

namespace EntityGraph

/-- The instances that answer a plan, or the reason why there are none. -/
abbrev Answer := Except ExecutionError (List Instance)

/-- Something that can execute plans. -/
abbrev Transport := Select → Answer

/-- Something that happens while a request is answered. -/
inductive Event where
  /-- The plan of a root field was executed. -/
  | query (plan : Select) (answer : Answer)
  /-- The plan of a nested field was executed. -/
  | nestedQuery (plan : Select) (answer : Answer)
  /-- A nested field was loaded with its parent. -/
  | loadStateHit
  /-- A field violated its cardinality. -/
  | violation

/-- What an event counts as. -/
def Event.tick : Event → Tick
  | .query .. => .query
  | .nestedQuery .. => .nestedQuery
  | .loadStateHit => .loadStateHit
  | .violation => .violation

/-- The plan that was executed, with its answer. -/
def Event.executed? : Event → Option (Select × Answer)
  | .query plan answer | .nestedQuery plan answer => some (plan, answer)
  | _ => none

/-- The counters after some events. -/
def Counters.after (counters : Counters) (events : List Event) : Counters :=
  counters.recordAll (events.map Event.tick)

/-- A computation that leaves events and may fail. -/
structure Trace (α : Type) where
  events : List Event
  outcome : Except RequestError α

namespace Trace

/-- Go on with a value. A failure ends the computation and keeps its events. -/
def andThen {α β : Type} (trace : Trace α) (next : α → Trace β) : Trace β :=
  match trace.outcome with
  | .error error => ⟨trace.events, .error error⟩
  | .ok value => ⟨trace.events ++ (next value).events, (next value).outcome⟩

instance : Monad Trace where
  pure value := ⟨[], .ok value⟩
  bind := andThen

/-- Mapping the identity over a computation changes nothing. -/
theorem id_map {α : Type} (trace : Trace α) : id <$> trace = trace := by
  obtain ⟨events, outcome⟩ := trace
  cases outcome <;> simp [Functor.map, andThen]

/-- A value is handed on as it is. -/
theorem pure_bind {α β : Type} (value : α) (next : α → Trace β) :
    (pure value : Trace α) >>= next = next value := by
  simp [bind, andThen, pure]

/-- Computations can be grouped in either way. -/
theorem bind_assoc {α β γ : Type} (trace : Trace α) (second : α → Trace β)
    (third : β → Trace γ) :
    trace >>= second >>= third = trace >>= fun value => second value >>= third := by
  obtain ⟨events, outcome⟩ := trace
  cases outcome with
  | error error => rfl
  | ok value =>
    cases middle : (second value).outcome with
    | error error => simp [bind, andThen, middle]
    | ok result => simp [bind, andThen, middle]

instance : LawfulMonad Trace :=
  LawfulMonad.mk' Trace id_map pure_bind bind_assoc

/-- A computation without events. -/
def lift {α : Type} (outcome : Except RequestError α) : Trace α :=
  ⟨[], outcome⟩

/-- Planning leaves no events. -/
def planned {α : Type} (outcome : Except PlanningError α) : Trace α :=
  lift (outcome.mapError .planning)

/-- A failure. -/
def fail {α : Type} (error : RequestError) : Trace α :=
  lift (.error error)

/-- Leave an event. -/
def note (event : Event) : Trace Unit :=
  ⟨[event], .ok ()⟩

/-- Hand a plan to a transport. The event tells the plan and its answer. -/
def ask (event : Select → Answer → Event) (transport : Transport) (plan : Select) :
    Trace (List Instance) :=
  ⟨[event plan (transport plan)], (transport plan).mapError .execution⟩

/-- Turn a violation of cardinality into a value. Other failures stay failures. -/
def orViolation {α : Type} (trace : Trace α) : Trace (Except CardinalityViolation α) :=
  match trace.outcome with
  | .ok value => ⟨trace.events, .ok (.ok value)⟩
  | .error (.cardinality violation) => ⟨trace.events, .ok (.error violation)⟩
  | .error error => ⟨trace.events, .error error⟩

/-- The plans that were executed, in order, with their answers. -/
def executed {α : Type} (trace : Trace α) : List (Select × Answer) :=
  trace.events.filterMap Event.executed?

end Trace

end EntityGraph
