import EntityGraph.Configuration.Reading
import EntityGraph.Plan.Execution
import EntityGraph.Request.Codec
import EntityGraph.Resolution.Resolver
import EntityGraph.Store.Loading

/-!
# The service

A service answers requests from a store. Starting it publishes its counters and loads the
data of a deployment; without a data file the store has no instances.
-/

namespace EntityGraph

/-- What answers requests. -/
structure Service where
  settings : FetchSettings
  store : Store

namespace Service

/-- How the service plans. -/
def planner (service : Service) : Planner := ⟨service.store.model, service.settings⟩

/-- How the service resolves, executing plans in its store. -/
def resolver (service : Service) : Resolver := ⟨service.planner, service.store.execute⟩

/-- Answer a request. -/
def query (service : Service) (request : Request) : Trace Resolved :=
  service.resolver.answer request

/-- The plans of the root fields of a request. -/
def explain (service : Service) (request : Request) : Except PlanningError (Dict Select) :=
  service.planner.explain request

end Service

/-- Why a service cannot be started. -/
inductive StartError where
  | countersTaken
  | unreadableData (path : String) (error : FileError)
  | unloadableData (error : ExecutionError)

/-- The wording of a service that cannot be started. -/
def StartError.message : StartError → String
  | .countersTaken =>
    "error initializing metrics: Duplicate metrics collector registration attempted"
  | .unreadableData path error => s!"unable to read the data file {path}: {error.message}"
  | .unloadableData error => s!"unable to load the data file: {error.message}"

namespace Deployment

/-- Load the store of a deployment by means of `readFile`. -/
def load {m : Type → Type} [Monad m] (deployment : Deployment)
    (readFile : String → m (Except FileError String)) : m (Except StartError Store) := do
  match deployment.dataFile? with
  | none => return .ok (.empty deployment.model)
  | some path =>
    match ← readFile path with
    | .error error => return .error (.unreadableData path error)
    | .ok text => return (Store.load deployment.model text).mapError .unloadableData

/-- Start a service: publish its counters and load its store. -/
def start {m : Type → Type} [Monad m] (deployment : Deployment)
    (readFile : String → m (Except FileError String)) (registry : MetricRegistry) :
    m (Except StartError (Service × MetricRegistry)) := do
  match registry.register? with
  | none => return .error .countersTaken
  | some registry =>
    let loaded ← deployment.load readFile
    return loaded.map fun store => (⟨deployment.settings, store⟩, registry)

end Deployment

end EntityGraph
