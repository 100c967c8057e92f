import EntityGraph.CommandLine.Arguments
import EntityGraph.Configuration.Schema
import EntityGraph.Request.Shape
import EntityGraph.Service

/-!
# Running a command

`query` prints the response to a request, `explain` the plan of every root field, and
`schema` the shape of configurations.

Files are read by means of a function that is passed in, so everything but the reading
itself is said here. The configuration is read first, then the data, then the request and
last its variables; the first failure is the one reported.
-/

namespace EntityGraph

/-- Why a command fails. -/
inductive CommandError where
  | configuration (error : ConfigurationError)
  | start (error : StartError)
  | unreadable (path : String) (error : FileError)
  | malformed (path : String) (error : Json.ReadError)
  | misshapen (path : String)
  | request (error : RequestError)

/-- What a failed command prints. Each layer that an error passed through says it once more. -/
def CommandError.message : CommandError → String
  | .configuration error => s!"{error.message}: {error.message}"
  | .start error => error.message
  | .unreadable path error => s!"unable to read {path}: {error.message}"
  | .malformed path error => s!"unable to parse {path}: {error.message}"
  | .misshapen path => s!"unable to parse {path}: unexpected shape"
  | .request (.planning error) => s!"{error.message}: {error.message}: {error.message}"
  | .request (.execution error) => s!"{error.message}: {error.message}"
  | .request (.cardinality violation) => violation.message

/-- What a run leaves: its exit code and what it printed. -/
structure RunOutcome where
  code : UInt32
  output : String
  errors : String
deriving DecidableEq

namespace RunOutcome

/-- A run that succeeds. -/
def success (output : String) : RunOutcome := ⟨0, output, ""⟩

/-- A run that fails. -/
def failure (error : CommandError) : RunOutcome := ⟨1, "", error.message ++ "\n"⟩

/-- A run without a command. -/
def usage (error : UsageError) : RunOutcome := ⟨2, "", "error: " ++ error.message ++ "\n"⟩

end RunOutcome

/-- What is printed for a request that is explained: every plan under its key. -/
def explanation (plans : Dict Select) : String :=
  String.join <| plans.entries.map fun (key, plan) =>
    "-- " ++ key ++ "\n" ++ plan.sql.text ++ "\n\n"

section

variable {m : Type → Type} [Monad m] (readFile : String → m (Except FileError String))

/-- Read a JSON file whose value is to have a shape and to describe something. -/
def readDescribed {α : Type} (shape : Json.Shape) (ofJson? : Json → Option α) (path : String) :
    m (Except CommandError α) := do
  match ← readFile path with
  | .error error => return .error (.unreadable path error)
  | .ok text =>
    return match Json.readShaped shape text with
      | .error error => .error (.malformed path error)
      | .ok json =>
        match ofJson? json with
        | some described => .ok described
        | none => .error (.misshapen path)

/-- Read a request, with the variables of a second file if there is one. -/
def readRequest (options : RequestOptions) : m (Except CommandError Request) := do
  match ← readDescribed readFile Request.shape Request.ofJson? options.request with
  | .error error => return .error error
  | .ok request =>
    match options.varsFile? with
    | none => return .ok request
    | some path =>
      let vars ← readDescribed readFile (.map .any) (Json.dict? (some ·.canonical)) path
      return vars.map fun vars => { request with vars }

/-- Start the service for a configuration directory. -/
def startService (directory : String) : m (Except CommandError Service) := do
  match ← Configuration.readFrom readFile directory with
  | .error error => return .error (.configuration error)
  | .ok configuration =>
    match configuration.deploy directory with
    | .error error => return .error (.configuration error)
    | .ok deployment =>
      let started ← deployment.start readFile .empty
      return (started.map Prod.fst).mapError .start

/-- Run a command on a request with what it needs. -/
def runRequest (options : RequestOptions)
    (answer : Service → Request → Except RequestError String) : m RunOutcome := do
  match ← startService readFile options.configuration with
  | .error error => return .failure error
  | .ok service =>
    match ← readRequest readFile options with
    | .error error => return .failure error
    | .ok request =>
      return match answer service request with
        | .ok output => .success output
        | .error error => .failure (.request error)

/-- Run a command. -/
def Command.run : Command → m RunOutcome
  | .schema => return .success (Schema.configuration.pretty ++ "\n")
  | .query options =>
    runRequest readFile options fun service request =>
      (service.query request).outcome.map fun response => response.toJson.pretty ++ "\n"
  | .explain options =>
    runRequest readFile options fun service request =>
      ((service.explain request).mapError .planning).map explanation

/-- Run what the arguments ask for. -/
def runArguments (environment? : Option String) (arguments : List String) : m RunOutcome :=
  match Command.ofArguments environment? arguments with
  | .error error => return .usage error
  | .ok command => command.run readFile

end

end EntityGraph
