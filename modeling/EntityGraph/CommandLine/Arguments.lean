/-!
# Arguments of the command line

Two commands answer a request, `query` and `explain`, and take options that say where the
request and its configuration are found. A third one, `schema`, takes none. An option is
given once, with its value in the same argument after an equals sign or in the next one.
-/

namespace EntityGraph

/-- Where a request and its configuration are found. -/
structure RequestOptions where
  configuration : String
  request : String
  varsFile? : Option String
deriving DecidableEq

/-- What the command line asks for. -/
inductive Command where
  | query (options : RequestOptions)
  | explain (options : RequestOptions)
  | schema
deriving DecidableEq

/-- Arguments that are no command. -/
inductive UsageError where
  | commandMissing
  | commandUnknown (name : String)
  | argumentUnexpected (argument : String)
  | valueMissing (option : String)
  | optionRepeated (option : String)
  | optionMissing (option : String)
deriving DecidableEq

/-- The wording of arguments that are no command. -/
def UsageError.message : UsageError → String
  | .commandMissing => "a command is expected: query, explain or schema"
  | .commandUnknown name => s!"unrecognized command '{name}'"
  | .argumentUnexpected argument => s!"unexpected argument '{argument}' found"
  | .valueMissing option => s!"a value is required for '{option}' but none was supplied"
  | .optionRepeated option => s!"the argument '{option}' cannot be used multiple times"
  | .optionMissing option => s!"the argument '{option}' has to be provided"

namespace RequestOptions

/-- The options of a request. -/
def names : List String := ["--configuration", "--request", "--variables"]

/-- The options that have been given so far, with their values. -/
abbrev Given := List (String × String)

/-- Give an option a value. It has to be an option, not given before, and the value must not be
empty. -/
def give (given : Given) (name value : String) : Except UsageError Given :=
  if !names.contains name then .error (.argumentUnexpected name)
  else if value.isEmpty then .error (.valueMissing name)
  else if (given.lookup name).isSome then .error (.optionRepeated name)
  else .ok ((name, value) :: given)

/-- An argument that holds an option and its value, cut at the first equals sign. -/
def assignment? (argument : String) : Option (String × String) :=
  let chars := argument.toList
  match chars.dropWhile (· ≠ '=') with
  | [] => none
  | _ :: value => some (String.ofList (chars.takeWhile (· ≠ '=')), String.ofList value)

/-- Whether an argument can be the value of an option. -/
def isValue (argument : String) : Bool :=
  argument = "-" || !argument.startsWith "-"

/-- Collect options. The value of an option is part of its argument or the next argument. Two
hyphens may end the options. -/
def collect (given : Given) : List String → Except UsageError Given
  | [] => .ok given
  | ["--"] => .ok given
  | [argument] =>
    match assignment? argument with
    | some (name, value) => give given name value
    | none =>
      .error (if names.contains argument then .valueMissing argument
        else .argumentUnexpected argument)
  | argument :: next :: rest =>
    match assignment? argument with
    | some (name, value) => do collect (← give given name value) (next :: rest)
    | none =>
      if !names.contains argument then .error (.argumentUnexpected argument)
      else if !isValue next then .error (.valueMissing argument)
      else do collect (← give given argument next) rest

/-- The options that arguments give. The configuration is taken from the environment if it is not
given, and from the current directory if it is not there either. -/
def ofArguments (environment? : Option String) (arguments : List String) :
    Except UsageError RequestOptions := do
  let given ← collect [] arguments
  let configuration ← match given.lookup "--configuration", environment? with
    | some directory, _ => pure directory
    | none, none => pure "."
    | none, some directory =>
      if directory.isEmpty then .error (.valueMissing "--configuration") else pure directory
  match given.lookup "--request" with
  | none => .error (.optionMissing "--request")
  | some request => return ⟨configuration, request, given.lookup "--variables"⟩

end RequestOptions

/-- The command that arguments name. -/
def Command.ofArguments (environment? : Option String) :
    List String → Except UsageError Command
  | [] => .error .commandMissing
  | "query" :: rest => do return .query (← RequestOptions.ofArguments environment? rest)
  | "explain" :: rest => do return .explain (← RequestOptions.ofArguments environment? rest)
  | ["schema"] | ["schema", "--"] => .ok .schema
  | "schema" :: argument :: _ => .error (.argumentUnexpected argument)
  | name :: _ => .error (.commandUnknown name)

/-- The variable of the environment that names the configuration directory. -/
def environmentName : String := "NDC_ENTITY_CONFIGURATION"

end EntityGraph
