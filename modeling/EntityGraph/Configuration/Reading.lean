import EntityGraph.Configuration.Shape
import EntityGraph.Json.Reader
import EntityGraph.Model.Validation

/-!
# Reading configurations

The text of a configuration is read in two steps. First only the version counts, so that a
text of another version is refused as such; then the whole has to be a configuration. If it
is not, it is read once more for the place where it goes wrong.

A configuration with a consistent model can be deployed in a directory, which its data
file is relative to.
-/

namespace EntityGraph

/-- Why a file cannot be read. -/
inductive FileError where
  | notFound
  | permissionDenied
  | notADirectory
  | isADirectory
  | nameTooLong
  | zeroInName
  | notText
  | other (details : String)
deriving DecidableEq

/-- The wording of a file that cannot be read. -/
def FileError.message : FileError → String
  | .notFound => "No such file or directory (os error 2)"
  | .permissionDenied => "Permission denied (os error 13)"
  | .notADirectory => "Not a directory (os error 20)"
  | .isADirectory => "Is a directory (os error 21)"
  | .nameTooLong => "File name too long (os error 36)"
  | .zeroInName => "file name contained an unexpected NUL byte"
  | .notText => "stream did not contain valid UTF-8"
  | .other details => details

/-- The greatest number of bytes in a path. -/
def greatestPathSize : Nat := 4095

/-- Why a path leads to no file, whatever files there are. -/
def FileError.ofPath? (path : String) : Option FileError :=
  if path.toList.contains '\x00' then some .zeroInName
  else if path.isEmpty then some .notFound
  else if greatestPathSize < path.utf8ByteSize then some .nameTooLong
  else none

/-- A file below a directory. An absolute file stands for itself. -/
def joinPath (directory file : String) : String :=
  if file.startsWith "/" || directory.isEmpty then file
  else if directory.endsWith "/" then directory ++ file
  else directory ++ "/" ++ file

/-- Why there is no configuration at a path. -/
inductive ConfigurationError where
  | unreadable (path : String) (error : FileError)
  | malformed (path : String) (error : Json.ReadError)
  | versionMissing (path : String)
  | versionUnsupported (path : String) (found : Json)
  | inconsistent (faults : List ModelFault)

/-- The wording of a missing configuration. -/
def ConfigurationError.message : ConfigurationError → String
  | .unreadable path error => s!"I/O error: {path}: {error.message}"
  | .malformed path error =>
    s!"parse error on {path}:{error.line}:{error.column}: {error.message}"
  | .versionMissing path => s!"did not find the expected version tag in {path}"
  | .versionUnsupported path found =>
    s!"unsupported configuration version {found.compact} in {path}, expected {currentVersion}"
  | .inconsistent faults =>
    "invalid metadata: " ++ String.intercalate "; " (faults.map ModelFault.message)

namespace Configuration

/-- The name of the file that holds a configuration. -/
def fileName : String := "configuration.json"

/-- Whether a JSON value is the current version. -/
def isCurrentVersion (json : Json) : Bool :=
  match json with
  | .number (.int n) => n = currentVersion
  | _ => false

/-- Where a text that is no configuration goes wrong: where it leaves the shape of one, and at the
latest at its end. -/
def misfit (text : String) : Json.ReadError :=
  match Json.readShaped shape text with
  | .error error => error
  | .ok _ =>
    let (line, column) := Json.place 1 0 text.utf8ByteSize text.toList
    ⟨.incomplete shape.description, line, column⟩

/-- Read the text of a configuration found at a path. -/
def read (path text : String) : Except ConfigurationError Configuration := do
  match Json.read text with
  | .error error => .error (.malformed path error)
  | .ok json =>
    match json.canonical.member? "version" with
    | none => .error (.versionMissing path)
    | some version =>
      if isCurrentVersion version then
        match ofJson? json with
        | some configuration => return configuration
        | none => .error (.malformed path (misfit text))
      else .error (.versionUnsupported path version)

/-- Read the configuration of a directory by means of `readFile`. -/
def readFrom {m : Type → Type} [Monad m] (readFile : String → m (Except FileError String))
    (directory : String) : m (Except ConfigurationError Configuration) := do
  let path := joinPath directory fileName
  match ← readFile path with
  | .ok text => return read path text
  | .error error => return .error (.unreadable path error)

end Configuration

/-- A configuration in its place: its model is consistent, and its data file can be found. -/
structure Deployment where
  model : Model
  settings : FetchSettings
  dataFile? : Option String
  consistent : model.Consistent

/-- Put a configuration into a directory. -/
def Configuration.deploy (configuration : Configuration) (directory : String) :
    Except ConfigurationError Deployment :=
  if consistent : configuration.model.Consistent then
    .ok {
      model := configuration.model
      settings := configuration.settings
      dataFile? := configuration.dataFile?.map fun file => joinPath directory file
      consistent }
  else .error (.inconsistent configuration.model.faults)

end EntityGraph
