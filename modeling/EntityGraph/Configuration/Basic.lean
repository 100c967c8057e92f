import EntityGraph.Json.Printer
import EntityGraph.Json.Record
import EntityGraph.Model.Codec
import EntityGraph.Planning.Settings

/-!
# Configurations

A configuration is a model, the fetch settings, and the place of the data. It is stored as
a record with the version of its format. Fetch settings and a data file are left out when
there is nothing to say.
-/

namespace EntityGraph

open Json

/-- A configuration as it is stored. -/
structure Configuration where
  version : Nat
  model : Model
  settings : FetchSettings
  /-- The file with the data, relative to the directory of the configuration. -/
  dataFile? : Option String
deriving DecidableEq

/-- The version of the format. -/
def currentVersion : Nat := 1

/-- The greatest number that a version can be. -/
def greatestVersion : Nat := 4294967295

namespace JoinType

/-- The join type that a JSON value names. -/
def ofJson? (json : Json) : Option JoinType :=
  json.choice?.bind fun name => all.find? fun type => type.name = name

end JoinType

namespace FetchSettings

/-- Fetch settings as JSON. -/
def toJson (settings : FetchSettings) : Json :=
  .object [("eagerFetchToOne", .bool settings.eagerFetchToOne),
    ("defaultJoinType", .string settings.defaultJoinType.name)]

/-- The fetch settings that a JSON value describes. What is left out is standard. -/
def ofJson? (json : Json) : Option FetchSettings :=
  match json.fields? ["eagerFetchToOne", "defaultJoinType"] with
  | some [eager, joinType] => do
    let eager ← defaulted standard.eagerFetchToOne bool? eager
    let joinType ← defaulted standard.defaultJoinType JoinType.ofJson? joinType
    return ⟨eager, joinType⟩
  | _ => none

end FetchSettings

/-- The version that a JSON value gives. -/
def version? : Json → Option Nat
  | .number (.int n) => if 0 ≤ n ∧ n ≤ greatestVersion then some n.toNat else none
  | _ => none

namespace Configuration

/-- The configuration to begin with. -/
def initial : Configuration :=
  ⟨currentVersion, Model.empty, FetchSettings.standard, none⟩

/-- A configuration as JSON. -/
def toJson (configuration : Configuration) : Json :=
  .object <| [("version", .number (.int configuration.version)),
      ("metadata", configuration.model.toJson)]
    ++ (if configuration.settings = .standard then []
      else [("fetchSettings", configuration.settings.toJson)])
    ++ (configuration.dataFile?.map fun file => ("dataFile", Json.string file)).toList

/-- The configuration that a JSON value describes. Only the version has to be there. -/
def ofJson? (json : Json) : Option Configuration :=
  match json.fields? ["version", "metadata", "fetchSettings", "dataFile"] with
  | some [version, metadata, fetchSettings, dataFile] => do
    let version ← required version? version
    let model ← defaulted Model.empty Model.ofJson? metadata
    let settings ← defaulted FetchSettings.standard FetchSettings.ofJson? fetchSettings
    let dataFile? ← Json.optional string? dataFile
    return ⟨version, model, settings, dataFile?⟩
  | _ => none

/-- The text that a configuration is stored as. -/
def text (configuration : Configuration) : String :=
  configuration.toJson.pretty ++ "\n"

end Configuration

end EntityGraph
