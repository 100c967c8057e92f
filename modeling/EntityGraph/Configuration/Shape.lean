import EntityGraph.Configuration.Basic
import EntityGraph.Json.Shape

/-!
# The shape of stored configurations

What has to stand where in the text of a configuration. A text that is no configuration is
refused at the place where it leaves this shape.
-/

namespace EntityGraph

namespace Configuration

open Json

/-- A truth value. -/
def flagShape : Shape :=
  .scalar "a boolean" fun json => json.bool?.isSome

/-- A version. -/
def versionShape : Shape :=
  .scalar "u32" fun json => (version? json).isSome

/-- An attribute. Its fields depend on its kind, so they are looked at together at its end. -/
def attributeShape : Shape :=
  .object [("description", .optionalText)] fun json => (Attribute.ofJson? json).isSome

/-- An entity. -/
def entityShape : Shape :=
  .record [("idAttribute", .text), ("attributes", .map attributeShape)]
    [("description", .optionalText)]

/-- An enum type. -/
def enumTypeShape : Shape :=
  .record [("constants", .list .text)] []

/-- A model. -/
def modelShape : Shape :=
  .record [("entities", .map entityShape)] [("enumTypes", .map enumTypeShape)]

/-- Fetch settings. -/
def settingsShape : Shape :=
  .record [] [("eagerFetchToOne", flagShape),
    ("defaultJoinType", .choice (JoinType.all.map JoinType.name))]

/-- A configuration. -/
def shape : Shape :=
  .record [("version", versionShape)]
    [("metadata", modelShape), ("fetchSettings", settingsShape), ("dataFile", .optionalText)]

end Configuration

end EntityGraph
