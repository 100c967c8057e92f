import EntityGraph.Json.Basic
import EntityGraph.Model.Basic
import EntityGraph.Plan.Basic

/-!
# The schema of configurations

A description of stored configurations in the vocabulary of JSON Schema. Each type of the
format is a definition of its own, and the configuration refers to them.
-/

namespace EntityGraph

namespace Schema

/-- A string. -/
def text : Json := .object [("type", .string "string")]

/-- A string that may be left out. -/
def optionalText : Json := .object [("type", .array [.string "string", .string "null"])]

/-- A truth value with a default. -/
def flag (standard : Bool) : Json :=
  .object [("default", .bool standard), ("type", .string "boolean")]

/-- One of several names. -/
def choice (names : List String) : Json :=
  .object [("type", .string "string"), ("enum", .array (names.map .string))]

/-- A definition. -/
def reference (name : String) : Json :=
  .object [("$ref", .string ("#/definitions/" ++ name))]

/-- A definition with a default. -/
def referenceOr (standard : Json) (name : String) : Json :=
  .object [("default", standard), ("allOf", .array [reference name])]

/-- A list of values. -/
def listOf (items : Json) : Json :=
  .object [("type", .string "array"), ("items", items)]

/-- An object from any names to values. -/
def mapOf (values : Json) : Json :=
  .object [("type", .string "object"), ("additionalProperties", values)]

/-- A record: its required fields and the shapes of all fields. -/
def record (required : List String) (fields : List (String × Json)) : Json :=
  .object [("type", .string "object"), ("required", .array (required.map .string)),
    ("properties", .object fields)]

/-- A record of a kind. -/
def kind (name : String) (required : List String) (fields : List (String × Json)) : Json :=
  record ("kind" :: required) (("kind", choice [name]) :: fields)

/-- One of several shapes. -/
def oneOf (shapes : List Json) : Json :=
  .object [("oneOf", .array shapes)]

/-- The shape of scalars and constants, which attributes and elements share. -/
def plainKinds : List Json :=
  [kind "basic" ["scalarType"] [("scalarType", reference "ScalarType")],
    kind "enum" ["enumType"] [("enumType", text)]]

/-- The shape of attributes. -/
def attributeShape : Json :=
  .object [("type", .string "object"),
    ("oneOf", .array (plainKinds ++
      [kind "elementCollection" ["element"] [("element", reference "ElementType")],
        kind "association" ["association", "target"]
          [("association", reference "AssociationType"), ("mappedBy", optionalText),
            ("target", text)]])),
    ("properties", .object [("description", optionalText)])]

/-- The types of the format. -/
def definitions : List (String × Json) :=
  [("AssociationType", choice (AssociationKind.all.map AssociationKind.name)),
    ("AttributeInfo", attributeShape),
    ("ElementType", oneOf plainKinds),
    ("EntitiesInfo", mapOf (reference "EntityInfo")),
    ("EntityInfo", record ["attributes", "idAttribute"]
      [("attributes", mapOf (reference "AttributeInfo")), ("description", optionalText),
        ("idAttribute", text)]),
    ("EnumTypeInfo", record ["constants"] [("constants", listOf text)]),
    ("EnumTypes", mapOf (reference "EnumTypeInfo")),
    ("FetchSettings", record []
      [("defaultJoinType", referenceOr (.string JoinType.left.name) "JoinType"),
        ("eagerFetchToOne", flag true)]),
    ("JoinType", choice (JoinType.all.map JoinType.name)),
    ("Metadata", record ["entities"]
      [("entities", reference "EntitiesInfo"),
        ("enumTypes", referenceOr (.object []) "EnumTypes")]),
    ("ScalarType", choice (ScalarType.all.map ScalarType.name))]

/-- The shape of a version. -/
def version : Json :=
  .object [("type", .string "integer"), ("format", .string "uint32"),
    ("minimum", .number (.float 0))]

/-- The shape of a configuration. -/
def configuration : Json :=
  .object [("title", .string "ParsedConfiguration"), ("type", .string "object"),
    ("required", .array [.string "version"]),
    ("properties", .object [("dataFile", optionalText),
      ("fetchSettings", reference "FetchSettings"), ("metadata", reference "Metadata"),
      ("version", version)]),
    ("definitions", .object definitions)]

end Schema

end EntityGraph
