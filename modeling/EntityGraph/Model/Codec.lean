import EntityGraph.Json.Record
import EntityGraph.Model.Basic

/-!
# Entity models as JSON

Each type of the model is a record with its fields in declared order. An attribute and
an element type say what they are in a member `kind`, next to their other fields, which are
set aside until the kind is known; the kind may also be given by its position among the
kinds. An attribute is only ever an object, since its description stands beside the fields
of its kind.
-/

namespace EntityGraph

open Json

namespace ScalarType

/-- The scalar type that a JSON value names. -/
def ofJson? (json : Json) : Option ScalarType :=
  json.asideChoice?.bind fun name => all.find? fun scalar => scalar.name = name

end ScalarType

namespace AssociationKind

/-- The kind of association that a JSON value names. -/
def ofJson? (json : Json) : Option AssociationKind :=
  json.asideChoice?.bind fun name => all.find? fun kind => kind.name = name

end AssociationKind

namespace ElementType

/-- The kinds of element. -/
def kinds : List String := ["basic", "enum"]

/-- The fields of an element type, its kind first. -/
def members : ElementType → List (String × Json)
  | basic scalar => [("kind", .string "basic"), ("scalarType", .string scalar.name)]
  | enum enumType => [("kind", .string "enum"), ("enumType", .string enumType)]

/-- An element type as JSON. -/
def toJson (element : ElementType) : Json :=
  .object element.members

/-- The element type of a kind whose fields another value holds. -/
def ofFields? (kind : String) (rest : Json) : Option ElementType :=
  match kind with
  | "basic" =>
    match rest.fields? ["scalarType"] with
    | some [scalar] => (required ScalarType.ofJson? scalar).map basic
    | _ => none
  | "enum" =>
    match rest.fields? ["enumType"] with
    | some [enumType] => (required string? enumType).map enum
    | _ => none
  | _ => none

/-- The element type that a JSON value describes. -/
def ofJson? : Json → Option ElementType
  | .object members =>
    match field? "kind" members with
    | some (some tag) =>
      (tag.asideTag? kinds).bind fun kind =>
        ofFields? kind (.object (members.filter fun member => member.1 ≠ "kind"))
    | _ => none
  | .array (tag :: rest) => (tag.asideTag? kinds).bind fun kind => ofFields? kind (.array rest)
  | _ => none

end ElementType

namespace AttributeType

/-- The kinds of attribute. -/
def kinds : List String := ["basic", "enum", "elementCollection", "association"]

/-- The fields of an attribute type, its kind first. -/
def members : AttributeType → List (String × Json)
  | basic scalar => [("kind", .string "basic"), ("scalarType", .string scalar.name)]
  | enum enumType => [("kind", .string "enum"), ("enumType", .string enumType)]
  | collection element => [("kind", .string "elementCollection"), ("element", element.toJson)]
  | association target kind mappedBy? =>
    [("kind", .string "association"), ("target", .string target),
      ("association", .string kind.name)]
      ++ (mappedBy?.map fun owner => ("mappedBy", Json.string owner)).toList

/-- The attribute type that the members of an object describe. -/
def ofMembers? (members : List (String × Json)) : Option AttributeType :=
  match field? "kind" members with
  | some (some tag) =>
    let rest := Json.object (members.filter fun member => member.1 ≠ "kind")
    match tag.asideTag? kinds with
    | some "basic" =>
      match rest.fields? ["scalarType"] with
      | some [scalar] => (required ScalarType.ofJson? scalar).map basic
      | _ => none
    | some "enum" =>
      match rest.fields? ["enumType"] with
      | some [enumType] => (required string? enumType).map enum
      | _ => none
    | some "elementCollection" =>
      match rest.fields? ["element"] with
      | some [element] => (required ElementType.ofJson? element).map collection
      | _ => none
    | some "association" =>
      match rest.fields? ["target", "association", "mappedBy"] with
      | some [target, kind, mappedBy] => do
        let target ← required string? target
        let kind ← required AssociationKind.ofJson? kind
        let mappedBy? ← Json.optional string? mappedBy
        return association target kind mappedBy?
      | _ => none
    | _ => none
  | _ => none

end AttributeType

/-- The member that holds a description, if there is one. -/
def descriptionMembers (description? : Option String) : List (String × Json) :=
  (description?.map fun description => ("description", Json.string description)).toList

namespace Attribute

/-- An attribute as JSON. -/
def toJson (attr : Attribute) : Json :=
  .object (attr.type.members ++ descriptionMembers attr.description?)

/-- The attribute that a JSON value describes. -/
def ofJson? : Json → Option Attribute
  | .object members => do
    let description ← field? "description" members
    let description? ← Json.optional string? description
    let type ← AttributeType.ofMembers? (members.filter fun member => member.1 ≠ "description")
    return ⟨type, description?⟩
  | _ => none

end Attribute

namespace Entity

/-- An entity as JSON. -/
def toJson (entity : Entity) : Json :=
  .object <| [("idAttribute", .string entity.idAttribute),
    ("attributes", ofDict (entity.attributes.map fun _ attr => attr.toJson))]
    ++ descriptionMembers entity.description?

/-- The entity that a JSON value describes. -/
def ofJson? (json : Json) : Option Entity :=
  match json.fields? ["idAttribute", "attributes", "description"] with
  | some [idAttribute, attributes, description] => do
    let idAttribute ← required string? idAttribute
    let attributes ← required (dict? Attribute.ofJson?) attributes
    let description? ← Json.optional string? description
    return ⟨idAttribute, attributes, description?⟩
  | _ => none

end Entity

namespace EnumType

/-- An enum type as JSON. -/
def toJson (enumType : EnumType) : Json :=
  .object [("constants", .array (enumType.constants.map .string))]

/-- The enum type that a JSON value describes. -/
def ofJson? (json : Json) : Option EnumType :=
  match json.fields? ["constants"] with
  | some [constants] => (required (list? string?) constants).map EnumType.mk
  | _ => none

end EnumType

namespace Model

/-- A model as JSON. -/
def toJson (model : Model) : Json :=
  .object [("entities", ofDict (model.entities.map fun _ entity => entity.toJson)),
    ("enumTypes", ofDict (model.enumTypes.map fun _ enumType => enumType.toJson))]

/-- The model that a JSON value describes. Enum types may be left out. -/
def ofJson? (json : Json) : Option Model :=
  match json.fields? ["entities", "enumTypes"] with
  | some [entities, enumTypes] => do
    let entities ← required (dict? Entity.ofJson?) entities
    let enumTypes ← defaulted Dict.empty (dict? EnumType.ofJson?) enumTypes
    return ⟨entities, enumTypes⟩
  | _ => none

end Model

end EntityGraph
