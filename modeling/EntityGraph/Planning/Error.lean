import EntityGraph.Json.Printer
import EntityGraph.Model.Basic
import EntityGraph.Request.Basic

/-!
# Requests that cannot be planned

A name of a request may be missing from the model, and an argument may have a value that
its attribute cannot be compared with.
-/

namespace EntityGraph

/-- A name that the model does not have. -/
inductive ModelError where
  | entityNotFound (entity : String)
  | attributeNotFound (entity attr : String)
  | notAnAssociation (entity attr : String)
  | enumTypeNotFound (enumType : String)

/-- The wording of a missing name. -/
def ModelError.message : ModelError → String
  | .entityNotFound entity => s!"Entity '{entity}' not found."
  | .attributeNotFound entity attr => s!"Attribute '{attr}' not found in entity '{entity}'."
  | .notAnAssociation entity attr =>
    s!"Attribute '{attr}' of entity '{entity}' is not an association."
  | .enumTypeNotFound enumType => s!"Enum type '{enumType}' not found."

/-- A value that an argument cannot take. -/
inductive CoercionError where
  | unboundVariable (name : String)
  | enumAttributeNotFound (entity argument : String)
  | notAnEnum (entity attr : String)
  | unknownEnumConstant (enumType constant : String)
  | invalidUuid (argument text : String)
  | invalidDirective (directive : InvalidDirective)
  | unsupportedJson (json : Json)

/-- The wording of a refused argument. -/
def CoercionError.message : CoercionError → String
  | .unboundVariable name => s!"Variable '{name}' is not bound."
  | .enumAttributeNotFound entity argument =>
    s!"Cannot resolve enum value for argument '{argument}': entity '{entity}' has no such " ++
      "attribute."
  | .notAnEnum entity attr => s!"Attribute '{attr}' of entity '{entity}' is not of an enum type."
  | .unknownEnumConstant enumType constant =>
    s!"'{constant}' is not a constant of enum type '{enumType}'."
  | .invalidUuid argument text => s!"Argument '{argument}' expects a uuid, got '{text}'."
  | .invalidDirective directive =>
    let choices := String.intercalate ", " directive.choices
    s!"Argument '{directive.argument}' expects one of {choices}, got " ++
      directive.value.describe ++ "."
  | .unsupportedJson json => s!"Unsupported JSON value: {json.compact}"

/-- Why a request cannot be planned. -/
inductive PlanningError where
  | model (error : ModelError)
  | coercion (error : CoercionError)

/-- The wording of a refused request. -/
def PlanningError.message : PlanningError → String
  | .model error => error.message
  | .coercion error => error.message

end EntityGraph
