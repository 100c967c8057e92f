import EntityGraph.Json.Printer
import EntityGraph.Json.Refusal
import EntityGraph.Model.Basic
import EntityGraph.Plan.Basic

/-!
# Failures of a store

A store refuses data that its model does not describe, and plans that name what is not
there. Each failure keeps what it is about; the wording is added by `message`.
-/

namespace EntityGraph

/-- Why a JSON value cannot be the value of an attribute. -/
inductive AttributeFault where
  | wrongScalar (expected : ScalarType) (found : Json)
  | invalidUuid (found : Json) (refusal : Uuid.Refusal)
  | unknownConstant (enumType : String) (found : Json)
  | listExpected (found : Json)
  | invalidId (target : String) (found : Json)

/-- The wording of a refused attribute value. -/
def AttributeFault.message : AttributeFault → String
  | .wrongScalar expected found => s!"expected {expected.name}, found {found.compact}"
  | .invalidUuid found refusal => s!"expected uuid, found {found.compact}: {refusal.message}"
  | .unknownConstant enumType found => s!"{found.compact} is not a constant of {enumType}"
  | .listExpected found => s!"expected a list, found {found.compact}"
  | .invalidId target found => s!"{found.compact} is not an id of {target}"

/-- What is wrong with the records of an entity. -/
inductive DataFault where
  | withoutId (idAttribute : String)
  | unknownAttribute (attr id : String)
  | badAttribute (attr id : String) (fault : AttributeFault)
  | duplicateId (id : String)
  | missingInstance (id : String)

/-- The wording of a fault in the records. -/
def DataFault.message : DataFault → String
  | .withoutId idAttribute => s!"record without a valid '{idAttribute}'"
  | .unknownAttribute attr id => s!"unknown attribute '{attr}' on id {id}"
  | .badAttribute attr id fault => s!"attribute '{attr}' of id {id}: {fault.message}"
  | .duplicateId id => s!"duplicate id {id}"
  | .missingInstance id => s!"no instance with id {id}"

/-- Why a store cannot be loaded or a plan cannot be executed. -/
inductive ExecutionError where
  | entityNotStored (entity : String)
  | attributeNotFound (entity attr : String)
  | unboundAlias (name : Alias)
  | notAnInstance (found : Value)
  | notAnAssociation (entity attr : String)
  | invalidData (entity : String) (fault : DataFault)
  | unreadableData (error : Json.ReadError)
  | danglingReference (source target : EntityRef)
  | nonUniqueFetch (source : EntityRef) (attr : String)

/-- The wording of a failure. -/
def ExecutionError.message : ExecutionError → String
  | .entityNotStored entity => s!"entity '{entity}' is not stored"
  | .attributeNotFound entity attr => s!"entity '{entity}' has no attribute '{attr}'"
  | .unboundAlias name => s!"alias {name.text} is not bound in this query"
  | .notAnInstance found => s!"{found.describe} is not an entity instance"
  | .notAnAssociation entity attr => s!"{entity}.{attr} is not an entity instance"
  | .invalidData entity fault => s!"invalid data for entity '{entity}': {fault.message}"
  | .unreadableData error => s!"unable to decode the data file: {error.message}"
  | .danglingReference source target =>
    s!"'{source.entity}' with id {source.id} refers to missing '{target.entity}' with id " ++
      target.id
  | .nonUniqueFetch source attr =>
    s!"fetching '{attr}' of '{source.entity}' with id {source.id} yields more than one instance"

end EntityGraph
