import EntityGraph.Model.Basic

/-!
# Consistency of entity models

A model is consistent if every entity has a basic id attribute, every enum type and every
target of an association is declared, and every attribute that maps an association is
itself an association back to the entity. `Model.faults` lists what is wrong, entity by
entity and attribute by attribute in ascending order of name.
-/

namespace EntityGraph

/-- A single inconsistency of a model. -/
inductive ModelFault where
  | missingIdAttribute (entity idAttribute : String)
  | invalidIdAttribute (entity idAttribute : String)
  | unknownTarget (entity attr target : String)
  | unknownEnumType (entity attr enumType : String)
  | invalidMappedBy (entity attr target mappedBy : String)
deriving DecidableEq

/-- The wording of an inconsistency. -/
def ModelFault.message : ModelFault → String
  | .missingIdAttribute entity idAttribute =>
    s!"entity '{entity}' has no id attribute '{idAttribute}'"
  | .invalidIdAttribute entity idAttribute =>
    s!"the id attribute '{idAttribute}' of entity '{entity}' must be a basic attribute"
  | .unknownTarget entity attr target =>
    s!"attribute '{attr}' of entity '{entity}' targets unknown entity '{target}'"
  | .unknownEnumType entity attr enumType =>
    s!"attribute '{attr}' of entity '{entity}' uses unknown enum type '{enumType}'"
  | .invalidMappedBy entity attr target mappedBy =>
    s!"attribute '{attr}' of entity '{entity}' is mapped by '{mappedBy}', which is not an " ++
      s!"association of '{target}' back to '{entity}'"

namespace Model

/-- What is wrong with the id attribute of an entity. -/
def idFaults (name : String) (entity : Entity) : List ModelFault :=
  match entity.attributes.get? entity.idAttribute with
  | none => [.missingIdAttribute name entity.idAttribute]
  | some ⟨.basic _, _⟩ => []
  | some _ => [.invalidIdAttribute name entity.idAttribute]

/-- Whether an attribute of `target` is an association with `entity`. -/
def mapsBack (model : Model) (entity target mappedBy : String) : Bool :=
  match model.attribute? target mappedBy with
  | some ⟨.association back _ _, _⟩ => back = entity
  | _ => false

/-- What is wrong with an attribute of an entity. -/
def attributeFaults (model : Model) (entity attr : String) (type : AttributeType) :
    List ModelFault :=
  match type with
  | .basic _ | .collection (.basic _) => []
  | .enum enumType | .collection (.enum enumType) =>
    if (model.enumType? enumType).isSome then [] else [.unknownEnumType entity attr enumType]
  | .association target _ mappedBy? =>
    if (model.entity? target).isNone then [.unknownTarget entity attr target]
    else
      match mappedBy? with
      | none => []
      | some mappedBy =>
        if model.mapsBack entity target mappedBy then []
        else [.invalidMappedBy entity attr target mappedBy]

/-- What is wrong with an entity. -/
def entityFaults (model : Model) (name : String) (entity : Entity) : List ModelFault :=
  idFaults name entity ++ entity.attributes.entries.flatMap fun (attr, info) =>
    model.attributeFaults name attr info.type

/-- Every inconsistency of a model. -/
def faults (model : Model) : List ModelFault :=
  model.entities.entries.flatMap fun (name, entity) => model.entityFaults name entity

/-- Whether a model has no inconsistency. -/
def Consistent (model : Model) : Prop :=
  model.faults = []

instance (model : Model) : Decidable model.Consistent :=
  inferInstanceAs (Decidable (model.faults = []))

end Model

end EntityGraph
