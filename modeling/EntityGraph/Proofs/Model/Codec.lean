import EntityGraph.Model.Codec
import EntityGraph.Proofs.Dict.Equality
import EntityGraph.Proofs.Json.Printing

/-!
# Models survive being written

Every type of the model is read back from the JSON value it is written as: no field is lost, none
is taken for another, and a field that is left out when there is nothing to say comes back as
nothing. The values hold no doubles and are nested a few levels deep.
-/

namespace EntityGraph

namespace Json

variable {α : Type} {encode : α → Json} {decode : Json → Option α}

/-- A list whose items are read back is read back. -/
theorem list?_map (decodes : ∀ value, decode (encode value) = some value) (values : List α) :
    list? decode (.array (values.map encode)) = some values := by
  have each : decode ∘ encode = pure := funext decodes
  rw [list?, List.mapM_map, each, List.mapM_pure, List.map_id']
  rfl

/-- A dictionary whose values are read back is read back. -/
theorem dict?_ofDict (decodes : ∀ value, decode (encode value) = some value) (dict : Dict α) :
    dict? decode (ofDict (dict.map fun _ value => encode value)) = some dict := by
  have each : (fun member : String × Json => (decode member.2).map (member.1, ·)) ∘
      (fun entry : String × α => (entry.1, encode entry.2)) = pure := by
    funext entry
    simp [decodes]
  rw [ofDict, Dict.map, dict?, List.mapM_map, each, List.mapM_pure, List.map_id']
  exact congrArg some dict.ofList_entries

/-- The object of a dictionary needs one level more than its values. -/
theorem storable_ofDict {levels : Nat} (each : ∀ value, (encode value).Storable levels)
    (dict : Dict α) : (ofDict (dict.map fun _ value => encode value)).Storable (levels + 1) := by
  refine storable_object fun member isMember => ?_
  obtain ⟨entry, _, rfl⟩ := List.mem_map.1 isMember
  exact each entry.2

end Json

open Json

theorem ScalarType.ofJson?_name (scalar : ScalarType) :
    ScalarType.ofJson? (.string scalar.name) = some scalar := by
  cases scalar <;> decide

theorem AssociationKind.ofJson?_name (kind : AssociationKind) :
    AssociationKind.ofJson? (.string kind.name) = some kind := by
  cases kind <;> decide

/-- An element type is read back. -/
theorem ElementType.ofJson?_toJson (element : ElementType) :
    ElementType.ofJson? element.toJson = some element := by
  cases element <;>
    simp [toJson, members, ofJson?, field?, fields?, asideTag?, tag?, kinds, ofFields?, required,
      string?, ScalarType.ofJson?_name]

theorem ElementType.storable_toJson (element : ElementType) (levels : Nat) :
    element.toJson.Storable (levels + 2) := by
  cases element <;> exact storable_object (by simp [members])

/-- The type of an attribute is read back from its members. -/
theorem AttributeType.ofMembers?_members (type : AttributeType) :
    AttributeType.ofMembers? type.members = some type := by
  cases type with
  | basic scalar =>
    simp [members, ofMembers?, field?, fields?, asideTag?, tag?, kinds, required,
      ScalarType.ofJson?_name]
  | enum enumType =>
    simp [members, ofMembers?, field?, fields?, asideTag?, tag?, kinds, required, string?]
  | collection element =>
    simp [members, ofMembers?, field?, fields?, asideTag?, tag?, kinds, required,
      ElementType.ofJson?_toJson]
  | association target kind mappedBy? =>
    cases mappedBy? <;>
      simp [members, ofMembers?, field?, fields?, asideTag?, tag?, kinds, required, string?,
        Json.optional, AssociationKind.ofJson?_name]

theorem AttributeType.storable_members (type : AttributeType) (levels : Nat) :
    ∀ member ∈ type.members, member.2.Storable (levels + 2) := by
  cases type with
  | association target kind mappedBy? => cases mappedBy? <;> simp [members]
  | collection element => simp [members, ElementType.storable_toJson]
  | _ => simp [members]

/-- A description is found behind members that are none. -/
theorem field?_descriptionMembers {members : List (String × Json)}
    (others : ∀ member ∈ members, member.1 ≠ "description") (description? : Option String) :
    field? "description" (members ++ descriptionMembers description?) =
      some (description?.map .string) := by
  have none : (members.filter fun member => member.1 = "description") = [] := by
    simpa using others
  rw [field?, List.filter_append, none, List.nil_append]
  cases description? <;> simp [descriptionMembers]

/-- The members that are no descriptions are those in front of it. -/
theorem filter_descriptionMembers {members : List (String × Json)}
    (others : ∀ member ∈ members, member.1 ≠ "description") (description? : Option String) :
    (members ++ descriptionMembers description?).filter (fun member => member.1 ≠ "description") =
      members := by
  have all : (members.filter fun member => member.1 ≠ "description") = members :=
    List.filter_eq_self.2 (by simpa using others)
  rw [List.filter_append, all]
  cases description? <;> simp [descriptionMembers]

/-- A description that is there or not is read back. -/
theorem optional_string_map (description? : Option String) :
    Json.optional string? (description?.map .string) = some description? := by
  cases description? <;> rfl

theorem storable_descriptionMembers (description? : Option String) (levels : Nat) :
    ∀ member ∈ descriptionMembers description?, member.2.Storable (levels + 1) := by
  cases description? <;> simp [descriptionMembers]

/-- No field of an attribute type is a description. -/
theorem AttributeType.ne_description_of_mem_members (type : AttributeType) :
    ∀ member ∈ type.members, member.1 ≠ "description" := by
  cases type with
  | association target kind mappedBy? => cases mappedBy? <;> simp [members]
  | _ => simp [members]

/-- An attribute is read back: its description is kept apart from the fields of its type. -/
theorem Attribute.ofJson?_toJson (attr : Attribute) :
    Attribute.ofJson? attr.toJson = some attr := by
  have others := attr.type.ne_description_of_mem_members
  simp only [toJson, ofJson?, field?_descriptionMembers others, filter_descriptionMembers others,
    AttributeType.ofMembers?_members, optional_string_map, bind, Option.bind, pure]

theorem Attribute.storable_toJson (attr : Attribute) (levels : Nat) :
    attr.toJson.Storable (levels + 3) :=
  storable_object (List.forall_mem_append.2 ⟨attr.type.storable_members levels,
    storable_descriptionMembers attr.description? (levels + 1)⟩)

/-- An entity is read back. -/
theorem Entity.ofJson?_toJson (entity : Entity) : Entity.ofJson? entity.toJson = some entity := by
  obtain ⟨idAttribute, attributes, description?⟩ := entity
  have decoded := dict?_ofDict Attribute.ofJson?_toJson attributes
  cases description? <;>
    simp [toJson, ofJson?, fields?, field?, descriptionMembers, required, string?, Json.optional,
      decoded]

theorem Entity.storable_toJson (entity : Entity) (levels : Nat) :
    entity.toJson.Storable (levels + 5) := by
  refine storable_object (List.forall_mem_append.2 ⟨?_,
    storable_descriptionMembers entity.description? (levels + 3)⟩)
  have attributes := storable_ofDict (fun attr : Attribute => attr.storable_toJson levels)
    entity.attributes
  simp [attributes]

/-- An enum type is read back. -/
theorem EnumType.ofJson?_toJson (enumType : EnumType) :
    EnumType.ofJson? enumType.toJson = some enumType := by
  have decodes (constant : String) : string? (.string constant) = some constant := rfl
  have constants := list?_map decodes enumType.constants
  simp [toJson, ofJson?, fields?, field?, required, constants]

theorem EnumType.storable_toJson (enumType : EnumType) (levels : Nat) :
    enumType.toJson.Storable (levels + 3) := by
  have constants : (Json.array (enumType.constants.map .string)).Storable (levels + 2) :=
    storable_array (by simp)
  exact storable_object (by simpa using constants)

/-- A model is read back. -/
theorem Model.ofJson?_toJson (model : Model) : Model.ofJson? model.toJson = some model := by
  have entities := dict?_ofDict Entity.ofJson?_toJson model.entities
  have enumTypes := dict?_ofDict EnumType.ofJson?_toJson model.enumTypes
  simp [toJson, ofJson?, fields?, field?, required, defaulted, entities, enumTypes]

theorem Model.storable_toJson (model : Model) (levels : Nat) :
    model.toJson.Storable (levels + 7) := by
  have entities := storable_ofDict (fun entity : Entity => entity.storable_toJson levels)
    model.entities
  have enumTypes := storable_ofDict
    (fun enumType : EnumType => enumType.storable_toJson (levels + 2)) model.enumTypes
  exact storable_object (by simpa using ⟨entities, enumTypes⟩)

end EntityGraph
