import EntityGraph.Model.Validation
import EntityGraph.Proofs.Dict

/-!
# What consistency says of an attribute

A consistent model has no faults, and so none at any one attribute: the enum type of the
attribute is declared, the target of an association is declared too, and the attribute that
maps an association leads back.
-/

namespace EntityGraph

namespace AttributeType

/-- A relationship is that of an association with its target. -/
theorem exists_of_relationship? {type : AttributeType} {source attr : String}
    {relationship : Relationship} (related : type.relationship? source attr = some relationship) :
    ∃ kind mappedBy?, type = .association relationship.target kind mappedBy? ∧
      ∀ owner, relationship.ownership = .mappedBy owner → mappedBy? = some owner := by
  cases type with
  | association target kind mappedBy? =>
    refine ⟨kind, mappedBy?, ?_, ?_⟩
    all_goals
      cases kind <;> cases mappedBy? <;> cases related
    all_goals simp
  | _ => cases related

/-- An association has a relationship with its target. -/
theorem exists_relationship? (source attr target : String) (kind : AssociationKind)
    (mappedBy? : Option String) :
    ∃ relationship, (association target kind mappedBy?).relationship? source attr =
      some relationship ∧ relationship.target = target := by
  cases kind <;> cases mappedBy? <;> exact ⟨_, rfl, rfl⟩

end AttributeType

namespace Model

variable {model : Model} {entity attr : String} {info : Attribute}

/-- A declared attribute is one of a declared entity. -/
theorem exists_entity_of_attribute? (known : model.attribute? entity attr = some info) :
    ∃ owner, model.entity? entity = some owner ∧ owner.attributes.get? attr = some info :=
  Option.bind_eq_some_iff.1 known

namespace Consistent

/-- Nothing is wrong with an attribute of a consistent model. -/
theorem attributeFaults_eq_nil (consistent : model.Consistent)
    (known : model.attribute? entity attr = some info) :
    model.attributeFaults entity attr info.type = [] := by
  obtain ⟨owner, declared, held⟩ := exists_entity_of_attribute? known
  have ofEntity : model.entityFaults entity owner = [] :=
    List.flatMap_eq_nil_iff.1 consistent (entity, owner) (Dict.get?_eq_some_iff.1 declared)
  exact List.flatMap_eq_nil_iff.1 (List.append_eq_nil_iff.1 ofEntity).2 (attr, info)
    (Dict.get?_eq_some_iff.1 held)

/-- The enum type of an attribute is declared. -/
theorem exists_enumType (consistent : model.Consistent)
    (known : model.attribute? entity attr = some info) {enumType : String}
    (used : info.type.enum? = some enumType) :
    ∃ declared, model.enumType? enumType = some declared := by
  have none := consistent.attributeFaults_eq_nil known
  rw [← Option.isSome_iff_exists]
  cases type : info.type with
  | enum other =>
    rw [type] at none used
    cases used
    simpa [attributeFaults, Option.isSome_iff_ne_none] using none
  | collection element =>
    cases element with
    | basic scalar =>
      rw [type] at used
      cases used
    | enum other =>
      rw [type] at none used
      cases used
      simpa [attributeFaults, Option.isSome_iff_ne_none] using none
  | _ =>
    rw [type] at used
    cases used

variable {relationship : Relationship}

/-- The target of an association is declared. -/
theorem exists_target (consistent : model.Consistent)
    (known : model.attribute? entity attr = some info)
    (related : info.type.relationship? entity attr = some relationship) :
    ∃ target, model.entity? relationship.target = some target := by
  have none := consistent.attributeFaults_eq_nil known
  obtain ⟨kind, mappedBy?, type, _⟩ := AttributeType.exists_of_relationship? related
  rw [type] at none
  cases declared : model.entity? relationship.target with
  | none =>
    unfold attributeFaults at none
    simp [declared] at none
  | some target => exact ⟨target, rfl⟩

/-- The attribute that maps an association is an association back. -/
theorem exists_owner (consistent : model.Consistent)
    (known : model.attribute? entity attr = some info)
    (related : info.type.relationship? entity attr = some relationship) {owner : String}
    (mapped : relationship.ownership = .mappedBy owner) :
    ∃ kind mappedBy? description?, model.attribute? relationship.target owner =
      some ⟨.association entity kind mappedBy?, description?⟩ := by
  have none := consistent.attributeFaults_eq_nil known
  obtain ⟨kind, mappedBy?, type, byOwner⟩ := AttributeType.exists_of_relationship? related
  rw [type, byOwner owner mapped, attributeFaults] at none
  split at none
  · cases none
  · split at none
    · next back =>
      unfold mapsBack at back
      split at back
      · next target other mappedBy? description? found =>
        rw [of_decide_eq_true back] at found
        exact ⟨other, mappedBy?, description?, found⟩
      · cases back
    · cases none

end Consistent

end Model

end EntityGraph
