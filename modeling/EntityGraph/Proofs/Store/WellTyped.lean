import EntityGraph.Proofs.Store.Lookup
import EntityGraph.Proofs.Value.Typing

/-!
# Well typed stores

A store is well typed if every entity of its model has a table and every row holds a value
of its type for every attribute of its entity. Then nothing that an instance has can be
missing: its attributes can be read, its associations lead to instances of their target, and
the instance can be retrieved.
-/

namespace EntityGraph

/-- Whether a row holds a value of its type for every attribute of an entity. -/
def Entity.RowFits (entity : Entity) (stored : EntityRef → Prop) (row : Row) : Prop :=
  ∀ attr info, entity.attributes.get? attr = some info →
    ∃ value, row.get? attr = some value ∧ value.Fits stored info.type

namespace Store

/-- Whether there is an instance behind a reference, as a proposition. -/
abbrev Stored (store : Store) (ref : EntityRef) : Prop :=
  store.contains ref = true

/-- A store whose rows are as its model says. -/
structure WellTyped (store : Store) : Prop where
  tables : ∀ entity info, store.model.entity? entity = some info →
    ∃ table, store.tables.get? entity = some table
  rows : ∀ ref row, store.row ref = .ok row →
    ∃ entity, store.model.entity? ref.entity = some entity ∧ entity.RowFits store.Stored row

/-- What an alias of an entity is bound to: an instance of the entity, or null. -/
def Binds (store : Store) (entity : String) (binding : Value) : Prop :=
  binding = .null ∨ ∃ ref, binding = .entity ref ∧ ref.entity = entity ∧ store.Stored ref

namespace WellTyped

variable {store : Store} {ref : EntityRef} {attr : String} {info : Attribute}

/-- The entity of an instance is declared. -/
theorem exists_entity (typed : store.WellTyped) (present : store.Stored ref) :
    ∃ entity, store.model.entity? ref.entity = some entity := by
  obtain ⟨row, found⟩ := contains_iff.1 present
  obtain ⟨entity, declared, _⟩ := typed.rows ref row found
  exact ⟨entity, declared⟩

/-- An instance has a value of its type for each attribute of its entity. -/
theorem exists_attributeValue (typed : store.WellTyped) (present : store.Stored ref)
    (known : store.model.attribute? ref.entity attr = some info) :
    ∃ value, store.attributeValue (.entity ref) attr = .ok value ∧
      value.Fits store.Stored info.type := by
  obtain ⟨row, found⟩ := contains_iff.1 present
  obtain ⟨entity, declared, fits⟩ := typed.rows ref row found
  simp only [Model.attribute?, declared, Option.bind_some] at known
  obtain ⟨value, held, fitsType⟩ := fits attr info known
  refine ⟨value, ?_, fitsType⟩
  simp only [attributeValue, bind_eq_ok_iff]
  exact ⟨row, found, by rw [held]; rfl⟩

/-- What an alias is bound to has a value of its type, or null, for each attribute. -/
theorem exists_value_of_binds (typed : store.WellTyped) {entity : String} {binding : Value}
    (binds : store.Binds entity binding)
    (known : store.model.attribute? entity attr = some info) :
    ∃ value, store.attributeValue binding attr = .ok value ∧
      (value = .null ∨ value.Fits store.Stored info.type) := by
  rcases binds with rfl | ⟨ref, rfl, rfl, present⟩
  · exact ⟨.null, rfl, .inl rfl⟩
  · obtain ⟨value, held, fits⟩ := typed.exists_attributeValue present known
    exact ⟨value, held, .inr fits⟩

/-- What an alias is bound to can be followed along each attribute. -/
theorem navigate_of_binds (typed : store.WellTyped) {entity : String} {binding : Value}
    (binds : store.Binds entity binding)
    (known : store.model.attribute? entity attr = some info) :
    store.navigate binding attr = .ok (store.targets binding attr) := by
  obtain ⟨value, held, _⟩ := typed.exists_value_of_binds binds known
  have navigated : store.navigate binding attr = .ok value.elements :=
    bind_eq_ok_iff.2 ⟨value, held, rfl⟩
  rw [navigated, targets_eq_of_navigate navigated]

/-- Associations lead to instances of their target. -/
theorem exists_ref_of_target (typed : store.WellTyped) {entity : String} {binding : Value}
    (binds : store.Binds entity binding)
    (known : store.model.attribute? entity attr = some info) {relationship : Relationship}
    (related : info.type.relationship? entity attr = some relationship) {target : Value}
    (member : target ∈ store.targets binding attr) :
    ∃ ref, target = .entity ref ∧ ref.entity = relationship.target ∧ store.Stored ref := by
  obtain ⟨value, held, fits⟩ := typed.exists_value_of_binds binds known
  have navigated : store.navigate binding attr = .ok value.elements :=
    bind_eq_ok_iff.2 ⟨value, held, rfl⟩
  rw [targets_eq_of_navigate navigated] at member
  rcases fits with rfl | fits
  · cases member
  · cases type : info.type with
    | association target kind mappedBy? =>
      rw [type] at fits related
      obtain ⟨ref, same, ofTarget, present⟩ := fits _ member
      refine ⟨ref, same, ?_, present⟩
      rw [ofTarget]
      cases kind <;> cases mappedBy? <;> cases related <;> rfl
    | _ =>
      rw [type] at related
      cases related

/-- An instance can be retrieved. -/
theorem exists_retrieve (typed : store.WellTyped) (present : store.Stored ref) :
    ∃ inst, store.retrieve ref = .ok inst := by
  obtain ⟨row, found⟩ := contains_iff.1 present
  obtain ⟨entity, declared, _⟩ := typed.rows ref row found
  refine ⟨⟨ref, plainFields entity row⟩, bind_eq_ok_iff.2 ⟨row, found, ?_⟩⟩
  rw [declared]
  rfl

/-- The instances of a declared entity can be listed. -/
theorem exists_refs (typed : store.WellTyped) {entity : String} {info : Entity}
    (declared : store.model.entity? entity = some info) :
    ∃ refs, store.refs entity = .ok refs := by
  obtain ⟨table, found⟩ := typed.tables entity info declared
  exact ⟨_, bind_eq_ok_iff.2 ⟨table, table_eq_ok_iff.2 found, rfl⟩⟩

end WellTyped

end Store

end EntityGraph
