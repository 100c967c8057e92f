import EntityGraph.Json.Printer
import EntityGraph.Proofs.Store.Obtained
import EntityGraph.Proofs.Value.Equality

/-!
# What tells instances apart

Instances of an entity are kept apart by the texts of their ids, while predicates compare the
values of the id attribute. An integer and a string are the value of one text only, so that
different instances have different ids. An identifier is written in several ways, and so is a
double: each way of writing it is an instance of its own, with an id that equals the others.
-/

namespace EntityGraph

/-- A text that stands for a value of an id attribute. -/
inductive ScalarType.Writes : ScalarType → String → Value → Prop where
  | uuid {id : String} {uuid : Uuid} (read : Uuid.ofText? id = some uuid) :
    Writes .uuid id (.uuid uuid)
  | text {scalar : ScalarType} {id : String} (textual : scalar.isTextual = true) :
    Writes scalar id (.string id)
  | integer {scalar : ScalarType} {n : Int} (integral : scalar.isIntegral = true) :
    Writes scalar (toString n) (.int n)
  | fraction {scalar : ScalarType} {n : Number} (fractional : scalar.isFractional = true) :
    Writes scalar n.text (.float n.toFloat)

namespace ScalarType

variable {scalar : ScalarType} {id leftText rightText : String} {value left right : Value}

/-- The text of an id stands for what the id is read as. -/
theorem writes_of_decode {json : Json} (named : idText? json = some id)
    (decoded : scalar.decode json = .ok value) : scalar.Writes id value := by
  cases decode_eq_ok_iff.1 decoded with
  | null | bool => cases named
  | int integral =>
    cases named
    exact .integer integral
  | float fractional =>
    cases named
    exact .fraction fractional
  | uuid read =>
    cases named
    exact .uuid (by rw [Uuid.ofText?, read]; rfl)
  | string textual =>
    cases named
    exact .text textual

/-- No type is both of strings and of integers. -/
theorem isIntegral_of_isTextual (textual : scalar.isTextual = true) :
    scalar.isIntegral = false := by
  cases scalar with
  | smallint | integer | bigint => cases textual
  | _ => rfl

/-- Apart from doubles, values of an id attribute are equal if one text stands for both, or two
texts that are read as one identifier. -/
theorem Writes.equals_iff (exact : scalar.isFractional = false)
    (leftWritten : scalar.Writes leftText left) (rightWritten : scalar.Writes rightText right) :
    left.equals right = true ↔
      leftText = rightText ∨
        scalar = .uuid ∧ Uuid.ofText? leftText = Uuid.ofText? rightText := by
  cases leftWritten with
  | uuid leftRead =>
    cases rightWritten with
    | uuid rightRead =>
      rw [Value.equals_uuid_iff, leftRead, rightRead, Option.some.injEq]
      refine ⟨fun same => .inr ⟨rfl, same⟩, ?_⟩
      rintro (rfl | ⟨_, same⟩)
      · exact Option.some.inj (leftRead.symm.trans rightRead)
      · exact same
    | text textual => cases textual
    | integer integral => cases integral
    | fraction fractional => cases fractional
  | text leftTextual =>
    have notUuid : scalar ≠ .uuid := by
      rintro rfl
      cases leftTextual
    cases rightWritten with
    | uuid _ => cases leftTextual
    | text _ => simp [Value.equals_string_iff, notUuid]
    | integer integral =>
      rw [isIntegral_of_isTextual leftTextual] at integral
      cases integral
    | fraction fractional => simp [fractional] at exact
  | integer leftIntegral =>
    have notUuid : scalar ≠ .uuid := by
      rintro rfl
      cases leftIntegral
    cases rightWritten with
    | uuid _ => cases leftIntegral
    | text textual =>
      rw [isIntegral_of_isTextual textual] at leftIntegral
      cases leftIntegral
    | integer _ =>
      simp only [Value.equals_int_iff, notUuid, false_and, or_false]
      exact Int.repr_inj.symm
    | fraction fractional => simp [fractional] at exact
  | fraction fractional => simp [fractional] at exact

end ScalarType

namespace Store

variable {model : Model} {store : Store}

/-- Every row of a store of a model is that of a record, its mapped attributes filled in. -/
theorem Obtained.exists_record (obtained : Obtained model store) {ref : EntityRef} {row : Row}
    (found : store.row ref = .ok row) :
    ∃ (raw : Store) (record : Dict Json) (given : Row), raw.model = model ∧
      model.decodeRecord ref.entity record = .ok (ref.id, given) ∧
      row = raw.filled ref given := by
  cases obtained with
  | empty => exact absurd found row_empty_ne_ok
  | loaded done =>
    obtain ⟨json, raw, numeric, made, rfl, _⟩ := exists_raw_of_load done
    obtain ⟨given, present, same⟩ := (row_withMapped raw ref).1 found
    obtain ⟨_, _, record, _, read⟩ := exists_record_of_ofRecords made present
    exact ⟨raw, record, given, (decoded_of_ofRecords numeric made).1, read, same⟩

/-- The id attribute of an instance holds a value that the text of its reference stands for. -/
theorem Obtained.exists_id (obtained : Obtained model store) {ref : EntityRef} {entity : Entity}
    {scalar : ScalarType} {description? : Option String} (stored : store.Stored ref)
    (declared : model.entity? ref.entity = some entity)
    (typed : entity.attributes.get? entity.idAttribute = some ⟨.basic scalar, description?⟩) :
    ∃ id, store.attributeValue (.entity ref) entity.idAttribute = .ok id ∧
      scalar.Writes ref.id id := by
  obtain ⟨row, found⟩ := contains_iff.1 stored
  obtain ⟨raw, record, given, rfl, read, rfl⟩ := obtained.exists_record found
  obtain ⟨id, decoded, held⟩ :=
    Model.exists_value_of_decodeRecord read declared typed rfl
  obtain ⟨_, _, again, ⟨json, present, named⟩, _, _⟩ := Model.exists_of_decodeRecord read
  cases declared.symm.trans again
  refine ⟨id, ?_, ?_⟩
  · rw [← get?_filled_direct declared typed rfl] at held
    exact bind_eq_ok_iff.2 ⟨_, found, by rw [held]; rfl⟩
  · rw [present, Option.getD_some] at decoded
    obtain ⟨value, decoded, same⟩ := map_eq_ok_iff.1 decoded
    cases same
    exact ScalarType.writes_of_decode named decoded

/-- Apart from doubles, the ids of two instances of an entity are equal if the instances are one,
or if their texts are two ways to write one identifier. -/
theorem equal_ids_iff_same_instance {model : Model} {store : Store} {left right : EntityRef}
    {entity : Entity} {scalar : ScalarType} {description? : Option String}
    (obtained : Obtained model store) (leftStored : store.contains left = true)
    (rightStored : store.contains right = true) (alike : left.entity = right.entity)
    (declared : model.entity? left.entity = some entity)
    (typed : entity.attributes.get? entity.idAttribute = some ⟨.basic scalar, description?⟩)
    (exact : scalar.isFractional = false) :
    ∃ leftId rightId, store.attributeValue (.entity left) entity.idAttribute = .ok leftId ∧
      store.attributeValue (.entity right) entity.idAttribute = .ok rightId ∧
      (leftId.equals rightId = true ↔
        left = right ∨ scalar = .uuid ∧ Uuid.ofText? left.id = Uuid.ofText? right.id) := by
  obtain ⟨leftId, leftHeld, leftWritten⟩ := obtained.exists_id leftStored declared typed
  obtain ⟨rightId, rightHeld, rightWritten⟩ :=
    obtained.exists_id rightStored (alike ▸ declared) typed
  refine ⟨leftId, rightId, leftHeld, rightHeld, ?_⟩
  rw [leftWritten.equals_iff exact rightWritten, EntityRef.mk.injEq]
  simp only [alike, true_and]

end Store

/-! ## Devices -/

/-- Devices whose ids are identifiers. -/
def Model.devices : Model where
  entities := Dict.ofList [("Device", ⟨"id", Dict.ofList [("id", ⟨.basic .uuid, none⟩)], none⟩)]
  enumTypes := Dict.empty

/-- The records of two devices, whose ids are one identifier in two ways of writing. -/
def devicesJson : Json :=
  .object [("Device", .array [
    .object [("id", .string "0000000a-0000-0000-0000-000000000001")],
    .object [("id", .string "0000000A-0000-0000-0000-000000000001")]])]

/-- The store of the devices. -/
def Store.devices : Store :=
  (Store.ofJson Model.devices devicesJson).toOption.getD (Store.empty Model.devices)

theorem load_devices :
    Store.load Model.devices (String.ofList devicesJson.compactChars) = .ok Store.devices := by
  have read : Json.readText (.map (.list (.map .any))) devicesJson.compactChars =
      .ok devicesJson := by
    cbv
  rw [Store.load_ofList read]
  exact eq_ok_of_isOk (by decide +kernel)

/-- The ids of the two devices are equal, as their texts are two ways to write one identifier. -/
theorem ids_of_devices_equal_iff :
    Store.devices.contains ⟨"Device", "0000000a-0000-0000-0000-000000000001"⟩ = true ∧
      Store.devices.contains ⟨"Device", "0000000A-0000-0000-0000-000000000001"⟩ = true ∧
      ∃ leftId rightId,
        Store.devices.attributeValue
          (.entity ⟨"Device", "0000000a-0000-0000-0000-000000000001"⟩) "id" = .ok leftId ∧
        Store.devices.attributeValue
          (.entity ⟨"Device", "0000000A-0000-0000-0000-000000000001"⟩) "id" = .ok rightId ∧
        (leftId.equals rightId = true ↔
          (⟨"Device", "0000000a-0000-0000-0000-000000000001"⟩ : EntityRef) =
              ⟨"Device", "0000000A-0000-0000-0000-000000000001"⟩ ∨
            ScalarType.uuid = .uuid ∧
              Uuid.ofText? "0000000a-0000-0000-0000-000000000001" =
                Uuid.ofText? "0000000A-0000-0000-0000-000000000001") := by
  have lower : Store.devices.contains
      ⟨"Device", "0000000a-0000-0000-0000-000000000001"⟩ = true := by
    decide +kernel
  have upper : Store.devices.contains
      ⟨"Device", "0000000A-0000-0000-0000-000000000001"⟩ = true := by
    decide +kernel
  exact ⟨lower, upper,
    Store.equal_ids_iff_same_instance (.loaded load_devices) lower upper rfl rfl rfl rfl⟩

/-- A consistent model and data that is accepted may have two instances with equal ids. -/
theorem devices_share_an_id :
    Model.devices.Consistent ∧
      Store.load Model.devices (String.ofList devicesJson.compactChars) = .ok Store.devices ∧
      Store.devices.refs "Device" = .ok
        [⟨"Device", "0000000a-0000-0000-0000-000000000001"⟩,
          ⟨"Device", "0000000A-0000-0000-0000-000000000001"⟩] ∧
      ∃ leftId rightId,
        Store.devices.attributeValue
          (.entity ⟨"Device", "0000000a-0000-0000-0000-000000000001"⟩) "id" = .ok leftId ∧
        Store.devices.attributeValue
          (.entity ⟨"Device", "0000000A-0000-0000-0000-000000000001"⟩) "id" = .ok rightId ∧
        leftId.equals rightId = true := by
  refine ⟨by decide +kernel, load_devices, by rfl, .uuid ⟨0xa000000000000000000000001⟩,
    .uuid ⟨0xa000000000000000000000001⟩, ?_, ?_, by decide +kernel⟩
  · rfl
  · rfl

end EntityGraph
