import EntityGraph.Proofs.Dict.Equality
import EntityGraph.Proofs.Store.Mirror

/-!
# Rows that conform to their entity

`Value.Fits` says as much of a value as a plan needs to know. Loading promises more. A constant
is one that its enum type declares, the elements of a collection are of its element type, and an
association is null, one reference, or a list of references, each to a stored instance of the
target. A row has a value for the attributes of its entity and for no other name.

This holds of every text that can be loaded, whether or not its model is consistent: a text with
a reference that leads nowhere is refused, and so is one with an attribute that is not declared.
-/

namespace EntityGraph

namespace Value

/-- Whether a value is null or a declared constant of an enum type. -/
def IsConstant (model : Model) (enumType : String) (value : Value) : Prop :=
  value = .null ∨ ∃ declared constant, model.enumType? enumType = some declared ∧
    constant ∈ declared.constants ∧ value = .enum enumType constant

/-- Whether a value can be an element of a collection. -/
def IsElement (model : Model) (element : ElementType) (value : Value) : Prop :=
  match element with
  | .basic scalar => value.HasScalar scalar
  | .enum enumType => value.IsConstant model enumType

/-- Whether a value is a reference to a stored instance of an entity. -/
def IsReference (stored : EntityRef → Prop) (target : String) (value : Value) : Prop :=
  ∃ id, value = .entity ⟨target, id⟩ ∧ stored ⟨target, id⟩

/-- Whether a value is as an attribute declares it. -/
def Conforms (model : Model) (stored : EntityRef → Prop) (type : AttributeType) (value : Value) :
    Prop :=
  match type with
  | .basic scalar => value.HasScalar scalar
  | .enum enumType => value.IsConstant model enumType
  | .collection element =>
    ∃ items, value = .array items ∧ ∀ item ∈ items, item.IsElement model element
  | .association target _ _ =>
    value = .null ∨ value.IsReference stored target ∨
      ∃ items, value = .array items ∧ ∀ item ∈ items, item.IsReference stored target

/-- An association whose elements are references is null, a reference, or a list of them. -/
theorem conforms_association {model : Model} {stored : EntityRef → Prop} {value : Value}
    {target : String} {kind : AssociationKind} {mappedBy? : Option String}
    (fits : value.Fits stored (.association target kind mappedBy?)) :
    value.Conforms model stored (.association target kind mappedBy?) := by
  have isReference {element : Value} (member : element ∈ value.elements) :
      element.IsReference stored target := by
    obtain ⟨⟨_, id⟩, rfl, rfl, present⟩ := fits element member
    exact ⟨id, rfl, present⟩
  cases value with
  | null => exact .inl rfl
  | array items => exact .inr (.inr ⟨items, rfl, fun item member => isReference member⟩)
  | _ => exact .inr (.inl (isReference (List.mem_singleton_self _)))

end Value

namespace Model

variable {model : Model} {json : Json} {value : Value}

/-- Only declared constants are decoded. -/
theorem isConstant_of_decodeConstant {enumType : String}
    (decoded : model.decodeConstant enumType json = .ok value) :
    value.IsConstant model enumType := by
  rcases decodeConstant_eq_ok_iff.1 decoded with ⟨_, rfl⟩ | ⟨constant, known, _, rfl⟩
  · exact .inl rfl
  · obtain ⟨position, found⟩ := Option.isSome_iff_exists.1 known
    obtain ⟨declared, named, held⟩ := Option.bind_eq_some_iff.1 found
    have listed : constant ∈ declared.constants := by
      rw [← List.isSome_idxOf?, held]
      rfl
    exact .inr ⟨declared, constant, named, listed, rfl⟩

theorem isElement_of_decodeElement {element : ElementType} (numeric : json.Numeric)
    (decoded : model.decodeElement element json = .ok value) : value.IsElement model element := by
  cases element with
  | basic scalar => exact ScalarType.hasScalar_of_decode numeric decoded
  | enum enumType => exact isConstant_of_decodeConstant decoded

/-- Every item of a decoded collection is of its element type. -/
theorem exists_elements_of_decodeCollection {element : ElementType} (numeric : json.Numeric)
    (decoded : model.decodeCollection element json = .ok value) :
    ∃ items, value = .array items ∧ ∀ item ∈ items, item.IsElement model element := by
  rcases decodeCollection_eq_ok_iff.1 decoded with ⟨_, rfl⟩ | ⟨sources, items, each, rfl, rfl⟩
  · exact ⟨[], rfl, fun item member => nomatch member⟩
  · cases numeric with
    | array eachNumeric =>
      refine ⟨items, rfl, fun item member => ?_⟩
      obtain ⟨source, listed, read⟩ := exists_of_mem_mapM each member
      exact isElement_of_decodeElement (eachNumeric source listed) read

/-- What is decoded for an attribute other than an association conforms to it, whatever is
stored. -/
theorem conforms_of_decodeAttribute {stored : EntityRef → Prop} {type : AttributeType}
    (plain : type.isAssociation = false) (numeric : json.Numeric)
    (decoded : model.decodeAttribute type json = .ok (some value)) :
    value.Conforms model stored type := by
  cases type with
  | basic scalar =>
    obtain ⟨found, read, same⟩ := map_eq_ok_iff.1 decoded
    cases same
    exact ScalarType.hasScalar_of_decode numeric read
  | enum enumType =>
    obtain ⟨found, read, same⟩ := map_eq_ok_iff.1 decoded
    cases same
    exact isConstant_of_decodeConstant read
  | collection element =>
    obtain ⟨found, read, same⟩ := map_eq_ok_iff.1 decoded
    cases same
    exact exists_elements_of_decodeCollection numeric read
  | association => cases plain

/-- A decoded row holds nothing but attributes of its entity. -/
theorem exists_attribute_of_decodeRecord {name id attr : String} {record : Dict Json} {row : Row}
    {entity : Entity} (decoded : model.decodeRecord name record = .ok (id, row))
    (declared : model.entity? name = some entity) (held : row.get? attr = some value) :
    ∃ info, entity.attributes.get? attr = some info := by
  obtain ⟨_, values, again, _, each, rfl⟩ := exists_of_decodeRecord decoded
  cases declared.symm.trans again
  obtain ⟨named?, member, rfl⟩ := List.mem_filterMap.1 (Dict.mem_of_get?_ofList held)
  obtain ⟨⟨other, info⟩, present, first⟩ := exists_of_mem_mapM each member
  obtain ⟨value?, _, same⟩ := decodeEntry_eq_ok_iff.1 first
  obtain ⟨_, _, pair⟩ := Option.map_eq_some_iff.1 same.symm
  cases pair
  exact ⟨info, Dict.get?_eq_some_iff.2 present⟩

end Model

/-- A row with a conforming value for each attribute of an entity and for no other name. -/
structure Entity.RowConforms (entity : Entity) (model : Model) (stored : EntityRef → Prop)
    (row : Row) : Prop where
  names : row.names = entity.attributes.names
  values : ∀ attr info, entity.attributes.get? attr = some info →
    ∃ value, row.get? attr = some value ∧ value.Conforms model stored info.type

namespace Store

variable {model : Model}

/-- A filled row holds nothing but attributes of its entity, if the row did before. -/
theorem exists_attribute_of_filled {raw : Store} {ref : EntityRef} {entity : Entity} {row : Row}
    {attr : String} {value : Value} (declared : raw.model.entity? ref.entity = some entity)
    (known : ∀ value, row.get? attr = some value → ∃ info, entity.attributes.get? attr = some info)
    (held : (raw.filled ref row).get? attr = some value) :
    ∃ info, entity.attributes.get? attr = some info := by
  rw [get?_filled declared, Option.or_eq_some_iff] at held
  rcases held with mapped | ⟨_, direct⟩
  · obtain ⟨before, after, split, _⟩ := List.lookup_eq_some_iff.1 mapped
    have member : (attr, value) ∈ raw.mappedValues entity ref := by
      rw [← List.mem_reverse, split]
      simp
    obtain ⟨target, kind, owner, description?, listed, _⟩ := mem_mappedValues_iff.1 member
    exact ⟨_, listed⟩
  · exact known value direct

/-- What a loaded row is made of: a record that was decoded, and the mapped attributes that were
filled in. -/
theorem exists_record_of_load {text : String} {store : Store} (done : load model text = .ok store)
    {ref : EntityRef} {row : Row} (found : store.row ref = .ok row) :
    ∃ (raw : Store) (given : Row) (record : Dict Json), raw.model = model ∧
      (∀ attr json, record.get? attr = some json → json.Numeric) ∧
      model.decodeRecord ref.entity record = .ok (ref.id, given) ∧
      row = raw.filled ref given := by
  have sameModel := (Obtained.loaded done).model_eq
  obtain ⟨json, raw, numeric, made, rfl, _⟩ := exists_raw_of_load done
  obtain ⟨given, present, rfl⟩ := (row_withMapped raw _).1 found
  obtain ⟨list, listed, record, inside, read⟩ := exists_record_of_ofRecords made present
  exact ⟨raw, given, record, sameModel,
    fun _ _ => numeric_of_mem_records numeric listed inside, read, rfl⟩

section

variable {text : String} {store : Store} {ref : EntityRef} {row : Row} {entity : Entity}

/-- A loaded row holds nothing but attributes of its entity. -/
theorem exists_attribute_of_load (done : load model text = .ok store)
    (found : store.row ref = .ok row) (declared : model.entity? ref.entity = some entity)
    {attr : String} {value : Value} (held : row.get? attr = some value) :
    ∃ info, entity.attributes.get? attr = some info := by
  obtain ⟨raw, given, record, rfl, _, read, rfl⟩ := exists_record_of_load done found
  exact exists_attribute_of_filled declared
    (fun _ => Model.exists_attribute_of_decodeRecord read declared) held

/-- A loaded value of an attribute other than an association conforms to it. -/
theorem conforms_of_load (done : load model text = .ok store)
    (found : store.row ref = .ok row) (declared : model.entity? ref.entity = some entity)
    {attr : String} {info : Attribute} (known : entity.attributes.get? attr = some info)
    (plain : info.type.isAssociation = false) {value : Value} (held : row.get? attr = some value) :
    value.Conforms model store.Stored info.type := by
  obtain ⟨raw, given, record, rfl, numeric, read, rfl⟩ := exists_record_of_load done found
  have direct := AttributeType.owner?_of_plain plain
  obtain ⟨other, decoded, same⟩ := Model.exists_value_of_decodeRecord read declared known direct
  rw [get?_filled_direct declared known direct, same] at held
  cases held
  refine Model.conforms_of_decodeAttribute plain ?_ decoded
  cases written : record.get? attr with
  | none => exact .null
  | some json => exact numeric attr json written

end

/-- Every row of a store that was loaded conforms to its entity. -/
theorem loaded_rows_conform {text : String} {store : Store}
    (done : load model text = .ok store) {name : String} {table : Table}
    (known : store.tables.get? name = some table) {id : String} {row : Row}
    (member : (id, row) ∈ table.rows) :
    ∃ entity, model.entity? name = some entity ∧ entity.RowConforms model store.Stored row := by
  have found : store.row ⟨name, id⟩ = .ok row :=
    row_eq_ok_iff.2 ⟨table, known, (lookup_eq_some_iff_mem table.distinct).2 member⟩
  obtain ⟨entity, declared, fits⟩ := (Obtained.loaded done).wellTyped.rows _ row found
  rw [(Obtained.loaded done).model_eq] at declared
  refine ⟨entity, declared, Dict.names_eq_of_isSome_get? fun attr => ?_, fun attr info shown => ?_⟩
  · rw [Bool.eq_iff_iff, Option.isSome_iff_exists, Option.isSome_iff_exists]
    constructor
    · rintro ⟨value, held⟩
      exact exists_attribute_of_load done found declared held
    · rintro ⟨info, shown⟩
      obtain ⟨value, held, _⟩ := fits attr info shown
      exact ⟨value, held⟩
  · obtain ⟨value, held, fitsType⟩ := fits attr info shown
    refine ⟨value, held, ?_⟩
    cases plain : info.type.isAssociation with
    | false => exact conforms_of_load done found declared shown plain held
    | true =>
      obtain ⟨type, description?⟩ := info
      cases type with
      | association target kind mappedBy? => exact Value.conforms_association fitsType
      | _ => cases plain

end Store

/-! ## Members of a guild -/

/-- Members with a rank and nicknames. A member may have a mentor, whose pupils are derived. -/
def Model.guild : Model where
  entities := Dict.ofList [
    ("Member", ⟨"id", Dict.ofList [
      ("id", ⟨.basic .text, none⟩),
      ("rank", ⟨.enum "Rank", none⟩),
      ("nicknames", ⟨.collection (.basic .text), none⟩),
      ("mentor", ⟨.association "Member" .manyToOne none, none⟩),
      ("pupils", ⟨.association "Member" .oneToMany (some "mentor"), none⟩)], none⟩)]
  enumTypes := Dict.ofList [("Rank", ⟨["novice", "master"]⟩)]

/-- The records of two members. The mentor of the first stands after it. -/
def guildJson : Json :=
  .object [("Member", .array [
    .object [("id", .string "a"), ("rank", .string "novice"), ("mentor", .string "b")],
    .object [("id", .string "b"), ("nicknames", .array [.string "x", .null])]])]

/-- The store of the members. -/
def Store.guild : Store :=
  (Store.ofJson Model.guild guildJson).toOption.getD (Store.empty Model.guild)

theorem load_guild :
    Store.load Model.guild (String.ofList guildJson.compactChars) = .ok Store.guild := by
  have read : Json.readText (.map (.list (.map .any))) guildJson.compactChars =
      .ok guildJson := by
    cbv
  rw [Store.load_ofList read]
  exact eq_ok_of_isOk (by decide +kernel)

/-- The row of the second member, whose pupil was loaded before it, conforms. -/
theorem guild_row_conforms :
    ∃ table row entity, Store.guild.tables.get? "Member" = some table ∧
      ("b", row) ∈ table.rows ∧ Model.guild.entity? "Member" = some entity ∧
      entity.RowConforms Model.guild Store.guild.Stored row := by
  have present : (Store.guild.tables.get? "Member").any
      (fun table => table.rows.any fun entry => entry.1 == "b") = true := by
    decide +kernel
  obtain ⟨table, known, listed⟩ := (Option.any_eq_true _ _).1 present
  obtain ⟨⟨id, row⟩, member, same⟩ := List.any_eq_true.1 listed
  cases eq_of_beq same
  obtain ⟨entity, declared, conforms⟩ := Store.loaded_rows_conform load_guild known member
  exact ⟨table, row, entity, known, member, declared, conforms⟩

end EntityGraph
