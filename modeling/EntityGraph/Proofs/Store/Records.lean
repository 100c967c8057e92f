import EntityGraph.Proofs.Store.Obtained
import EntityGraph.Proofs.Uuid
import EntityGraph.Value.Codec

/-!
# Rows hold the records they were loaded from

A loaded table has one row for each record of its entity, in the order of the records. A value in a
row is shown as the record gives it, up to how identifiers are spelled, fractional numbers are
written and missing collections are filled in. What a value is shown as is defined here by the JSON
of the record alone, without going through typed values.
-/

namespace EntityGraph

/-! ## What a record shows -/

namespace Json

/-- The records of an entity in data: the items under its name. -/
def recordsOf (json : Json) (entity : String) : List Json :=
  ((json.canonical.member? entity).getD .null).items

/-- What a record gives an attribute, null if it is absent. -/
def given (record : Json) (attr : String) : Json :=
  (record.member? attr).getD .null

end Json

/-- What a scalar attribute shows: identifiers in lower case and hyphenated, numbers of a
fractional attribute as doubles, and everything else as it is. -/
def ScalarType.shown (scalar : ScalarType) : Json → Json
  | .number n => .number (if scalar.isFractional then .float n.toFloat else n)
  | .string s => .string (if scalar = uuid then Uuid.respelled s else s)
  | json => json

/-- What an element of a collection shows. -/
def ElementType.shown : ElementType → Json → Json
  | .basic scalar, json => scalar.shown json
  | .enum _, json => json

/-- What an attribute shows. A collection that is missing is empty. -/
def AttributeType.shown : AttributeType → Json → Json
  | .basic scalar, json => scalar.shown json
  | .collection element, json => .array (json.items.map element.shown)
  | .enum _, json | .association .., json => json

/-! ## Values -/

/-- A collection is shown item by item. -/
theorem Value.itemsToJson_eq (items : List Value) : itemsToJson items = items.map toJson := by
  induction items with
  | nil => rfl
  | cons item rest inductionHypothesis => rw [itemsToJson, inductionHypothesis, List.map_cons]

/-- A scalar that was decoded is shown as it was given. -/
theorem ScalarType.toJson_of_decode {scalar : ScalarType} {json : Json} {value : Value}
    (numeric : json.Numeric) (decoded : scalar.decode json = .ok value) :
    value.toJson = scalar.shown json := by
  cases decode_eq_ok_iff.1 decoded with
  | null | bool => rfl
  | int integral =>
    have whole := isFractional_of_isIntegral integral
    simp [Value.toJson, shown, whole]
  | @float _ n fractional =>
    cases numeric with
    | number numeric =>
      have finite : n.toFloat.isFinite = true := numeric
      simp [Value.toJson, shown, fractional, finite]
  | uuid read => simp [Value.toJson, shown, Uuid.text_of_read read]
  | string textual =>
    have kept : scalar ≠ .uuid := by
      rintro rfl
      cases textual
    simp [Value.toJson, shown, kept]

namespace Model

variable {model : Model}

/-- A constant that was decoded is shown as it was given. -/
theorem toJson_of_decodeConstant {enumType : String} {json : Json} {value : Value}
    (decoded : model.decodeConstant enumType json = .ok value) : value.toJson = json := by
  rcases decodeConstant_eq_ok_iff.1 decoded with ⟨rfl, rfl⟩ | ⟨constant, _, rfl, rfl⟩ <;> rfl

/-- An element that was decoded is shown as it was given. -/
theorem toJson_of_decodeElement {element : ElementType} {json : Json} {value : Value}
    (numeric : json.Numeric) (decoded : model.decodeElement element json = .ok value) :
    value.toJson = element.shown json := by
  cases element with
  | basic scalar => exact ScalarType.toJson_of_decode numeric decoded
  | enum enumType => exact toJson_of_decodeConstant decoded

/-- A collection that was decoded is shown item by item as it was given. -/
theorem toJson_of_decodeCollection {element : ElementType} {json : Json} {value : Value}
    (numeric : json.Numeric) (decoded : model.decodeCollection element json = .ok value) :
    value.toJson = .array (json.items.map element.shown) := by
  rcases decodeCollection_eq_ok_iff.1 decoded with ⟨rfl, rfl⟩ | ⟨items, values, each, rfl, rfl⟩
  · rfl
  · rw [Value.toJson, Value.itemsToJson_eq, Json.items]
    have all : ∀ item ∈ items, item.Numeric := fun item => numeric.of_mem_items
    have same : List.Forall₂ Eq (values.map Value.toJson) (items.map element.shown) := by
      rw [List.forall₂_map_left_iff, List.forall₂_map_right_iff]
      refine (((List.forall₂_and_left items values).2 ⟨all, mapM_eq_ok_iff.1 each⟩).imp ?_).flip
      rintro item value ⟨numeric, decoded⟩
      exact toJson_of_decodeElement numeric decoded
    rw [List.forall₂_eq_eq_eq] at same
    rw [same]

/-- An attribute that was decoded is shown as it was given. -/
theorem toJson_of_decodeAttribute {type : AttributeType} {json : Json} {value : Value}
    (plain : type.isAssociation = false) (numeric : json.Numeric)
    (decoded : model.decodeAttribute type json = .ok (some value)) :
    value.toJson = type.shown json := by
  cases type with
  | basic scalar =>
    obtain ⟨found, read, same⟩ := map_eq_ok_iff.1 decoded
    cases same
    exact ScalarType.toJson_of_decode numeric read
  | enum enumType =>
    obtain ⟨found, read, same⟩ := map_eq_ok_iff.1 decoded
    cases same
    exact toJson_of_decodeConstant read
  | collection element =>
    obtain ⟨found, read, same⟩ := map_eq_ok_iff.1 decoded
    cases same
    exact toJson_of_decodeCollection numeric read
  | association => cases plain

end Model

/-! ## Rows -/

namespace Json

/-- In what a value denotes, the last member of a name is the only one. -/
theorem get?_memberDict_canonical (json : Json) (name : String) :
    json.canonical.memberDict.get? name = json.canonical.member? name := by
  rw [member?_canonical, memberDict_canonical, Dict.get?_map]

/-- The records of an entity are what is denoted by the items under its name. -/
theorem recordsOf_eq (json : Json) (entity : String) :
    json.recordsOf entity = ((json.memberDict.get? entity).getD .null).items.map canonical := by
  rw [recordsOf, member?_canonical, ← items_canonical]
  cases json.memberDict.get? entity <;> rfl

/-- The records of an entity are read as dictionaries. -/
theorem get?_records (json : Json) (entity : String) :
    ((records json).get? entity).getD [] = (json.recordsOf entity).map memberDict := by
  let change (_ : String) (list : Json) : List (Dict Json) :=
    list.items.map fun record => record.canonical.memberDict
  have read : records json = json.memberDict.map change := by
    rw [memberDict, ← Dict.ofList_map change]
    refine congrArg Dict.ofList (List.map_congr_left fun member _ => ?_)
    refine congrArg (Prod.mk member.1) (List.map_congr_left fun record _ => ?_)
    rw [memberDict_canonical, memberDict, ← Dict.ofList_map]
  rw [read, Dict.get?_map, recordsOf_eq, List.map_map]
  cases json.memberDict.get? entity <;> rfl

/-- A record of data has one member at most of each name. -/
theorem get?_memberDict_of_mem_recordsOf {json record : Json} {entity : String}
    (member : record ∈ json.recordsOf entity) (attr : String) :
    record.memberDict.get? attr = record.member? attr := by
  rw [recordsOf_eq] at member
  obtain ⟨original, _, rfl⟩ := List.mem_map.1 member
  exact original.get?_memberDict_canonical attr

/-- What a record of data gives an attribute has no other numbers than the data. -/
theorem Numeric.given {json record : Json} {entity : String} (numeric : json.Numeric)
    (member : record ∈ json.recordsOf entity) (attr : String) : (record.given attr).Numeric := by
  have recorded : record.Numeric := by
    unfold recordsOf at member
    cases found : json.canonical.member? entity with
    | none =>
      rw [found] at member
      cases member
    | some list =>
      rw [found] at member
      exact (numeric.canonical.of_member? found).of_mem_items member
  unfold Json.given
  cases found : record.member? attr with
  | none => exact .null
  | some value => exact recorded.of_member? found

end Json

/-- Whether a row shows what a record gives to each attribute that is not an association. -/
def Entity.RowShows (entity : Entity) (record : Json) (row : Row) : Prop :=
  ∀ attr info, entity.attributes.get? attr = some info → info.type.isAssociation = false →
    ∃ value, row.get? attr = some value ∧ value.toJson = info.type.shown (record.given attr)

/-- The row of a record shows the record. -/
theorem Model.rowShows_of_decodeRecord {model : Model} {json record : Json} {name id : String}
    {row : Row} {entity : Entity} (numeric : json.Numeric) (member : record ∈ json.recordsOf name)
    (decoded : model.decodeRecord name record.memberDict = .ok (id, row))
    (declared : model.entity? name = some entity) : entity.RowShows record row := by
  intro attr info known plain
  obtain ⟨value, read, held⟩ :=
    exists_value_of_decodeRecord decoded declared known (AttributeType.owner?_of_plain plain)
  rw [Json.get?_memberDict_of_mem_recordsOf member] at read
  exact ⟨value, held, toJson_of_decodeAttribute plain (numeric.given member attr) read⟩

namespace Store

/-- Filling in the mapped attributes changes each row of a table by itself. -/
theorem get?_tables_withMapped (raw : Store) {name : String} {entity : Entity}
    (declared : raw.model.entity? name = some entity) :
    raw.withMapped.tables.get? name = (raw.tables.get? name).map fun table =>
      table.map fun id row => raw.filled ⟨name, id⟩ row := by
  rw [withMapped, Dict.get?_map, declared]
  simp only [filled, declared]

/-- The rows of an entity in a loaded store show its records, one for each and in their order. -/
theorem exists_rows_of_ofJson {model : Model} {json : Json} {store : Store}
    (numeric : json.Numeric) (done : ofJson model json = .ok store) {name : String}
    {entity : Entity} (declared : model.entity? name = some entity) :
    ∃ table, store.tables.get? name = some table ∧
      List.Forall₂ (fun record entry => entity.RowShows record entry.2)
        (json.recordsOf name) table.rows := by
  obtain ⟨raw, made, rfl, _⟩ := exists_raw_of_ofJson done
  obtain ⟨rfl, _⟩ := decoded_of_ofRecords numeric made
  obtain ⟨table, known, each⟩ := exists_table_of_ofRecords made declared
  refine ⟨table.map fun id row => raw.filled ⟨name, id⟩ row, ?_, ?_⟩
  · rw [get?_tables_withMapped raw declared, known]
    rfl
  rw [Json.get?_records, mapM_eq_ok_iff, List.forall₂_map_left_iff] at each
  change List.Forall₂ _ _
    (table.rows.map fun entry => (entry.1, raw.filled ⟨name, entry.1⟩ entry.2))
  rw [List.forall₂_map_right_iff]
  refine ((List.forall₂_and_left _ _).2 ⟨fun record member => member, each⟩).imp ?_
  rintro record ⟨id, row⟩ ⟨member, decoded⟩ attr info shown plain
  obtain ⟨value, held, same⟩ :=
    Model.rowShows_of_decodeRecord numeric member decoded declared attr info shown plain
  refine ⟨value, ?_, same⟩
  rw [get?_filled_direct declared shown (AttributeType.owner?_of_plain plain)]
  exact held

end Store

end EntityGraph
