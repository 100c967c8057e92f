import EntityGraph.Proofs.Json.Numeric
import EntityGraph.Proofs.Store.WellTyped
import EntityGraph.Store.Loading

/-!
# Rows that records give

A record that is decoded has a value of its type for every attribute, save for the mapped
ones, which it leaves out. Which instances its references lead to is not yet known.
-/

namespace EntityGraph

/-- The attribute of the target that maps an association, if one does. -/
def AttributeType.owner? : AttributeType → Option String
  | .association _ _ mappedBy? => mappedBy?
  | _ => none

/-- Only associations are mapped. -/
theorem AttributeType.owner?_of_plain {type : AttributeType} (plain : type.isAssociation = false) :
    type.owner? = none := by
  cases type with
  | association => cases plain
  | _ => rfl

/-- A reference to anything. -/
abbrev anyRef : EntityRef → Prop := fun _ => True

/-! ## Values -/

namespace ScalarType

variable {scalar : ScalarType} {json : Json} {value : Value}

/-- What a scalar type takes, and what it makes of it. -/
inductive Decodes : ScalarType → Json → Value → Prop where
  | null {scalar : ScalarType} : Decodes scalar .null .null
  | bool {b : Bool} : Decodes .boolean (.bool b) (.bool b)
  | int {scalar : ScalarType} {n : Int} (integral : scalar.isIntegral = true)
      (signed : Number.leastSigned ≤ n ∧ n ≤ Number.greatestSigned) :
    Decodes scalar (.number (.int n)) (.int n)
  | float {scalar : ScalarType} {n : Number} (fractional : scalar.isFractional = true) :
    Decodes scalar (.number n) (.float n.toFloat)
  | uuid {s : String} {id : Uuid} (read : Uuid.read s = .ok id) :
    Decodes .uuid (.string s) (.uuid id)
  | string {scalar : ScalarType} {s : String} (textual : scalar.isTextual = true) :
    Decodes scalar (.string s) (.string s)

/-- Whole numbers are not fractional. -/
theorem isFractional_of_isIntegral (integral : scalar.isIntegral = true) :
    scalar.isFractional = false := by
  cases scalar with
  | smallint | integer | bigint => rfl
  | _ => cases integral

theorem decodes_of_decode (decoded : scalar.decode json = .ok value) :
    scalar.Decodes json value := by
  unfold decode at decoded
  split at decoded
  · cases decoded
    exact .null
  · split at decoded
    · next boolean =>
      cases decoded
      cases boolean
      exact .bool
    · cases decoded
  · next n =>
    split at decoded
    · next integral =>
      split at decoded
      · next signed read =>
        cases decoded
        cases n with
        | int m =>
          obtain ⟨fits, same⟩ := Option.ite_none_right_eq_some.1 read
          cases same
          exact .int integral fits
        | float x => cases read
      · cases decoded
    · split at decoded
      · next fractional =>
        cases decoded
        exact .float fractional
      · cases decoded
  · split at decoded
    · next identifies =>
      cases identifies
      split at decoded
      · next id read =>
        cases decoded
        exact .uuid read
      · cases decoded
    · split at decoded
      · next textual =>
        cases decoded
        exact .string textual
      · cases decoded
  · cases decoded

/-- A scalar is decoded exactly if its type takes the JSON. -/
theorem decode_eq_ok_iff : scalar.decode json = .ok value ↔ scalar.Decodes json value := by
  refine ⟨decodes_of_decode, fun decodes => ?_⟩
  cases decodes with
  | null | bool => rfl
  | int integral signed => simp [decode, integral, Number.signed?, signed]
  | float fractional =>
    have broken : scalar.isIntegral = false := by
      by_contra integral
      rw [isFractional_of_isIntegral (Bool.not_eq_false _ ▸ integral)] at fractional
      cases fractional
    simp [decode, broken, fractional]
  | uuid read => simp [decode, read]
  | string textual =>
    have kept : scalar ≠ .uuid := by
      rintro rfl
      cases textual
    simp [decode, kept, textual]

/-- A scalar that was decoded is of its type. -/
theorem hasScalar_of_decode (numeric : json.Numeric) (decoded : scalar.decode json = .ok value) :
    value.HasScalar scalar := by
  cases decode_eq_ok_iff.1 decoded with
  | null => trivial
  | bool | uuid => rfl
  | int integral => exact integral
  | float fractional =>
    cases numeric with
    | number numeric => exact ⟨fractional, numeric.toFloat⟩
  | string textual => exact textual

end ScalarType

namespace Model

variable {model : Model}

/-- A constant is decoded exactly if it is null or declared. -/
theorem decodeConstant_eq_ok_iff {enumType : String} {json : Json} {value : Value} :
    model.decodeConstant enumType json = .ok value ↔
      (json = .null ∧ value = .null) ∨
      ∃ constant, (model.enumPosition? enumType constant).isSome = true ∧
        json = .string constant ∧ value = .enum enumType constant := by
  cases json with
  | null => simpa [decodeConstant] using eq_comm
  | string constant =>
    by_cases known : (model.enumPosition? enumType constant).isSome = true
    · simpa [decodeConstant, known] using eq_comm
    · simp [decodeConstant, known]
  | _ => simp [decodeConstant]

/-- A collection is decoded exactly if it is missing, or each of its items is decoded. -/
theorem decodeCollection_eq_ok_iff {element : ElementType} {json : Json} {value : Value} :
    model.decodeCollection element json = .ok value ↔
      (json = .null ∧ value = .array []) ∨
      ∃ items values, items.mapM (model.decodeElement element) = .ok values ∧
        json = .array items ∧ value = .array values := by
  cases json with
  | null => simpa [decodeCollection] using eq_comm
  | array items =>
    rw [decodeCollection, bind_eq_ok_iff]
    constructor
    · rintro ⟨values, each, same⟩
      cases same
      exact .inr ⟨items, values, each, rfl, rfl⟩
    · rintro (⟨impossible, _⟩ | ⟨_, values, each, same, rfl⟩)
      · cases impossible
      · cases same
        exact ⟨values, each, rfl⟩
  | _ => simp [decodeCollection]

theorem eq_of_decodeReference {target : String} {json : Json} {value : Value}
    (decoded : decodeReference target json = .ok value) :
    ∃ id, value = .entity ⟨target, id⟩ := by
  unfold decodeReference at decoded
  split at decoded
  · cases decoded
    exact ⟨_, rfl⟩
  · cases decoded

/-- Everything that a decoded association leads to refers to its target. -/
theorem elements_of_decodeAssociation {target : String} {json : Json} {value element : Value}
    (decoded : decodeAssociation target json = .ok value) (member : element ∈ value.elements) :
    ∃ id, element = .entity ⟨target, id⟩ := by
  unfold decodeAssociation at decoded
  split at decoded
  · cases decoded
    cases member
  · obtain ⟨items, each, same⟩ := bind_eq_ok_iff.1 decoded
    cases same
    obtain ⟨json, _, read⟩ := exists_of_mem_mapM each member
    exact eq_of_decodeReference read
  · obtain ⟨id, rfl⟩ := eq_of_decodeReference decoded
    exact ⟨id, List.mem_singleton.1 member⟩

/-- A decoded value is of the type of its attribute. -/
theorem fits_of_decodeAttribute {type : AttributeType} {json : Json} {value : Value}
    (numeric : json.Numeric) (decoded : model.decodeAttribute type json = .ok (some value)) :
    value.Fits anyRef type := by
  unfold decodeAttribute at decoded
  split at decoded
  · obtain ⟨found, read, same⟩ := map_eq_ok_iff.1 decoded
    cases same
    exact ScalarType.hasScalar_of_decode numeric read
  · obtain ⟨found, read, same⟩ := map_eq_ok_iff.1 decoded
    cases same
    rcases decodeConstant_eq_ok_iff.1 read with ⟨_, rfl⟩ | ⟨constant, _, _, rfl⟩
    · exact .inl rfl
    · exact .inr ⟨constant, rfl⟩
  · obtain ⟨found, read, same⟩ := map_eq_ok_iff.1 decoded
    cases same
    rcases decodeCollection_eq_ok_iff.1 read with ⟨_, rfl⟩ | ⟨_, values, _, _, rfl⟩
    · exact ⟨[], rfl⟩
    · exact ⟨values, rfl⟩
  · obtain ⟨found, read, same⟩ := map_eq_ok_iff.1 decoded
    cases same
    intro element member
    obtain ⟨id, rfl⟩ := elements_of_decodeAssociation read member
    exact ⟨_, rfl, rfl, trivial⟩
  · cases decoded

/-- Exactly the mapped attributes are left out. -/
theorem decodeAttribute_eq_none_iff {type : AttributeType} {json : Json}
    {value? : Option Value} (decoded : model.decodeAttribute type json = .ok value?) :
    value? = none ↔ type.owner?.isSome = true := by
  unfold decodeAttribute at decoded
  split at decoded
  case h_5 =>
    cases decoded
    simp [AttributeType.owner?]
  all_goals
    obtain ⟨found, _, rfl⟩ := map_eq_ok_iff.1 decoded
    simp [AttributeType.owner?]

/-! ## Rows -/

/-- What a record has to give an entity: a value of its type for every attribute that is not
mapped, and nothing for the others. -/
structure GivesRow (entity : Entity) (row : Row) : Prop where
  direct : ∀ attr info, entity.attributes.get? attr = some info → info.type.owner? = none →
    ∃ value, row.get? attr = some value ∧ value.Fits anyRef info.type
  mapped : ∀ attr info, entity.attributes.get? attr = some info →
    info.type.owner?.isSome = true → row.get? attr = none

/-- The value of an entry of an entity, under its name. -/
def decodeEntry (model : Model) (name : String) (record : Dict Json) (id : String)
    (entry : String × Attribute) : Except ExecutionError (Option (String × Value)) :=
  match model.decodeAttribute entry.2.type ((record.get? entry.1).getD .null) with
  | .ok value? => .ok (value?.map (entry.1, ·))
  | .error fault => .error (.invalidData name (.badAttribute entry.1 id fault))

theorem decodeEntry_eq_ok_iff {name id : String} {record : Dict Json}
    {entry : String × Attribute} {named? : Option (String × Value)} :
    model.decodeEntry name record id entry = .ok named? ↔
      ∃ value?, model.decodeAttribute entry.2.type ((record.get? entry.1).getD .null) =
        .ok value? ∧ named? = value?.map (entry.1, ·) := by
  unfold decodeEntry
  cases model.decodeAttribute entry.2.type ((record.get? entry.1).getD .null) <;> simp [eq_comm]

/-- A record is decoded entry by entry, under the text of its id. -/
theorem exists_of_decodeRecord {name id : String} {record : Dict Json} {row : Row}
    (decoded : model.decodeRecord name record = .ok (id, row)) :
    ∃ entity values, model.entity? name = some entity ∧
      (∃ json, record.get? entity.idAttribute = some json ∧ idText? json = some id) ∧
      entity.attributes.entries.mapM (model.decodeEntry name record id) = .ok values ∧
      row = Dict.ofList (values.filterMap fun value? => value?) := by
  unfold decodeRecord at decoded
  split at decoded
  · next entity declared =>
    split at decoded
    · next named =>
      split at decoded
      · cases decoded
      · obtain ⟨values, each, same⟩ := bind_eq_ok_iff.1 decoded
        cases same
        exact ⟨entity, values, declared, Option.bind_eq_some_iff.1 named, each, rfl⟩
    · cases decoded
  · cases decoded

/-- The entries that are decoded have different names. -/
theorem distinct_of_mapM_decodeEntry {name id : String} {record : Dict Json}
    {entries : List (String × Attribute)} {values : List (Option (String × Value))}
    (each : entries.mapM (model.decodeEntry name record id) = .ok values) :
    ((values.filterMap fun value? => value?).map Prod.fst).Sublist (entries.map Prod.fst) := by
  rw [mapM_eq_ok_iff] at each
  induction each with
  | nil => exact .slnil
  | @cons entry named? _ _ first _ inductionHypothesis =>
    obtain ⟨value?, _, rfl⟩ := decodeEntry_eq_ok_iff.1 first
    cases value? with
    | none => exact inductionHypothesis.cons entry.1
    | some value => exact inductionHypothesis.cons_cons entry.1

/-- An attribute that is not mapped has the value that the record gives it. -/
theorem exists_value_of_decodeRecord {name id : String} {record : Dict Json} {row : Row}
    {entity : Entity} {attr : String} {info : Attribute}
    (decoded : model.decodeRecord name record = .ok (id, row))
    (declared : model.entity? name = some entity)
    (known : entity.attributes.get? attr = some info) (direct : info.type.owner? = none) :
    ∃ value, model.decodeAttribute info.type ((record.get? attr).getD .null) =
      .ok (some value) ∧ row.get? attr = some value := by
  obtain ⟨_, values, again, _, each, rfl⟩ := exists_of_decodeRecord decoded
  cases declared.symm.trans again
  have distinct : ((values.filterMap fun value? => value?).map Prod.fst).Nodup :=
    (distinct_of_mapM_decodeEntry each).nodup entity.attributes.distinct
  obtain ⟨named?, member, first⟩ :=
    exists_of_mem_of_mapM each (Dict.get?_eq_some_iff.1 known)
  obtain ⟨value?, read, rfl⟩ := decodeEntry_eq_ok_iff.1 first
  cases value? with
  | none =>
    have mapped := (decodeAttribute_eq_none_iff read).1 rfl
    rw [direct] at mapped
    cases mapped
  | some value =>
    refine ⟨value, read, (Dict.get?_ofList_eq_some_iff distinct).2 ?_⟩
    exact List.mem_filterMap.2 ⟨_, member, rfl⟩

/-- A decoded record gives a row to its entity. -/
theorem givesRow_of_decodeRecord {name id : String} {record : Dict Json} {row : Row}
    (numeric : ∀ attr json, record.get? attr = some json → json.Numeric)
    (decoded : model.decodeRecord name record = .ok (id, row)) :
    ∃ entity, model.entity? name = some entity ∧ GivesRow entity row := by
  obtain ⟨entity, values, declared, _, each, rfl⟩ := exists_of_decodeRecord decoded
  have valueOf (attr : String) : ((record.get? attr).getD .null).Numeric := by
    cases given : record.get? attr with
    | none => exact .null
    | some json => exact numeric attr json given
  refine ⟨entity, declared, fun attr info known direct => ?_, fun attr info known mapped => ?_⟩
  · obtain ⟨value, read, held⟩ := exists_value_of_decodeRecord decoded declared known direct
    exact ⟨value, held, fits_of_decodeAttribute (valueOf attr) read⟩
  · rw [Option.eq_none_iff_forall_ne_some]
    intro value held
    obtain ⟨named?, member, same⟩ := List.mem_filterMap.1 (Dict.mem_of_get?_ofList held)
    subst same
    obtain ⟨⟨other, otherInfo⟩, present, first⟩ := exists_of_mem_mapM each member
    obtain ⟨value?, read, same⟩ := decodeEntry_eq_ok_iff.1 first
    obtain ⟨found, rfl, pair⟩ := Option.map_eq_some_iff.1 same.symm
    cases pair
    rw [Dict.get?_eq_some_iff.2 present] at known
    cases known
    have none := (decodeAttribute_eq_none_iff read).2 mapped
    cases none

end Model

end EntityGraph
