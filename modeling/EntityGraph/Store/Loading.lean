import EntityGraph.Json.Reader
import EntityGraph.Json.Record
import EntityGraph.Store.Basic

/-!
# Loading a store

Data is a JSON object with a list of records for each entity. A record becomes a row once
every attribute holds a value of its type; absent attributes count as null, and a null
collection as an empty one. An association is given by the id of its target or a list of
ids, a number standing for its text.

An attribute that the target of an association maps is not read. When all records are
rows, it is filled with the instances that refer to its owner. Last, every reference has
to have an instance behind it.
-/

namespace EntityGraph

/-- The text of an id, which may be written as a number. -/
def idText? : Json → Option String
  | .number n => some n.text
  | .string s => some s
  | _ => none

namespace ScalarType

/-- The value of a scalar attribute. -/
def decode (scalar : ScalarType) (json : Json) : Except AttributeFault Value :=
  match json with
  | .null => .ok .null
  | .bool b => if scalar = boolean then .ok (.bool b) else .error (.wrongScalar scalar json)
  | .number n =>
    if scalar.isIntegral then
      match n.signed? with
      | some signed => .ok (.int signed)
      | none => .error (.wrongScalar scalar json)
    else if scalar.isFractional then .ok (.float n.toFloat)
    else .error (.wrongScalar scalar json)
  | .string s =>
    if scalar = uuid then
      match Uuid.read s with
      | .ok id => .ok (.uuid id)
      | .error refusal => .error (.invalidUuid json refusal)
    else if scalar.isTextual then .ok (.string s)
    else .error (.wrongScalar scalar json)
  | _ => .error (.wrongScalar scalar json)

end ScalarType

namespace Model

/-- The value of an attribute of an enum type. -/
def decodeConstant (model : Model) (enumType : String) (json : Json) :
    Except AttributeFault Value :=
  match json with
  | .null => .ok .null
  | .string constant =>
    if (model.enumPosition? enumType constant).isSome then .ok (.enum enumType constant)
    else .error (.unknownConstant enumType json)
  | _ => .error (.unknownConstant enumType json)

/-- The value of an element of a collection. -/
def decodeElement (model : Model) (element : ElementType) (json : Json) :
    Except AttributeFault Value :=
  match element with
  | .basic scalar => scalar.decode json
  | .enum enumType => model.decodeConstant enumType json

/-- The value of a collection. -/
def decodeCollection (model : Model) (element : ElementType) (json : Json) :
    Except AttributeFault Value :=
  match json with
  | .null => .ok (.array [])
  | .array items => do return .array (← items.mapM (model.decodeElement element))
  | _ => .error (.listExpected json)

end Model

/-- A reference to a target by its id. -/
def decodeReference (target : String) (json : Json) : Except AttributeFault Value :=
  match idText? json with
  | some id => .ok (.entity ⟨target, id⟩)
  | none => .error (.invalidId target json)

/-- The value of an association that its owner holds. -/
def decodeAssociation (target : String) (json : Json) : Except AttributeFault Value :=
  match json with
  | .null => .ok .null
  | .array ids => do return .array (← ids.mapM (decodeReference target))
  | _ => decodeReference target json

namespace Model

/-- The value of an attribute, or none if the attribute is filled in later. -/
def decodeAttribute (model : Model) (type : AttributeType) (json : Json) :
    Except AttributeFault (Option Value) :=
  match type with
  | .basic scalar => some <$> scalar.decode json
  | .enum enumType => some <$> model.decodeConstant enumType json
  | .collection element => some <$> model.decodeCollection element json
  | .association target _ none => some <$> decodeAssociation target json
  | .association _ _ (some _) => .ok none

/-- The id of a record and its row, as far as the record itself gives it. -/
def decodeRecord (model : Model) (name : String) (record : Dict Json) :
    Except ExecutionError (String × Row) := do
  let some entity := model.entity? name | .error (.entityNotStored name)
  let some id := (record.get? entity.idAttribute).bind idText?
    | .error (.invalidData name (.withoutId entity.idAttribute))
  if let some unknown := record.names.find? fun attr => !entity.attributes.contains attr then
    .error (.invalidData name (.unknownAttribute unknown id))
  let values ← entity.attributes.entries.mapM fun (attr, info) =>
    match model.decodeAttribute info.type ((record.get? attr).getD .null) with
    | .ok value? => .ok (value?.map (attr, ·))
    | .error fault => .error (.invalidData name (.badAttribute attr id fault))
  return (id, Dict.ofList (values.filterMap fun value? => value?))

/-- The table of the records of an entity. -/
def decodeTable (model : Model) (name : String) (records : List (Dict Json)) :
    Except ExecutionError Table :=
  records.foldlM
    (fun table record => do
      let (id, row) ← model.decodeRecord name record
      match table.push? id row with
      | some table => return table
      | none => .error (.invalidData name (.duplicateId id)))
    Table.empty

end Model

/-- The records of each entity in a JSON value. -/
def records (json : Json) : Dict (List (Dict Json)) :=
  Dict.ofList <| json.members.map fun (entity, list) =>
    (entity, list.items.map fun record =>
      Dict.ofList (record.members.map fun (attr, value) => (attr, value.canonical)))

namespace Store

/-- The store of the records alone, its mapped attributes missing. Every entity of the model has
a table. -/
def ofRecords (model : Model) (records : Dict (List (Dict Json))) :
    Except ExecutionError Store := do
  let loaded ← records.entries.mapM fun (entity, list) => do
    return (entity, ← model.decodeTable entity list)
  return ⟨model, Dict.ofList ((Store.empty model).tables.entries ++ loaded)⟩

/-- The instances of `target` that refer to an instance in the attribute `owner`, in load order
and each as often as it refers. -/
def referrers (store : Store) (target owner : String) (ref : EntityRef) : List Value :=
  match store.tables.get? target with
  | none => []
  | some table =>
    table.rows.flatMap fun (id, row) =>
      (((row.get? owner).getD .null).elements.filter fun value => value.same (.entity ref)).map
        fun _ => .entity ⟨target, id⟩

/-- The value of a mapped attribute with the given targets. More than one target of an
association to one is kept, so that fetching it can tell. -/
def mappedValue : Cardinality → List Value → Value
  | .plural, targets => .array targets
  | .singular, [] => .null
  | .singular, [target] => target
  | .singular, targets => .array targets

/-- The values of the mapped attributes of an instance. -/
def mappedValues (store : Store) (entity : Entity) (ref : EntityRef) : List (String × Value) :=
  entity.attributes.entries.filterMap fun (attr, info) =>
    match info.type with
    | .association target _ (some owner) =>
      some (attr, mappedValue info.type.cardinality (store.referrers target owner ref))
    | _ => none

/-- The first target of a mapped attribute that has no table. -/
def missingTarget? (store : Store) : Option String :=
  store.model.entities.values.findSome? fun entity =>
    entity.attributes.values.findSome? fun info =>
      match info.type with
      | .association target _ (some _) =>
        if store.tables.contains target then none else some target
      | _ => none

/-- The store with its mapped attributes filled in, all from the references that the records
gave. -/
def withMapped (store : Store) : Store where
  model := store.model
  tables := store.tables.map fun name table =>
    match store.model.entity? name with
    | none => table
    | some entity =>
      table.map fun id row =>
        (store.mappedValues entity ⟨name, id⟩).foldl
          (fun row (attr, value) => row.insert attr value) row

/-- The references that a value holds. -/
def references (value : Value) : List EntityRef :=
  value.elements.filterMap fun
    | .entity ref => some ref
    | _ => none

/-- Every reference that the store holds, with the instance it belongs to. -/
def links (store : Store) : List (EntityRef × EntityRef) :=
  store.tables.entries.flatMap fun (entity, table) =>
    table.rows.flatMap fun (id, row) =>
      row.values.flatMap fun value =>
        (references value).map fun target => (⟨entity, id⟩, target)

/-- The first reference without an instance behind it, with the instance it belongs to. -/
def dangling? (store : Store) : Option (EntityRef × EntityRef) :=
  store.links.find? fun (_, target) => !store.contains target

/-- Load the records in a JSON value. -/
def ofJson (model : Model) (json : Json) : Except ExecutionError Store := do
  let store ← ofRecords model (records json)
  if let some target := store.missingTarget? then
    .error (.entityNotStored target)
  let store := store.withMapped
  if let some (source, target) := store.dangling? then
    .error (.danglingReference source target)
  return store

/-- Load the records in a JSON text. -/
def load (model : Model) (text : String) : Except ExecutionError Store :=
  match Json.readShaped (.map (.list (.map .any))) text with
  | .ok json => ofJson model json
  | .error error => .error (.unreadableData error)

end Store

end EntityGraph
