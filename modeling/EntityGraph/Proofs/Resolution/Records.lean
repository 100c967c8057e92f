import EntityGraph.Proofs.Planning.PlainFields
import EntityGraph.Proofs.Resolution.RootFields
import EntityGraph.Proofs.Resolution.Variables
import EntityGraph.Proofs.Store.Records

/-!
# Data comes back as it was loaded

A request for attributes of an entity, without associations and arguments, is answered with the
records of the entity: one object for each record and in their order, with what the record gives.
Nothing but the variables can get in the way, as they are read before anything else.
-/

namespace EntityGraph

/-! ## Rows in a response -/

/-- The value that a row holds for an attribute, null if it holds none. -/
def Row.shownValue (row : Row) (attr : String) : Json :=
  ((row.get? attr).getD .null).toJson

/-- What an instance of a row has for an attribute is what the row holds. -/
theorem attributeData_rowInstance {info : Entity} {child : Selection} (shows : info.Shows child)
    (entity : String) (entry : String × Row) :
    Resolver.attributeData (Planner.rowInstance info entity entry) child.name =
      Row.shownValue entry.2 child.name := by
  obtain ⟨attr, known, plain⟩ := shows.plain
  have listed : (child.name, Field.value ((entry.2.get? child.name).getD .null)) ∈
      Store.plainFields info entry.2 := by
    refine List.mem_map.2 ⟨(child.name, attr), List.mem_filter.2 ⟨?_, ?_⟩, rfl⟩
    · exact Dict.get?_eq_some_iff.1 known
    · simp [plain]
  have distinct : ((Store.plainFields info entry.2).map Prod.fst).Nodup := by
    rw [Store.plainFields, List.map_map]
    exact (List.filter_sublist.map Prod.fst).nodup info.attributes.distinct
  have found : (Planner.rowInstance info entity entry).field? child.name =
      some (.value ((entry.2.get? child.name).getD .null)) :=
    (lookup_eq_some_iff_mem distinct).2 listed
  rw [Resolver.attributeData, Instance.value?, found]
  rfl

namespace Resolver

variable {resolver : Resolver} {info : Entity} {entity : String} {selections : List Selection}

/-- Attributes are resolved to what the row of the instance holds. -/
theorem outcome_resolveMembers_of_shows (vars : Dict Value)
    (declared : resolver.planner.model.entity? entity = some info)
    (shows : ∀ child ∈ selections, info.Shows child) (entry : String × Row) :
    (resolver.resolveMembers vars (Planner.rowInstance info entity entry) selections).outcome =
      .ok (selections.map fun child =>
        (child.key, .leaf (Row.shownValue entry.2 child.name))) := by
  rw [outcome_resolveMembers]
  refine mapM_eq_ok_map fun child member => ?_
  obtain ⟨attr, known, unrelated⟩ := (shows child member).exists_attribute declared
  have resolved : (resolver.resolveMember vars (Planner.rowInstance info entity entry)
      child).outcome = .ok (.leaf (Row.shownValue entry.2 child.name)) := by
    rw [outcome_resolveMember_of_unrelated resolver vars (shows child member).named known unrelated,
      attributeData_rowInstance (shows child member)]
  rw [resolved]
  rfl

end Resolver

/-- The object that selections make of a row. -/
def Row.object (selections : List Selection) (row : Row) : Json :=
  Json.ofDict <| Dict.ofList <| selections.map fun child =>
    (child.key, row.shownValue child.name)

/-- Members without errors make an object without errors. -/
theorem Resolved.object_leaves (selections : List Selection) (row : Row) :
    Resolved.object (selections.map fun child =>
        (child.key, .leaf (row.shownValue child.name))) = .leaf (row.object selections) := by
  rw [Resolved.object, List.map_map, List.flatMap_map]
  congr 1
  exact List.flatMap_eq_nil_iff.2 fun _ _ => rfl

/-- Items without errors make a list without errors. -/
theorem Resolved.list_leaves (items : List Json) :
    Resolved.list (items.map .leaf) = .leaf (.array items) := by
  have errors (index : Nat) : itemErrors index (items.map .leaf) = [] := by
    induction items generalizing index with
    | nil => rfl
    | cons item rest inductionHypothesis =>
      rw [List.map_cons, itemErrors, inductionHypothesis]
      rfl
  rw [Resolved.list, errors, List.map_map]
  congr 2
  exact List.map_id items

namespace Service

variable {service : Service} {field : Selection} {info : Entity} {table : Table}

/-- A root field that selects attributes only is resolved to the rows of its entity. -/
theorem outcome_resolveRoot_of_shows (vars : Dict Value) (named : field.isTypename = false)
    (unargued : field.arguments = []) (shows : ∀ child ∈ field.selections, info.Shows child)
    (declared : service.store.model.entity? field.name = some info)
    (known : service.store.tables.get? field.name = some table) :
    (service.resolver.resolveRoot vars field).outcome =
      .ok (.leaf (.array (table.rows.map fun entry => Row.object field.selections entry.2))) := by
  have instances (arguments : Dict Value) :
      service.instances ⟨vars, arguments, none⟩ field.name field =
        .ok (table.rows.map (Planner.rowInstance info field.name)) :=
    bind_eq_ok_iff.2 ⟨Planner.listing field.name,
      mapError_eq_ok_iff.2 (Planner.plan_eq_listing declared rfl unargued shows),
      mapError_eq_ok_iff.2 (Planner.execute_listing known declared)⟩
  have members : ((table.rows.map (Planner.rowInstance info field.name)).mapM fun inst =>
      (service.resolver.resolveMembers vars inst field.selections).outcome) =
      .ok (table.rows.map fun entry => field.selections.map fun child =>
        (child.key, .leaf (Row.shownValue entry.2 child.name))) := by
    rw [List.mapM_map]
    exact mapM_eq_ok_map fun entry _ =>
      Resolver.outcome_resolveMembers_of_shows vars declared shows entry
  have objects : (table.rows.map fun entry => field.selections.map fun child =>
      (child.key, Resolved.leaf (Row.shownValue entry.2 child.name))).map Resolved.object =
      (table.rows.map fun entry => Row.object field.selections entry.2).map .leaf := by
    rw [List.map_map, List.map_map]
    exact List.map_congr_left fun entry _ => Resolved.object_leaves field.selections entry.2
  rw [Resolver.resolveRoot, if_neg (by simp [named]), Trace.outcome_bind, outcome_fetchRoot,
    instances]
  change (service.resolver.resolveFetched vars (.list _) field).outcome = _
  rw [Resolver.resolveFetched_eq]
  simp only [Trace.outcome_bind, Trace.outcome_mapM, Trace.outcome_pure, members]
  rw [← Resolved.list_leaves, ← objects]
  rfl

end Service

/-! ## Records in a response -/

/-- Whether an object shows what a record gives to the selected attributes: each under the key of
its selection, and nothing else. -/
structure Entity.ShowsRecord (info : Entity) (selections : List Selection) (record object : Json) :
    Prop where
  keys : ∃ members : Dict Json, object = Json.ofDict members ∧
    ∀ key, (members.get? key).isSome ↔ key ∈ selections.map Selection.key
  values : ∀ child ∈ selections, ∀ attr, info.attributes.get? child.name = some attr →
    object.member? child.key = some (attr.type.shown (record.given child.name))

/-- The object of a row shows the record that the row shows. -/
theorem Entity.RowShows.object {info : Entity} {selections : List Selection} {record : Json}
    {row : Row} (same : info.RowShows record row) (shows : ∀ child ∈ selections, info.Shows child)
    (distinct : (selections.map Selection.key).Nodup) :
    info.ShowsRecord selections record (row.object selections) where
  keys := by
    refine ⟨_, rfl, fun key => ?_⟩
    rw [Option.isSome_iff_exists, List.mem_map]
    constructor
    · rintro ⟨value, found⟩
      obtain ⟨child, member, same⟩ := List.mem_map.1 (Dict.mem_of_get?_ofList found)
      cases same
      exact ⟨child, member, rfl⟩
    · rintro ⟨child, member, rfl⟩
      exact Dict.exists_get?_ofList (List.mem_map.2 ⟨child, member, rfl⟩)
  values child member attr known := by
    obtain ⟨other, again, plain⟩ := (shows child member).plain
    cases known.symm.trans again
    obtain ⟨value, held, shown⟩ := same child.name attr known plain
    have keyed : ((selections.map fun child => (child.key, row.shownValue child.name)).map
        Prod.fst).Nodup := by
      rw [List.map_map]
      exact distinct
    rw [← shown]
    refine (Dict.get?_ofList_eq_some_iff keyed).2 (List.mem_map.2 ⟨child, member, ?_⟩)
    rw [Row.shownValue, held]
    rfl

/-- If nothing but its variables can get in the way of a request, then it fails exactly for the first
object in them. -/
theorem Resolver.outcome_answer_eq_error_iff {resolver : Resolver} {request : Request}
    {error : RequestError}
    (answers : ∀ vars, variableValues request.vars = .ok vars →
      ∃ response, (resolver.answer request).outcome = .ok response) :
    (resolver.answer request).outcome = .error error ↔
      ∃ unsupported, request.vars.entries.findSome? (fun entry => entry.2.firstObject?) =
          some unsupported ∧
        error = .planning (.coercion (.unsupportedJson unsupported)) := by
  cases valued : variableValues request.vars with
  | ok vars =>
    obtain ⟨response, answered⟩ := answers vars valued
    rw [answered]
    constructor
    · intro impossible
      cases impossible
    · rintro ⟨unsupported, first, rfl⟩
      have refused := variableValues_eq_error_iff.2 ⟨unsupported, first, rfl⟩
      cases valued.symm.trans refused
  | error refusal =>
    obtain ⟨unsupported, first, rfl⟩ := variableValues_eq_error_iff.1 valued
    rw [outcome_answer_of_refused valued, first]
    simp [eq_comm]

/-- A request for attributes of an entity, without associations and arguments and with different
keys, is answered exactly if no variable is an object or holds one in a list. Its response has no
errors and one object for each record of the entity, in their order, that shows what the record
gives to the attributes. Otherwise the request is refused for the first such object, and it fails
for no other reason. -/
theorem records_come_back_as_loaded {model : Model} {settings : FetchSettings} {store : Store}
    {text : String} {json : Json} {request : Request} {field : Selection} {info : Entity}
    (read : Json.readShaped (.map (.list (.map .any))) text = .ok json)
    (loaded : Store.load model text = .ok store) (asked : request.fields = [field])
    (declared : model.entity? field.name = some info) (named : field.isTypename = false)
    (unargued : field.arguments = []) (shows : ∀ child ∈ field.selections, info.Shows child)
    (distinct : (field.selections.map Selection.key).Nodup) :
    ((∃ response, (Service.query ⟨settings, store⟩ request).outcome = .ok response) ↔
      ∀ name value, request.vars.get? name = some value → value.holdsObject = false) ∧
    (∀ response, (Service.query ⟨settings, store⟩ request).outcome = .ok response →
      response.errors = [] ∧
      ∃ objects, response.data = .object [(field.key, .array objects)] ∧
        List.Forall₂ (info.ShowsRecord field.selections) (json.recordsOf field.name) objects) ∧
    ∀ error, (Service.query ⟨settings, store⟩ request).outcome = .error error ↔
      ∃ unsupported, request.vars.entries.findSome? (fun entry => entry.2.firstObject?) =
          some unsupported ∧
        error = .planning (.coercion (.unsupportedJson unsupported)) := by
  have made : Store.ofJson model json = .ok store := by
    rw [← loaded, Store.load, read]
  obtain ⟨table, known, rows⟩ :=
    Store.exists_rows_of_ofJson (Json.numeric_of_readShaped read) made declared
  have same : store.model = model := (Store.Obtained.loaded loaded).model_eq
  have answer {vars : Dict Value} (valued : variableValues request.vars = .ok vars) :
      (Service.query ⟨settings, store⟩ request).outcome = .ok (.object [(field.key,
        .leaf (.array (table.rows.map fun entry => Row.object field.selections entry.2)))]) := by
    have only : request = request.only field := by rw [Request.only, ← asked]
    have resolved : ((Service.mk settings store).resolver.resolveRoot vars field).outcome = _ :=
      Service.outcome_resolveRoot_of_shows vars named unargued shows (same.symm ▸ declared) known
    rw [only]
    exact Resolver.answer_only_eq_ok valued resolved
  refine ⟨?_, ?_, fun error => ?_⟩
  · rw [← exists_variableValues_iff]
    constructor
    · rintro ⟨response, answered⟩
      exact Resolver.exists_vars_of_answer answered
    · rintro ⟨vars, valued⟩
      exact ⟨_, answer valued⟩
  · intro response answered
    obtain ⟨vars, valued⟩ := Resolver.exists_vars_of_answer answered
    cases (answer valued).symm.trans answered
    refine ⟨rfl, _, rfl, ?_⟩
    rw [List.forall₂_map_right_iff]
    exact rows.imp fun record entry same => same.object shows distinct
  · exact Resolver.outcome_answer_eq_error_iff fun vars valued => ⟨_, answer valued⟩

/-! ## Parcels -/

/-- A parcel with its weight, its size, the stops on its way and the parcel that follows it. -/
def Entity.parcel : Entity where
  idAttribute := "id"
  attributes := Dict.ofList [
    ("id", ⟨.basic .uuid, none⟩),
    ("weight", ⟨.basic .numeric, none⟩),
    ("size", ⟨.enum "Size", none⟩),
    ("stops", ⟨.collection (.basic .uuid), none⟩),
    ("next", ⟨.association "Parcel" .manyToOne none, none⟩)]
  description? := none

/-- A model of parcels. -/
def Model.parcels : Model where
  entities := Dict.ofList [("Parcel", .parcel)]
  enumTypes := Dict.ofList [("Size", ⟨["small", "large"]⟩)]

/-- The records of two parcels, with identifiers in different spellings. -/
def parcelsJson : Json :=
  .object [("Parcel", .array [
    .object [("id", .string "0000000A-0000-0000-0000-000000000001"), ("weight", .number (.int 3)),
      ("stops", .array [.string "\x7b0000000B-0000-0000-0000-000000000002\x7d", .null])],
    .object [("id", .string "0000000c000000000000000000000003"), ("size", .string "small"),
      ("next", .string "0000000A-0000-0000-0000-000000000001")]])]

/-- The store of the parcels. -/
def Store.parcels : Store :=
  (Store.ofJson Model.parcels parcelsJson).toOption.getD (Store.empty Model.parcels)

theorem read_parcels : Json.readShaped (.map (.list (.map .any)))
    (String.ofList parcelsJson.compactChars) = .ok parcelsJson := by
  have read : Json.readText (.map (.list (.map .any))) parcelsJson.compactChars =
      .ok parcelsJson := by
    cbv
  rw [Json.readShaped, String.toList_ofList, read]

theorem load_parcels :
    Store.load Model.parcels (String.ofList parcelsJson.compactChars) = .ok Store.parcels := by
  rw [Store.load, read_parcels]
  exact eq_ok_of_isOk (by decide +kernel)

/-- All that is known of the parcels themselves, the weight in kilograms. -/
def parcelsField : Selection :=
  ⟨"Parcel", none, [], [⟨"id", none, [], []⟩, ⟨"weight", some "kg", [], []⟩,
    ⟨"size", none, [], []⟩, ⟨"stops", none, [], []⟩]⟩

/-- The field selects attributes of parcels only. -/
theorem shows_parcelsField : ∀ child ∈ parcelsField.selections, Entity.parcel.Shows child := by
  simp only [parcelsField, List.forall_mem_cons]
  exact ⟨⟨rfl, rfl, _, rfl, rfl⟩, ⟨rfl, rfl, _, rfl, rfl⟩, ⟨rfl, rfl, _, rfl, rfl⟩,
    ⟨rfl, rfl, _, rfl, rfl⟩, by simp⟩

/-- Without variables the parcels are answered. The first has its identifier in lower case, its
weight as a double, no size, and stops that are spelled like identifiers or null. -/
theorem parcels_come_back_as_loaded :
    Model.parcels.Consistent ∧ ∃ response first second,
      (Service.query ⟨.standard, Store.parcels⟩ ⟨[parcelsField], Dict.empty⟩).outcome =
        .ok response ∧
      response.errors = [] ∧
      response.data = .object [("Parcel", .array [first, second])] ∧
      first.member? "id" = some (.string "0000000a-0000-0000-0000-000000000001") ∧
      first.member? "kg" = some (.number (.float (Float.ofInt 3))) ∧
      first.member? "size" = some .null ∧
      first.member? "stops" =
        some (.array [.string "0000000b-0000-0000-0000-000000000002", .null]) ∧
      second.member? "id" = some (.string "0000000c-0000-0000-0000-000000000003") ∧
      second.member? "stops" = some (.array []) := by
  have distinct : (parcelsField.selections.map Selection.key).Nodup := by decide
  obtain ⟨answered, each, _⟩ := @records_come_back_as_loaded Model.parcels .standard Store.parcels
    _ parcelsJson ⟨[parcelsField], Dict.empty⟩ parcelsField .parcel read_parcels load_parcels
    rfl rfl rfl rfl shows_parcelsField distinct
  obtain ⟨response, done⟩ := answered.2 (by rintro name value ⟨⟩)
  obtain ⟨errors, objects, data, related⟩ := each response done
  obtain ⟨first, _, shown, others, rfl⟩ := List.forall₂_cons_left_iff.1 related
  obtain ⟨second, _, shownToo, ⟨⟩, rfl⟩ := List.forall₂_cons_left_iff.1 others
  refine ⟨by decide +kernel, response, first, second, done, errors, data, ?_, ?_, ?_, ?_, ?_, ?_⟩
  · exact shown.values ⟨"id", none, [], []⟩ (by simp [parcelsField]) _ rfl
  · exact shown.values ⟨"weight", some "kg", [], []⟩ (by simp [parcelsField]) _ rfl
  · exact shown.values ⟨"size", none, [], []⟩ (by simp [parcelsField]) _ rfl
  · exact shown.values ⟨"stops", none, [], []⟩ (by simp [parcelsField]) _ rfl
  · exact shownToo.values ⟨"id", none, [], []⟩ (by simp [parcelsField]) _ rfl
  · exact shownToo.values ⟨"stops", none, [], []⟩ (by simp [parcelsField]) _ rfl

/-- A variable that is an object refuses the same request, although nothing refers to it. -/
theorem object_variable_refuses_parcels :
    Model.parcels.Consistent ∧
      Store.load Model.parcels (String.ofList parcelsJson.compactChars) = .ok Store.parcels ∧
      Model.parcels.entity? parcelsField.name = some .parcel ∧
      parcelsField.isTypename = false ∧ parcelsField.arguments = [] ∧
      (∀ child ∈ parcelsField.selections, Entity.parcel.Shows child) ∧
      (parcelsField.selections.map Selection.key).Nodup ∧
      (Service.query ⟨.standard, Store.parcels⟩
        ⟨[parcelsField], Dict.ofList [("v", .object [])]⟩).outcome =
          .error (.planning (.coercion (.unsupportedJson (.object [])))) :=
  ⟨by decide +kernel, load_parcels, rfl, rfl, rfl, shows_parcelsField, by decide, rfl⟩

end EntityGraph
