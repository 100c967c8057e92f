import EntityGraph.Model.Validation
import EntityGraph.Proofs.Store.Decoding
import EntityGraph.Proofs.Value.Equality

/-!
# Stores that can be obtained

A store of a model is empty or loaded from a text. Either way it comes from rows that records
gave, by filling in the mapped attributes, and every reference in it leads to an instance.
Such a store is well typed.
-/

namespace EntityGraph

namespace Store

/-- The stores of a model. -/
inductive Obtained (model : Model) : Store → Prop where
  | empty : Obtained model (Store.empty model)
  | loaded {text : String} {store : Store} (done : Store.load model text = .ok store) :
    Obtained model store

/-- A store whose rows are as records give them, the mapped attributes missing. -/
structure Decoded (raw : Store) : Prop where
  tables : ∀ name info, raw.model.entity? name = some info →
    ∃ table, raw.tables.get? name = some table
  rows : ∀ ref row, raw.row ref = .ok row →
    ∃ entity, raw.model.entity? ref.entity = some entity ∧ Model.GivesRow entity row

end Store

/-! ## Records -/

/-- A table with a further row has this row and the ones before. -/
theorem Table.rows_of_push {table pushed : Table} {id : String} {row : Row}
    (done : table.push? id row = some pushed) : pushed.rows = table.rows ++ [(id, row)] := by
  unfold Table.push? at done
  split at done
  · cases done
  · cases done
    rfl

/-- The rows of a decoded table are those of the records, in their order. -/
theorem Model.mapM_of_decodeTable {model : Model} {name : String} {records : List (Dict Json)}
    {table : Table} (decoded : model.decodeTable name records = .ok table) :
    records.mapM (model.decodeRecord name) = .ok table.rows := by
  unfold Model.decodeTable at decoded
  -- The induction is over the records, so it has to say what is put behind the rows of any table.
  have behind : ∃ rows, records.mapM (model.decodeRecord name) = .ok rows ∧
      table.rows = Table.empty.rows ++ rows := by
    generalize Table.empty = start at decoded ⊢
    induction records generalizing start with
    | nil =>
      cases decoded
      exact ⟨[], rfl, (List.append_nil _).symm⟩
    | cons record rest inductionHypothesis =>
      rw [List.foldlM_cons] at decoded
      obtain ⟨next, step, others⟩ := bind_eq_ok_iff.1 decoded
      obtain ⟨⟨id, row⟩, read, pushed⟩ := bind_eq_ok_iff.1 step
      obtain ⟨rows, each, split⟩ := inductionHypothesis next others
      dsimp only at pushed
      split at pushed
      · next grown pushes =>
        cases pushed
        refine ⟨(id, row) :: rows, ?_, ?_⟩
        · rw [mapM_eq_ok_iff] at each ⊢
          exact .cons read each
        · rw [split, Table.rows_of_push pushes, List.append_assoc, List.singleton_append]
      · cases pushed
  obtain ⟨rows, each, split⟩ := behind
  rw [split]
  exact each

/-- Every number in the records of a value that was read is finite as a double. -/
theorem numeric_of_mem_records {json : Json} (numeric : json.Numeric) {name : String}
    {list : List (Dict Json)} (member : (name, list) ∈ (records json).entries)
    {record : Dict Json} (inside : record ∈ list) {attr : String} {value : Json}
    (held : record.get? attr = some value) : value.Numeric := by
  have listed := Dict.mem_of_get?_ofList (Dict.get?_eq_some_iff.2 member)
  obtain ⟨⟨_, entityJson⟩, entityMember, same⟩ := List.mem_map.1 listed
  cases same
  obtain ⟨recordJson, recordMember, rfl⟩ := List.mem_map.1 inside
  obtain ⟨⟨_, attributeJson⟩, attributeMember, same⟩ :=
    List.mem_map.1 (Dict.mem_of_get?_ofList held)
  cases same
  exact (((numeric.of_mem_members entityMember).of_mem_items recordMember).of_mem_members
    attributeMember).canonical

namespace Store

/-- A row is in the table of its entity. -/
theorem mem_of_row {store : Store} {ref : EntityRef} {row : Row}
    (found : store.row ref = .ok row) :
    ∃ table, store.tables.get? ref.entity = some table ∧ (ref.id, row) ∈ table.rows := by
  obtain ⟨table, known, held⟩ := row_eq_ok_iff.1 found
  exact ⟨table, known, (lookup_eq_some_iff_mem table.distinct).1 held⟩

theorem get?_tables_empty (model : Model) (name : String) :
    (Store.empty model).tables.get? name = (model.entity? name).map fun _ => Table.empty :=
  Dict.get?_map _ _ _

/-- The empty store has no rows. -/
theorem row_empty_ne_ok {model : Model} {ref : EntityRef} {row : Row} :
    (Store.empty model).row ref ≠ .ok row := by
  intro found
  obtain ⟨table, known, member⟩ := mem_of_row found
  rw [get?_tables_empty] at known
  obtain ⟨_, _, rfl⟩ := Option.map_eq_some_iff.1 known
  cases member

/-- The empty store is made of no records. -/
theorem decoded_empty (model : Model) : (Store.empty model).Decoded where
  tables name info declared := by
    have declared : model.entity? name = some info := declared
    exact ⟨Table.empty, by rw [get?_tables_empty, declared]; rfl⟩
  rows _ _ found := absurd found row_empty_ne_ok

/-- Every row of a store that is made of records is that of one of them. -/
theorem exists_record_of_ofRecords {model : Model} {records : Dict (List (Dict Json))}
    {raw : Store} (done : ofRecords model records = .ok raw) {ref : EntityRef} {row : Row}
    (found : raw.row ref = .ok row) :
    ∃ list, (ref.entity, list) ∈ records.entries ∧
      ∃ record ∈ list, model.decodeRecord ref.entity record = .ok (ref.id, row) := by
  obtain ⟨loaded, each, same⟩ := bind_eq_ok_iff.1 done
  cases same
  obtain ⟨table, known, member⟩ := mem_of_row found
  rcases List.mem_append.1 (Dict.mem_of_get?_ofList known) with blank | read
  · have blank := Dict.get?_eq_some_iff.2 blank
    rw [get?_tables_empty] at blank
    obtain ⟨_, _, rfl⟩ := Option.map_eq_some_iff.1 blank
    cases member
  · obtain ⟨⟨name, list⟩, present, step⟩ := exists_of_mem_mapM each read
    obtain ⟨decoded, decodedTable, same⟩ := bind_eq_ok_iff.1 step
    cases same
    exact ⟨list, present, exists_of_mem_mapM (Model.mapM_of_decodeTable decodedTable) member⟩

/-- Tables are decoded under the names of their entities. -/
theorem names_of_mapM_decodeTable {model : Model} {entries : List (String × List (Dict Json))}
    {loaded : List (String × Table)}
    (each : (entries.mapM fun (entity, list) => do
      return (entity, ← model.decodeTable entity list)) = .ok loaded) :
    loaded.map Prod.fst = entries.map Prod.fst := by
  rw [mapM_eq_ok_iff] at each
  induction each with
  | nil => rfl
  | cons first _ inductionHypothesis =>
    obtain ⟨table, _, same⟩ := bind_eq_ok_iff.1 first
    cases same
    rw [List.map_cons, List.map_cons, inductionHypothesis]

/-- Every entity of the model has a table, whose rows are those of its records in their order. -/
theorem exists_table_of_ofRecords {model : Model} {records : Dict (List (Dict Json))} {raw : Store}
    (done : ofRecords model records = .ok raw) {name : String} {entity : Entity}
    (declared : model.entity? name = some entity) :
    ∃ table, raw.tables.get? name = some table ∧
      ((records.get? name).getD []).mapM (model.decodeRecord name) = .ok table.rows := by
  obtain ⟨loaded, each, same⟩ := bind_eq_ok_iff.1 done
  cases same
  have names := names_of_mapM_decodeTable each
  have distinct : (loaded.map Prod.fst).Nodup := names ▸ records.distinct
  have blank : (Dict.ofList (Store.empty model).tables.entries).get? name = some Table.empty := by
    rw [Dict.ofList_entries, get?_tables_empty, declared]
    rfl
  dsimp only
  rw [Dict.get?_ofList_append, blank]
  cases given : records.get? name with
  | none =>
    have absent : name ∉ loaded.map Prod.fst := by
      rw [names]
      intro member
      obtain ⟨⟨_, list⟩, inside, rfl⟩ := List.mem_map.1 member
      rw [Dict.get?_eq_some_iff.2 inside] at given
      cases given
    have unread : (Dict.ofList loaded).get? name = none := by
      rw [Option.eq_none_iff_forall_ne_some]
      exact fun table found => absent (List.mem_map.2 ⟨_, Dict.mem_of_get?_ofList found, rfl⟩)
    rw [unread]
    exact ⟨Table.empty, rfl, rfl⟩
  | some list =>
    obtain ⟨_, member, step⟩ := exists_of_mem_of_mapM each (Dict.get?_eq_some_iff.1 given)
    obtain ⟨table, decoded, same⟩ := bind_eq_ok_iff.1 step
    cases same
    rw [(Dict.get?_ofList_eq_some_iff distinct).2 member]
    exact ⟨table, rfl, Model.mapM_of_decodeTable decoded⟩

/-- A store that is made of records has their rows. -/
theorem decoded_of_ofRecords {model : Model} {json : Json} {raw : Store} (numeric : json.Numeric)
    (done : ofRecords model (records json) = .ok raw) : raw.model = model ∧ raw.Decoded := by
  obtain ⟨loaded, each, same⟩ := bind_eq_ok_iff.1 done
  have rows {ref : EntityRef} {row : Row} (found : raw.row ref = .ok row) :
      ∃ entity, model.entity? ref.entity = some entity ∧ Model.GivesRow entity row := by
    obtain ⟨list, present, record, inside, read⟩ := exists_record_of_ofRecords done found
    exact Model.givesRow_of_decodeRecord
      (fun attr value => numeric_of_mem_records numeric present inside) read
  cases same
  refine ⟨rfl, fun name info declared => ?_, fun ref row found => rows found⟩
  have listed : (name, Table.empty) ∈ (Store.empty model).tables.entries := by
    refine Dict.get?_eq_some_iff.1 ?_
    rw [get?_tables_empty]
    simp [show model.entity? name = some info from declared]
  exact Dict.exists_get?_ofList (List.mem_append_left loaded listed)

/-! ## Mapped attributes -/

/-- A row with its mapped attributes filled in. -/
def filled (raw : Store) (ref : EntityRef) (row : Row) : Row :=
  match raw.model.entity? ref.entity with
  | none => row
  | some entity =>
    (raw.mappedValues entity ref).foldl (fun row (attr, value) => row.insert attr value) row

theorem row?_map (table : Table) (change : String → Row → Row) (id : String) :
    (table.map change).row? id = (table.row? id).map (change id) := by
  simp only [Table.row?, Table.map]
  induction table.rows with
  | nil => rfl
  | cons entry rest inductionHypothesis =>
    obtain ⟨other, row⟩ := entry
    rw [List.map_cons, lookup_cons_eq, lookup_cons_eq, inductionHypothesis]
    by_cases same : id = other <;> simp [same]

/-- Filling in the mapped attributes changes each row by itself. -/
theorem row_withMapped (raw : Store) (ref : EntityRef) {row : Row} :
    raw.withMapped.row ref = .ok row ↔ ∃ given, raw.row ref = .ok given ∧
      row = raw.filled ref given := by
  simp only [row_eq_ok_iff, withMapped, Dict.get?_map]
  cases raw.tables.get? ref.entity with
  | none => simp
  | some table =>
    simp only [Option.map_some, Option.some.injEq, exists_eq_left', filled]
    cases raw.model.entity? ref.entity with
    | none => simp [eq_comm]
    | some entity =>
      simp only [row?_map, Option.map_eq_some_iff]
      exact exists_congr fun given => and_congr_right fun _ => eq_comm

/-- Filling in the mapped attributes neither adds nor removes instances. -/
theorem contains_withMapped (raw : Store) (ref : EntityRef) :
    raw.withMapped.contains ref = true ↔ raw.contains ref = true := by
  simp only [contains_iff, row_withMapped]
  constructor
  · rintro ⟨_, given, found, _⟩
    exact ⟨given, found⟩
  · rintro ⟨given, found⟩
    exact ⟨_, given, found, rfl⟩

/-- The mapped values are those of the mapped attributes. -/
theorem mem_mappedValues_iff {raw : Store} {entity : Entity} {ref : EntityRef} {attr : String}
    {value : Value} :
    (attr, value) ∈ raw.mappedValues entity ref ↔
      ∃ target kind owner description?,
        entity.attributes.get? attr =
          some ⟨.association target kind (some owner), description?⟩ ∧
        value = mappedValue (AttributeType.association target kind (some owner)).cardinality
          (raw.referrers target owner ref) := by
  simp only [mappedValues, List.mem_filterMap, Prod.exists, Dict.get?_eq_some_iff]
  constructor
  · rintro ⟨other, ⟨type, description?⟩, member, same⟩
    split at same
    · next target kind owner known =>
      cases known
      cases same
      exact ⟨target, kind, owner, description?, member, rfl⟩
    · cases same
  · rintro ⟨target, kind, owner, description?, member, rfl⟩
    exact ⟨attr, _, member, rfl⟩

/-- The mapped values have different names. -/
theorem distinct_mappedValues (raw : Store) (entity : Entity) (ref : EntityRef) :
    ((raw.mappedValues entity ref).map Prod.fst).Nodup := by
  refine List.Sublist.nodup ?_ entity.attributes.distinct
  rw [mappedValues]
  induction entity.attributes.entries with
  | nil => exact .slnil
  | cons entry rest inductionHypothesis =>
    rw [List.filterMap_cons]
    split
    · exact inductionHypothesis.cons _
    · next named found =>
      have same : named.1 = entry.1 := by
        dsimp only at found
        split at found
        · cases found
          rfl
        · cases found
      rw [List.map_cons, List.map_cons, same]
      exact inductionHypothesis.cons_cons _

variable {raw : Store} {ref : EntityRef} {entity : Entity} {attr : String} {row : Row}

/-- What a filled row holds: the mapped values, and otherwise what it held. -/
theorem get?_filled (declared : raw.model.entity? ref.entity = some entity) :
    (raw.filled ref row).get? attr =
      ((raw.mappedValues entity ref).reverse.lookup attr).or (row.get? attr) := by
  rw [filled, declared]
  exact Dict.get?_foldl_insert _ row attr

/-- A mapped attribute is filled with the instances that refer to its owner. -/
theorem get?_filled_mapped (declared : raw.model.entity? ref.entity = some entity)
    {target owner : String} {kind : AssociationKind} {description? : Option String}
    (known : entity.attributes.get? attr =
      some ⟨.association target kind (some owner), description?⟩) :
    (raw.filled ref row).get? attr =
      some (mappedValue (AttributeType.association target kind (some owner)).cardinality
        (raw.referrers target owner ref)) := by
  have listed : (attr, mappedValue (AttributeType.association target kind (some owner)).cardinality
      (raw.referrers target owner ref)) ∈ raw.mappedValues entity ref :=
    mem_mappedValues_iff.2 ⟨target, kind, owner, description?, known, rfl⟩
  have reversed : ((raw.mappedValues entity ref).reverse.map Prod.fst).Nodup := by
    rw [List.map_reverse]
    exact List.pairwise_reverse.2 ((distinct_mappedValues raw entity ref).imp Ne.symm)
  rw [get?_filled declared, (lookup_eq_some_iff_mem reversed).2 (List.mem_reverse.2 listed)]
  rfl

/-- An attribute that is not mapped keeps its value. -/
theorem get?_filled_direct (declared : raw.model.entity? ref.entity = some entity)
    {info : Attribute} (known : entity.attributes.get? attr = some info)
    (direct : info.type.owner? = none) : (raw.filled ref row).get? attr = row.get? attr := by
  have absent : attr ∉ (raw.mappedValues entity ref).reverse.map Prod.fst := by
    intro member
    obtain ⟨⟨_, value⟩, inside, rfl⟩ := List.mem_map.1 member
    obtain ⟨target, kind, owner, description?, mapped, _⟩ :=
      mem_mappedValues_iff.1 (List.mem_reverse.1 inside)
    rw [known] at mapped
    cases mapped
    cases direct
  rw [get?_filled declared, lookup_eq_none_of_not_mem absent]
  rfl

/-- The referrers of an instance are the instances that hold it in the owner. -/
theorem mem_referrers_iff {target owner : String} {value : Value} :
    value ∈ raw.referrers target owner ref ↔
      ∃ id row, value = .entity ⟨target, id⟩ ∧ raw.row ⟨target, id⟩ = .ok row ∧
        (.entity ref : Value) ∈ ((row.get? owner).getD .null).elements := by
  unfold referrers
  simp only [row_eq_ok_iff]
  cases raw.tables.get? target with
  | none => simp
  | some table =>
    simp only [List.mem_flatMap, List.mem_map, List.mem_filter, Value.same_entity_iff, Prod.exists,
      Option.some.injEq, exists_eq_left', Table.row?, lookup_eq_some_iff_mem table.distinct]
    constructor
    · rintro ⟨id, row, member, _, ⟨inside, rfl⟩, rfl⟩
      exact ⟨id, row, rfl, member, inside⟩
    · rintro ⟨id, row, rfl, member, inside⟩
      exact ⟨id, row, member, _, ⟨inside, rfl⟩, rfl⟩

/-- A mapped value leads to its targets. -/
theorem elements_mappedValue {targets : List Value} (cardinality : Cardinality)
    (each : ∀ target ∈ targets, ∃ ref, target = .entity ref) :
    (mappedValue cardinality targets).elements = targets := by
  unfold mappedValue
  split
  · rfl
  · rfl
  · next target =>
    obtain ⟨ref, rfl⟩ := each target List.mem_cons_self
    rfl
  · rfl

/-- A mapped attribute leads to the referrers of its instance. -/
theorem elements_mappedValue_referrers (cardinality : Cardinality) (target owner : String) :
    (mappedValue cardinality (raw.referrers target owner ref)).elements =
      raw.referrers target owner ref := by
  refine elements_mappedValue cardinality fun value member => ?_
  obtain ⟨id, _, same, _⟩ := mem_referrers_iff.1 member
  exact ⟨⟨target, id⟩, same⟩

/-- Without instances there is nothing to fill in. -/
theorem withMapped_empty (model : Model) : (Store.empty model).withMapped = Store.empty model := by
  have blank (name : String) :
      (match model.entity? name with
        | none => Table.empty
        | some entity => Table.empty.map fun id row =>
          ((Store.empty model).mappedValues entity ⟨name, id⟩).foldl
            (fun row (attr, value) => row.insert attr value) row) = Table.empty := by
    cases model.entity? name <;> rfl
  simp only [withMapped, Store.empty, Dict.map, List.map_map]
  congr 2
  exact List.map_congr_left fun entry _ => congrArg (Prod.mk entry.1) (blank entry.1)

/-! ## Stores of a model -/

/-- Whether every reference that a store holds leads to an instance. -/
def Closed (store : Store) : Prop :=
  ∀ source row attr value target, store.row source = .ok row → row.get? attr = some value →
    (.entity target : Value) ∈ value.elements → store.contains target = true

/-- A store without a dangling reference is closed. -/
theorem closed_of_dangling {store : Store} (none : store.dangling? = none) : store.Closed := by
  intro source row attr value target found held member
  obtain ⟨table, known, inside⟩ := mem_of_row found
  have link : (source, target) ∈ store.links := by
    refine List.mem_flatMap.2 ⟨(source.entity, table), Dict.get?_eq_some_iff.1 known, ?_⟩
    refine List.mem_flatMap.2 ⟨(source.id, row), inside, ?_⟩
    refine List.mem_flatMap.2 ⟨value, Dict.mem_values_iff.2 ⟨attr, held⟩, ?_⟩
    exact List.mem_map.2 ⟨target, List.mem_filterMap.2 ⟨_, member, rfl⟩, rfl⟩
  simpa using List.find?_eq_none.1 none _ link

/-- What is loaded from a text is what is loaded from the value that is read from it. -/
theorem load_ofList {model : Model} {chars : List Char} {json : Json}
    (read : Json.readText (.map (.list (.map .any))) chars = .ok json) :
    load model (String.ofList chars) = ofJson model json := by
  rw [load, Json.readShaped, String.toList_ofList, read]

/-- What is loaded from a value is made of its records, its mapped attributes filled in and no
reference dangling. -/
theorem exists_raw_of_ofJson {model : Model} {json : Json} {store : Store}
    (done : ofJson model json = .ok store) :
    ∃ raw, ofRecords model (records json) = .ok raw ∧ store = raw.withMapped ∧
      raw.withMapped.dangling? = none := by
  obtain ⟨raw, made, done⟩ := bind_eq_ok_iff.1 done
  refine ⟨raw, made, ?_⟩
  cases missing : raw.missingTarget? with
  | some target => simp [missing, bind, Except.bind] at done
  | none =>
    cases none : raw.withMapped.dangling? with
    | some link => simp [missing, none, bind, Except.bind] at done
    | none =>
      simp only [missing, none, pure, Except.pure] at done
      cases done
      exact ⟨rfl, rfl⟩

/-- A loaded store is made of the records of a value that was read, its mapped attributes filled
in and no reference dangling. -/
theorem exists_raw_of_load {model : Model} {text : String} {store : Store}
    (done : load model text = .ok store) :
    ∃ json raw, Json.Numeric json ∧ ofRecords model (records json) = .ok raw ∧
      store = raw.withMapped ∧ raw.withMapped.dangling? = none := by
  unfold load at done
  split at done
  · next json read =>
    obtain ⟨raw, made, rest⟩ := exists_raw_of_ofJson done
    exact ⟨json, raw, Json.numeric_of_readShaped read, made, rest⟩
  · cases done

/-- A store of a model is made of records, its mapped attributes filled in, and closed. -/
theorem exists_decoded {model : Model} {store : Store} (obtained : Obtained model store) :
    ∃ raw : Store, raw.model = model ∧ raw.Decoded ∧ store = raw.withMapped ∧ store.Closed := by
  cases obtained with
  | empty =>
    refine ⟨Store.empty model, rfl, decoded_empty model, (withMapped_empty model).symm, ?_⟩
    exact fun source row attr value target found => absurd found row_empty_ne_ok
  | loaded done =>
    obtain ⟨json, raw, numeric, made, rfl, none⟩ := exists_raw_of_load done
    obtain ⟨same, decoded⟩ := decoded_of_ofRecords numeric made
    exact ⟨raw, same, decoded, rfl, closed_of_dangling none⟩

/-- A closed store whose rows are as records give them is well typed once its mapped attributes
are filled in. -/
theorem Decoded.wellTyped (decoded : raw.Decoded) (closed : raw.withMapped.Closed) :
    raw.withMapped.WellTyped where
  tables name info declared := by
    obtain ⟨table, found⟩ := decoded.tables name info declared
    rw [withMapped, Dict.get?_map, found]
    exact ⟨_, rfl⟩
  rows ref row found := by
    obtain ⟨given, present, rfl⟩ := (row_withMapped raw ref).1 found
    obtain ⟨entity, declared, gives⟩ := decoded.rows ref given present
    refine ⟨entity, declared, fun attr info known => ?_⟩
    cases mapped : info.type.owner? with
    | none =>
      obtain ⟨value, held, fits⟩ := gives.direct attr info known mapped
      rw [← get?_filled_direct declared known mapped] at held
      refine ⟨value, held, ?_⟩
      cases type : info.type with
      | association target kind mappedBy? =>
        rw [type] at fits
        intro element member
        obtain ⟨targetRef, rfl, ofTarget, _⟩ := fits element member
        exact ⟨targetRef, rfl, ofTarget, closed ref _ attr value targetRef found held member⟩
      | _ =>
        rw [type] at fits
        exact fits
    | some owner =>
      obtain ⟨type, description?⟩ := info
      cases type with
      | association target kind mappedBy? =>
        cases mapped
        have held : (raw.filled ref given).get? attr = some _ :=
          get?_filled_mapped declared known
        refine ⟨_, held, fun element member => ?_⟩
        have among := member
        rw [elements_mappedValue_referrers] at among
        obtain ⟨id, _, rfl, _⟩ := mem_referrers_iff.1 among
        exact ⟨⟨target, id⟩, rfl, rfl, closed ref _ attr _ _ found held member⟩
      | _ => cases mapped

variable {model : Model} {store : Store}

/-- A store of a model is described by the model. -/
theorem Obtained.model_eq (obtained : Obtained model store) : store.model = model := by
  obtain ⟨raw, same, _, rfl, _⟩ := exists_decoded obtained
  exact same

/-- A store of a model is well typed. -/
theorem Obtained.wellTyped (obtained : Obtained model store) : store.WellTyped := by
  obtain ⟨raw, _, decoded, rfl, closed⟩ := exists_decoded obtained
  exact decoded.wellTyped closed

end Store

end EntityGraph
