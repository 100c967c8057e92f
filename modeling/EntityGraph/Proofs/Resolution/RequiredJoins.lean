import EntityGraph.Proofs.Request.Keys
import EntityGraph.Proofs.Resolution.Positions
import EntityGraph.Proofs.Resolution.Walked
import EntityGraph.Proofs.Store.Mirror

/-!
# What an inner join promises

An instance is only selected if its associations that are joined, but by no left join, lead
somewhere. The response keeps this promise wherever it shows the instance: the association is
a list of at least one item, or an object, or it is null because several instances would have
to be one. This is carried along the path to the instance, from the roots through whatever is
fetched: each object of the response belongs to an instance that was walked.
-/

namespace EntityGraph

/-! ## Instances that a response shows -/

/-- The steps to an instance that a selected field leads to: the key of the field, and an index if
the instance is one of several. -/
def Selection.steps (child : Selection) (index? : Option Nat) : List PathSegment :=
  .key child.key :: (index?.map .index).toList

/-- Where the data of a response has an object that stands for an instance, with the entity of the
instance and the field that selects on it. -/
inductive Request.ShowsInstance (model : Model) (request : Request) (data : Json) :
    List PathSegment → String → Selection → Prop where
  | root {field : Selection} {index : Nat} (requested : field ∈ request.fields)
      (named : field.isTypename = false)
      (shown : (data.at? (field.steps (some index))).any Json.isObject = true) :
      ShowsInstance model request data (field.steps (some index)) field.name field
  | nested {path : List PathSegment} {entity : String} {field child : Selection}
      {info : Attribute} {relationship : Relationship} {index? : Option Nat}
      (above : ShowsInstance model request data path entity field)
      (selected : child ∈ field.selections) (named : child.isTypename = false)
      (known : model.attribute? entity child.name = some info)
      (related : info.type.relationship? entity child.name = some relationship)
      (shown : (data.at? (path ++ child.steps index?)).any Json.isObject = true) :
      ShowsInstance model request data (path ++ child.steps index?) relationship.target child

/-- What is selected on an instance that is shown has distinct keys if the request has. -/
theorem Request.ShowsInstance.distinct {model : Model} {request : Request} {data : Json}
    {path : List PathSegment} {entity : String} {field : Selection}
    (shown : request.ShowsInstance model data path entity field)
    (distinct : request.DistinctKeys) : Selection.AllDistinctKeys field.selections := by
  induction shown with
  | root requested _ _ => exact Selection.AllDistinctKeys.of_mem distinct requested
  | nested _ selected _ _ _ _ inductionHypothesis => exact inductionHypothesis.of_mem selected

namespace Service

variable {service : Service} {vars : Dict Value} {response : Resolved}
  {path : List PathSegment} {entity : String} {field : Selection}

/-- Whether a response has, behind a path, what is selected on an instance that is walked. -/
def Resolves (service : Service) (vars : Dict Value) (response : Resolved)
    (path : List PathSegment) (entity : String) (field : Selection) : Prop :=
  ∃ inst members,
    inst.Walked service.store service.settings.defaultJoinType vars field.selections ∧
      inst.ref.entity = entity ∧
      (service.resolver.resolveMembers vars inst field.selections).outcome = .ok members ∧
      response.Has path (.object members)

/-- If a field was resolved to instances that are walked, its objects are those of instances that
are walked. -/
theorem resolves_of_resolveFetched {fetched : Fetched} {value : Resolved} (index? : Option Nat)
    (each : ∀ inst ∈ fetched.instances,
      inst.Walked service.store service.settings.defaultJoinType vars field.selections ∧
        inst.ref.entity = entity)
    (resolved : (service.resolver.resolveFetched vars fetched field).outcome = .ok value)
    (present : response.Has path value)
    (shown : (response.data.at? (path ++ (index?.map PathSegment.index).toList)).any
      Json.isObject = true) :
    service.Resolves vars response (path ++ (index?.map PathSegment.index).toList) entity
      field := by
  rw [Json.at?_append, present.data, Option.bind_some] at shown
  rw [Resolver.resolveFetched_eq] at resolved
  cases fetched with
  | list instances =>
    rw [Trace.outcome_bind, Trace.outcome_mapM] at resolved
    obtain ⟨items, walked, same⟩ := bind_eq_ok_iff.1 resolved
    cases same
    cases index? with
    | none => cases shown
    | some index =>
      cases found : items[index]? with
      | none =>
        rw [Option.map_some, Option.toList_some, Resolved.at?_data_list, List.getElem?_map, found]
          at shown
        cases shown
      | some members =>
        obtain ⟨inst, inside, resolved⟩ :=
          exists_of_mem_mapM walked (List.mem_of_getElem? found)
        obtain ⟨ofInstance, ofEntity⟩ := each inst inside
        refine ⟨inst, members, ofInstance, ofEntity, resolved, present.trans ?_⟩
        exact Resolved.has_list (by rw [List.getElem?_map, found]; rfl)
  | object inst? =>
    cases inst? with
    | none =>
      cases resolved
      cases index? <;> cases shown
    | some inst =>
      rw [Trace.outcome_bind] at resolved
      obtain ⟨members, walked, same⟩ := bind_eq_ok_iff.1 resolved
      cases same
      cases index? with
      | none =>
        rw [Option.map_none, Option.toList_none, List.append_nil]
        obtain ⟨ofInstance, ofEntity⟩ := each inst (by simp [Fetched.instances])
        exact ⟨inst, members, ofInstance, ofEntity, walked, present⟩
      | some index => cases shown

/-- A root field that is shown has objects of instances that are walked. -/
theorem resolves_of_root (typed : service.store.WellTyped)
    (consistent : service.store.model.Consistent) (named : field.isTypename = false)
    {value : Resolved} (resolved : (service.resolver.resolveRoot vars field).outcome = .ok value)
    (present : response.Has path value) {index : Nat}
    (shown : (response.data.at? (path ++ [.index index])).any Json.isObject = true) :
    service.Resolves vars response (path ++ [.index index]) field.name field := by
  rw [Resolver.resolveRoot, if_neg (by simp [named]), Trace.outcome_bind, outcome_fetchRoot,
    bind_assoc] at resolved
  obtain ⟨instances, found, resolved⟩ := bind_eq_ok_iff.1 resolved
  have each (inst : Instance) (member : inst ∈ (Fetched.list instances).instances) :=
    walked_of_instances found typed consistent (by rintro source ⟨⟩) member
  exact resolves_of_resolveFetched (some index) each resolved present shown

/-- An association of an instance that is walked has what it was resolved to behind its key. -/
theorem Resolves.exists_member (resolves : service.Resolves vars response path entity field)
    (distinct : Selection.AllDistinctKeys field.selections) {child : Selection}
    (selected : child ∈ field.selections) (named : child.isTypename = false) {info : Attribute}
    {relationship : Relationship}
    (known : service.store.model.attribute? entity child.name = some info)
    (related : info.type.relationship? entity child.name = some relationship) :
    ∃ inst result value,
      inst.Walked service.store service.settings.defaultJoinType vars field.selections ∧
      inst.ref.entity = entity ∧
      caught (service.resolver.fetchNested vars Dict.empty inst relationship.target
        child).outcome = .ok result ∧
      service.resolver.resolveResult vars child result = .ok value ∧
      response.Has (path ++ [PathSegment.key child.key]) value := by
  obtain ⟨inst, members, walked, rfl, resolved, present⟩ := resolves
  rw [Resolver.outcome_resolveMembers] at resolved
  obtain ⟨value, resolved, inside⟩ := exists_has_of_mapM resolved distinct.nodup selected
  rw [Resolver.outcome_resolveMember _ _ named known related] at resolved
  obtain ⟨result, fetching, resolved⟩ := bind_eq_ok_iff.1 resolved
  exact ⟨inst, result, value, walked, rfl, fetching, resolved, present.trans inside⟩

/-- An association of an instance that is walked has objects of instances that are walked. -/
theorem Resolves.nested (typed : service.store.WellTyped)
    (consistent : service.store.model.Consistent)
    (resolves : service.Resolves vars response path entity field)
    (distinct : Selection.AllDistinctKeys field.selections) {child : Selection}
    (selected : child ∈ field.selections) (named : child.isTypename = false) {info : Attribute}
    {relationship : Relationship}
    (known : service.store.model.attribute? entity child.name = some info)
    (related : info.type.relationship? entity child.name = some relationship)
    {index? : Option Nat}
    (shown : (response.data.at? (path ++ child.steps index?)).any Json.isObject = true) :
    service.Resolves vars response (path ++ child.steps index?) relationship.target child := by
  have apart : path ++ child.steps index? =
      path ++ [.key child.key] ++ (index?.map .index).toList :=
    List.append_cons _ _ _
  rw [apart] at shown ⊢
  obtain ⟨inst, result, value, walked, rfl, fetching, resolved, present⟩ :=
    resolves.exists_member distinct selected named known related
  cases result with
  | ok fetched =>
    exact resolves_of_resolveFetched index? (fun target inside =>
      walked.walked_of_fetchNested typed consistent selected named known related
        (eq_ok_of_caught fetching) inside) resolved present shown
  | error violation =>
    -- A violated field is null, which has neither items nor members.
    cases resolved
    rw [Json.at?_append, present.data, Option.bind_some] at shown
    cases index? <;> cases shown

/-- Every object of a response stands for an instance that is walked. -/
theorem resolves_of_showsInstance {request : Request}
    (answered : (service.query request).outcome = .ok response)
    (typed : service.store.WellTyped) (consistent : service.store.model.Consistent)
    (distinct : request.DistinctKeys)
    (shown : request.ShowsInstance service.store.model response.data path entity field) :
    ∃ vars, service.Resolves vars response path entity field := by
  rw [query, Resolver.answer, Trace.outcome_bind, Trace.outcome_planned] at answered
  obtain ⟨vars, _, answered⟩ := bind_eq_ok_iff.1 answered
  rw [Trace.outcome_bind, Trace.outcome_mapM] at answered
  obtain ⟨members, each, same⟩ := bind_eq_ok_iff.1 answered
  cases same
  simp only [Trace.outcome_bind, Trace.outcome_pure] at each
  refine ⟨vars, ?_⟩
  -- The induction is over the path: a root field starts a walk, each association goes on with it.
  induction shown with
  | @root field index requested named shown =>
    obtain ⟨value, resolved, present⟩ :=
      exists_has_of_mapM each (Selection.AllDistinctKeys.nodup distinct) requested
    exact resolves_of_root typed consistent named resolved present shown
  | nested above selected named known related shown inductionHypothesis =>
    exact inductionHypothesis.nested typed consistent (above.distinct distinct) selected named known
      related shown

end Service

/-! ## The promise -/

/-- Whether a selected association is joined by an inner or a right join, given the join type of
those that do not ask for one. -/
def Selection.IsRequired (standard : JoinType) (child : Selection) : Prop :=
  ∃ type?, child.joinType? = .ok type? ∧
    (type?.getD standard = .inner ∨ type?.getD standard = .right)

/-- What an association has to be behind a path of a response: a list with an item or more, or an
object. Instead of an object it may be null if an error at just this path tells of several rows. -/
def Resolved.ShowsTarget (response : Resolved) (path : List PathSegment)
    (entity attr : String) : Cardinality → Prop
  | .plural => ∃ item items, response.data.at? path = some (.array (item :: items))
  | .singular => ∃ value, response.data.at? path = some value ∧
      (value.isObject = true ∨ value = .null ∧ ∃ rows, 2 ≤ rows ∧
        ⟨CardinalityViolation.message ⟨entity, attr, rows⟩, path⟩ ∈ response.errors)

/-- What is required is joined by no left join. -/
theorem Selection.IsRequired.not_isLeft {standard : JoinType} {child : Selection}
    (required : child.IsRequired standard) : ¬ child.IsLeft standard := by
  rintro ⟨type?, asked, left⟩
  obtain ⟨again?, askedAgain, either⟩ := required
  cases asked.symm.trans askedAgain
  rw [left] at either
  simp at either

/-- What a field finds is shown. -/
theorem Fetched.Found.showsTarget {service : Service} {vars : Dict Value} {response : Resolved}
    {path : List PathSegment} {source : EntityRef} {child : Selection}
    {cardinality : Cardinality} {result : Except CardinalityViolation Fetched} {value : Resolved}
    (found : Fetched.Found source child.name cardinality result)
    (resolved : service.resolver.resolveResult vars child result = .ok value)
    (present : response.Has path value) :
    response.ShowsTarget path source.entity child.name cardinality := by
  cases found with
  | @list inst rest =>
    rw [Resolver.resolveResult, Resolver.resolveFetched_eq, Trace.outcome_bind,
      Trace.outcome_mapM] at resolved
    obtain ⟨items, each, same⟩ := bind_eq_ok_iff.1 resolved
    cases same
    cases items with
    | nil =>
      rw [mapM_eq_ok_iff] at each
      cases each
    | cons item items => exact ⟨_, _, present.data⟩
  | @object inst =>
    rw [Resolver.resolveResult, Resolver.resolveFetched_eq, Trace.outcome_bind] at resolved
    obtain ⟨members, _, same⟩ := bind_eq_ok_iff.1 resolved
    cases same
    exact ⟨_, present.data, .inl rfl⟩
  | @several rows several =>
    cases resolved
    refine ⟨_, present.data, .inr ⟨rfl, rows, several, ?_⟩⟩
    have reported := present.errors _ List.mem_cons_self
    rwa [List.append_nil] at reported

/-- An association of an instance that is walked has a target if it is joined by an inner or a
right join. -/
theorem Service.Resolves.showsTarget {service : Service} {vars : Dict Value}
    {response : Resolved} {path : List PathSegment} {entity : String} {field child : Selection}
    {relationship : Relationship}
    (resolves : service.Resolves vars response path entity field)
    (obtained : Store.Obtained service.store.model service.store)
    (consistent : service.store.model.Consistent)
    (distinct : Selection.AllDistinctKeys field.selections) (selected : child ∈ field.selections)
    (joined : service.store.model.joined? entity child = some relationship)
    (required : child.IsRequired service.settings.defaultJoinType) :
    response.ShowsTarget (path ++ [PathSegment.key child.key]) entity child.name
      relationship.cardinality := by
  obtain ⟨named, ⟨info, known, related⟩, _⟩ := Model.joined?_eq_some_iff.1 joined
  obtain ⟨inst, result, value, walked, rfl, fetching, resolved, present⟩ :=
    resolves.exists_member distinct selected named known related
  have found := walked.found_of_fetchNested obtained consistent selected joined
    required.not_isLeft fetching
  exact found.showsTarget resolved present

/-- Wherever a response shows an instance, an association that is selected on it and joined by an
inner or a right join has a target, or several where there is room for one. -/
theorem required_association_shows_target {model : Model} {store : Store}
    {settings : FetchSettings} {request : Request} {response : Resolved}
    {path : List PathSegment} {entity : String} {field child : Selection}
    {relationship : Relationship} (consistent : model.Consistent)
    (obtained : Store.Obtained model store) (distinct : request.DistinctKeys)
    (answered : (Service.query ⟨settings, store⟩ request).outcome = .ok response)
    (shown : request.ShowsInstance model response.data path entity field)
    (selected : child ∈ field.selections)
    (joined : model.joined? entity child = some relationship)
    (required : child.IsRequired settings.defaultJoinType) :
    response.ShowsTarget (path ++ [PathSegment.key child.key]) entity child.name
      relationship.cardinality := by
  obtain rfl := obtained.model_eq
  obtain ⟨vars, resolves⟩ :=
    Service.resolves_of_showsInstance answered obtained.wellTyped consistent distinct shown
  exact resolves.showsTarget obtained consistent (shown.distinct distinct) selected joined required

/-- The author of a book, by an inner join. -/
def writerField : Selection :=
  ⟨"author", none, [⟨"joinType", .enum "INNER"⟩], [⟨"id", none, [], []⟩]⟩

/-- The books of an author with their authors. -/
def writtenField : Selection :=
  ⟨"books", some "written", [], [⟨"title", none, [], []⟩, writerField]⟩

/-- Authors with their books and the authors of those. -/
def writersField : Selection :=
  ⟨"Author", none, [], [writtenField]⟩

/-- What is answered about the authors of the library. -/
def writersResponse : Resolved :=
  (Service.query ⟨⟨true, .left⟩, Store.library⟩
    ⟨[writersField], Dict.empty⟩).outcome.toOption.getD (.leaf .null)

/-- Each book that is shown below an author shows its author again. -/
theorem written_book_shows_its_writer :
    Request.DistinctKeys ⟨[writersField], Dict.empty⟩ ∧
      (Service.query ⟨⟨true, .left⟩, Store.library⟩ ⟨[writersField], Dict.empty⟩).outcome =
        .ok writersResponse ∧
      Request.ShowsInstance Model.library ⟨[writersField], Dict.empty⟩ writersResponse.data
        [.key "Author", .index 0, .key "written", .index 1] "Book" writtenField ∧
      writerField ∈ writtenField.selections ∧
      Model.library.joined? "Book" writerField =
        some ⟨"Book", "author", "Author", .singular, .owning⟩ ∧
      writerField.IsRequired .left ∧
      writersResponse.ShowsTarget
        [.key "Author", .index 0, .key "written", .index 1, .key "author"] "Book" "author"
        .singular := by
  have answered : (Service.query ⟨⟨true, .left⟩, Store.library⟩
      ⟨[writersField], Dict.empty⟩).outcome = .ok writersResponse :=
    eq_ok_of_isOk (by decide +kernel)
  have distinct : Request.DistinctKeys ⟨[writersField], Dict.empty⟩ := by
    decide +kernel
  have author : Request.ShowsInstance Model.library ⟨[writersField], Dict.empty⟩
      writersResponse.data [.key "Author", .index 0] "Author" writersField :=
    @Request.ShowsInstance.root _ _ _ writersField 0 List.mem_cons_self (by decide +kernel)
      (by decide +kernel)
  have known : Model.library.attribute? "Author" writtenField.name =
      some ⟨.association "Book" .oneToMany (some "author"), none⟩ := by
    decide +kernel
  have book : Request.ShowsInstance Model.library ⟨[writersField], Dict.empty⟩
      writersResponse.data [.key "Author", .index 0, .key "written", .index 1] "Book"
      writtenField :=
    @Request.ShowsInstance.nested _ _ _ _ _ _ _ _ _ (some 1) author List.mem_cons_self
      (by decide +kernel) known rfl (by decide +kernel)
  have selected : writerField ∈ writtenField.selections :=
    List.mem_cons_of_mem _ List.mem_cons_self
  have joined : Model.library.joined? "Book" writerField =
      some ⟨"Book", "author", "Author", .singular, .owning⟩ := by
    rfl
  have required : writerField.IsRequired .left := ⟨some .inner, rfl, .inl rfl⟩
  exact ⟨distinct, answered, book, selected, joined, required,
    required_association_shows_target consistent_library obtained_library distinct answered book
      selected joined required⟩

end EntityGraph
