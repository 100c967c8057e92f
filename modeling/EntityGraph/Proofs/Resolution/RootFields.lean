import EntityGraph.Proofs.Dict.Equality
import EntityGraph.Proofs.Resolution.Visits
import EntityGraph.Proofs.Store.Mirror

/-!
# Root fields are independent

The fields at the top of a request have nothing in common but the variables. Each is resolved as if
it were the only one, so the response is put together from the responses to requests for single
fields: the members of their objects, their errors in the order of the fields, and the sum of what
they count. A field that fails ends the whole request, and it fails alone as well.
-/

namespace EntityGraph

/-- The request for one of the fields of a request. -/
def Request.only (request : Request) (field : Selection) : Request :=
  ⟨[field], request.vars⟩

namespace Json

/-- The object that has the members of several objects. -/
def union (objects : List Json) : Json :=
  ofDict (Dict.ofList (objects.flatMap members))

end Json

namespace Resolver

variable {resolver : Resolver} {request : Request} {vars : Dict Value}

/-- A request is answered by the values of its fields under their keys. -/
theorem outcome_answer (valued : variableValues request.vars = .ok vars) :
    (resolver.answer request).outcome =
      (request.fields.mapM fun field => do
        return (field.key, ← (resolver.resolveRoot vars field).outcome)) >>= fun members =>
          .ok (.object members) := by
  rw [answer, Trace.outcome_bind, Trace.outcome_planned, valued]
  show (request.fields.mapM (fun field => do
    return (field.key, ← resolver.resolveRoot vars field)) >>= fun members =>
      pure (Resolved.object members) : Trace Resolved).outcome = _
  simp only [Trace.outcome_bind, Trace.outcome_mapM, Trace.outcome_pure]
  rfl

/-- A request whose variables cannot be read is refused for them. -/
theorem outcome_answer_of_refused {refusal : PlanningError}
    (refused : variableValues request.vars = .error refusal) :
    (resolver.answer request).outcome = .error (.planning refusal) := by
  rw [answer, Trace.outcome_bind, Trace.outcome_planned, refused]
  rfl

/-- The variables of a request that is answered can be read. -/
theorem exists_vars_of_answer {response : Resolved}
    (answered : (resolver.answer request).outcome = .ok response) :
    ∃ vars, variableValues request.vars = .ok vars := by
  cases valued : variableValues request.vars with
  | ok vars => exact ⟨vars, rfl⟩
  | error refusal =>
    rw [outcome_answer_of_refused valued] at answered
    cases answered

/-- A request is answered exactly if each of its fields is resolved. -/
theorem exists_answer_iff (valued : variableValues request.vars = .ok vars) :
    (∃ response, (resolver.answer request).outcome = .ok response) ↔
      ∀ field ∈ request.fields, ∃ value, (resolver.resolveRoot vars field).outcome = .ok value := by
  rw [outcome_answer valued]
  constructor
  · rintro ⟨response, answered⟩ field member
    obtain ⟨members, resolved, _⟩ := bind_eq_ok_iff.1 answered
    obtain ⟨entry, keyed⟩ := exists_mapM_eq_ok_iff.1 ⟨members, resolved⟩ field member
    obtain ⟨value, found, _⟩ := bind_eq_ok_iff.1 keyed
    exact ⟨value, found⟩
  · intro each
    obtain ⟨members, resolved⟩ := exists_mapM_eq_ok fun field member => by
      obtain ⟨value, found⟩ := each field member
      exact ⟨(field.key, value), bind_eq_ok_iff.2 ⟨value, found, rfl⟩⟩
    exact ⟨_, bind_eq_ok_iff.2 ⟨members, resolved, rfl⟩⟩

/-- A request with fields is answered exactly if the request for each of them alone is. -/
theorem exists_answer_iff_only (asked : request.fields ≠ []) :
    (∃ response, (resolver.answer request).outcome = .ok response) ↔
      ∀ field ∈ request.fields,
        ∃ response, (resolver.answer (request.only field)).outcome = .ok response := by
  constructor
  · rintro ⟨response, answered⟩ field member
    obtain ⟨vars, valued⟩ := exists_vars_of_answer answered
    have each := (exists_answer_iff valued).1 ⟨response, answered⟩
    have alone : variableValues (request.only field).vars = .ok vars := valued
    exact (exists_answer_iff alone).2 (List.forall_mem_singleton.2 (each field member))
  · intro each
    -- without a field the variables might be unreadable and nothing would show it
    obtain ⟨first, member⟩ := List.exists_mem_of_ne_nil _ asked
    obtain ⟨response, answered⟩ := each first member
    obtain ⟨vars, valued⟩ := exists_vars_of_answer answered
    have valuedHere : variableValues request.vars = .ok vars := valued
    refine (exists_answer_iff valuedHere).2 fun field member => ?_
    have alone : variableValues (request.only field).vars = .ok vars := valued
    exact (exists_answer_iff alone).1 (each field member) field List.mem_cons_self

/-- If the values of all fields are known, then so is the response. -/
theorem answer_eq_ok (valued : variableValues request.vars = .ok vars)
    {value : Selection → Resolved}
    (each : ∀ field ∈ request.fields,
      (resolver.resolveRoot vars field).outcome = .ok (value field)) :
    (resolver.answer request).outcome =
      .ok (.object (request.fields.map fun field => (field.key, value field))) := by
  have resolved : (request.fields.mapM fun field => do
      return (field.key, ← (resolver.resolveRoot vars field).outcome)) =
        .ok (request.fields.map fun field => (field.key, value field)) :=
    mapM_eq_ok_map fun field member => bind_eq_ok_iff.2 ⟨value field, each field member, rfl⟩
  rw [outcome_answer valued]
  exact bind_eq_ok_iff.2 ⟨_, resolved, rfl⟩

/-- The response to the request for a single field is an object with its value. -/
theorem answer_only_eq_ok (valued : variableValues request.vars = .ok vars) {field : Selection}
    {value : Resolved} (resolved : (resolver.resolveRoot vars field).outcome = .ok value) :
    (resolver.answer (request.only field)).outcome = .ok (.object [(field.key, value)]) := by
  have valuedAlone : variableValues (request.only field).vars = .ok vars := valued
  have each : ∀ other ∈ (request.only field).fields,
      (resolver.resolveRoot vars other).outcome = .ok value :=
    List.forall_mem_singleton.2 resolved
  exact answer_eq_ok valuedAlone each

/-- A request that is answered leaves the events of its fields. -/
theorem events_answer (valued : variableValues request.vars = .ok vars)
    (each : ∀ field ∈ request.fields,
      ∃ value, (resolver.resolveRoot vars field).outcome = .ok value) :
    (resolver.answer request).events =
      request.fields.flatMap fun field => (resolver.resolveRoot vars field).events := by
  rw [events_answer_of_reached valued, reachedFields_eq_self each]

/-- The events of a request that is answered are those of the requests for its fields. -/
theorem events_answer_eq_flatMap (valued : variableValues request.vars = .ok vars)
    (each : ∀ field ∈ request.fields,
      ∃ value, (resolver.resolveRoot vars field).outcome = .ok value) :
    (resolver.answer request).events =
      request.fields.flatMap fun field => (resolver.answer (request.only field)).events := by
  rw [events_answer valued each]
  refine List.flatMap_congr fun field member => ?_
  have valuedAlone : variableValues (request.only field).vars = .ok vars := valued
  have alone : ∀ other ∈ (request.only field).fields,
      ∃ value, (resolver.resolveRoot vars other).outcome = .ok value :=
    List.forall_mem_singleton.2 (each field member)
  rw [events_answer valuedAlone alone]
  exact (List.flatMap_singleton _ _).symm

end Resolver

namespace Resolved

/-- An object has the union of the data of objects with one of its members each. -/
theorem data_object_eq_union (members : List (String × Resolved)) :
    (object members).data = Json.union (members.map fun member => (object [member]).data) := by
  have single (member : String × Resolved) :
      ((object [member]).data).members = [(member.1, member.2.data)] := rfl
  rw [Json.union, List.flatMap_map]
  simp only [single, ← List.map_eq_flatMap]
  rfl

/-- An object has the errors of objects with one of its members each. -/
theorem errors_object_eq_flatMap (members : List (String × Resolved)) :
    (object members).errors = members.flatMap fun member => (object [member]).errors := by
  simp only [object, List.flatMap_singleton]

/-- The data of an object with different keys does not depend on the order of its members. -/
theorem data_object_eq_of_perm {members others : List (String × Resolved)}
    (distinct : (members.map Prod.fst).Nodup) (same : others.Perm members) :
    (object others).data = (object members).data := by
  have distinctData :
      ((members.map fun member => (member.1, member.2.data)).map Prod.fst).Nodup := by
    rw [List.map_map]
    exact distinct
  exact congrArg Json.ofDict (Dict.ofList_eq_of_perm distinctData (same.map _))

end Resolved

/-- A request for several fields of different keys is answered exactly if the requests for each of
them alone are. Its response has the union of their data and their errors in the order of the
fields, and the counters grow by the sum of what they grow by for the single fields. In another
order of the fields the data stays and the errors come in that order. -/
theorem answer_is_union_of_single_answers (resolver : Resolver) {request : Request}
    (asked : request.fields ≠ []) (distinct : (request.fields.map Selection.key).Nodup) :
    ((∃ response, (resolver.answer request).outcome = .ok response) ↔
      ∀ field ∈ request.fields,
        ∃ response, (resolver.answer (request.only field)).outcome = .ok response) ∧
    ∀ response, (resolver.answer request).outcome = .ok response →
      ∃ single : Selection → Resolved,
        (∀ field ∈ request.fields,
          (resolver.answer (request.only field)).outcome = .ok (single field)) ∧
        response.data = Json.union (request.fields.map fun field => (single field).data) ∧
        response.errors = request.fields.flatMap (fun field => (single field).errors) ∧
        (∀ counters : Counters, counters.after (resolver.answer request).events =
          counters + (request.fields.map fun field =>
            Counters.growth (resolver.answer (request.only field)).events).sum) ∧
        ∀ fields : List Selection, fields.Perm request.fields →
          (resolver.answer ⟨fields, request.vars⟩).outcome =
            .ok ⟨response.data, fields.flatMap fun field => (single field).errors⟩ := by
  refine ⟨Resolver.exists_answer_iff_only asked, fun response answered => ?_⟩
  obtain ⟨vars, valued⟩ := Resolver.exists_vars_of_answer answered
  have each := (Resolver.exists_answer_iff valued).1 ⟨response, answered⟩
  have : Inhabited Resolved := ⟨.leaf .null⟩
  choose! value resolved using each
  have same := (Resolver.answer_eq_ok valued resolved).symm.trans answered
  cases same
  let single (field : Selection) : Resolved := .object [(field.key, value field)]
  have errorsOf (fields : List Selection) :
      (Resolved.object (fields.map fun field => (field.key, value field))).errors =
        fields.flatMap fun field => (single field).errors := by
    rw [Resolved.errors_object_eq_flatMap, List.flatMap_map]
  refine ⟨single, ?_, ?_, errorsOf request.fields, ?_, ?_⟩
  · intro field member
    exact Resolver.answer_only_eq_ok valued (resolved field member)
  · rw [Resolved.data_object_eq_union, List.map_map]
    rfl
  · intro counters
    rw [Counters.after_eq_add,
      Resolver.events_answer_eq_flatMap valued fun field member => ⟨_, resolved field member⟩,
      Counters.growth_flatMap]
  · intro fields reordered
    have resolvedToo : ∀ field ∈ fields,
        (resolver.resolveRoot vars field).outcome = .ok (value field) :=
      fun field member => resolved field (reordered.mem_iff.1 member)
    have keys :
        ((request.fields.map fun field => (field.key, value field)).map Prod.fst).Nodup := by
      rw [List.map_map]
      exact distinct
    let other : Request := ⟨fields, request.vars⟩
    have valuedToo : variableValues other.vars = .ok vars := valued
    rw [Resolver.answer_eq_ok valuedToo resolvedToo, ← errorsOf,
      ← Resolved.data_object_eq_of_perm keys (reordered.map _)]

/-- Books with the author `b` of each, and authors with the authors of their books. -/
def shelvesRequest : Request :=
  ⟨[⟨"Book", none, [], [⟨"author", none, [⟨"id", .string "b"⟩], [⟨"id", none, [], []⟩]⟩]⟩,
    ⟨"Author", none, [], [⟨"books", none, [], [⟨"author", none, [], [⟨"id", none, [], []⟩]⟩]⟩]⟩],
    Dict.empty⟩

/-- The books and the authors of the library are answered as they are by themselves. -/
theorem shelves_are_union_of_single_shelves :
    shelvesRequest.fields ≠ [] ∧ (shelvesRequest.fields.map Selection.key).Nodup ∧
    ∃ response : Resolved,
      ((Service.resolver ⟨.standard, Store.library⟩).answer shelvesRequest).outcome =
        .ok response ∧ response.errors.length = 2 ∧
      ∃ single : Selection → Resolved,
        response.data = Json.union (shelvesRequest.fields.map fun field => (single field).data) ∧
        response.errors = shelvesRequest.fields.flatMap fun field => (single field).errors := by
  let outcome := ((Service.resolver ⟨.standard, Store.library⟩).answer shelvesRequest).outcome
  have answered : outcome = .ok (outcome.toOption.getD (.leaf .null)) :=
    eq_ok_of_isOk (by decide +kernel)
  have asked : shelvesRequest.fields ≠ [] := List.cons_ne_nil _ _
  have distinct : (shelvesRequest.fields.map Selection.key).Nodup := by
    decide +kernel
  obtain ⟨single, _, data, errors, _⟩ :=
    (answer_is_union_of_single_answers (Service.resolver ⟨.standard, Store.library⟩) asked
      distinct).2 _ answered
  exact ⟨asked, distinct, _, answered, by decide +kernel, single, data, errors⟩

end EntityGraph
