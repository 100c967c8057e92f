import EntityGraph.Proofs.Request.Keys
import EntityGraph.Proofs.Resolution.Outcomes
import EntityGraph.Proofs.Resolution.Positions
import EntityGraph.Proofs.Store.Mirror

/-!
# Errors point at the nulls they explain

A field that violates its cardinality is shown as null, and an error tells the way to it. The
error is recorded where the violation happens, long before the null has its place in the response:
every object and every list further out puts one more step in front of both. So an error always
leads to its null, provided that no member of an object hides another one, and no two errors lead
to the same place.

Nothing is assumed of the transport, which may answer a plan in any way. A violation of cardinality
never ends a request, whatever its keys are.
-/

namespace EntityGraph

/-! ## Explained parts -/

/-- Whether the errors of a part lead to different places of it, where it is null. -/
structure Resolved.Explained (part : Resolved) : Prop where
  distinct : (part.errors.map FieldError.path).Nodup
  null : ∀ error ∈ part.errors, part.data.at? error.path = some .null

namespace Resolved

/-- A value without errors is explained. -/
theorem explained_leaf (data : Json) : (leaf data).Explained where
  distinct := .nil
  null _ member := by cases member

/-- A violation is explained by its only error, which is at the null itself. -/
theorem explained_violated (violation : CardinalityViolation) : (violated violation).Explained where
  distinct := List.nodup_singleton _
  null error member := by
    cases List.mem_singleton.1 member
    rfl

/-- A whole is explained if it consists of explained parts behind different steps. -/
theorem Explained.of_parts {whole : Resolved} (parts : List (PathSegment × Resolved))
    (distinct : (parts.map Prod.fst).Nodup)
    (placed : ∀ entry ∈ parts, whole.data.at? [entry.1] = some entry.2.data)
    (collected : whole.errors =
      parts.flatMap fun entry => entry.2.errors.map (FieldError.under entry.1))
    (each : ∀ entry ∈ parts, entry.2.Explained) : whole.Explained where
  distinct := by
    have pathsOf (entry : PathSegment × Resolved) :
        (entry.2.errors.map (FieldError.under entry.1)).map FieldError.path =
          (entry.2.errors.map FieldError.path).map (entry.1 :: ·) := by
      rw [List.map_map, List.map_map]
      rfl
    rw [collected, List.map_flatMap, List.nodup_flatMap]
    constructor
    · intro entry member
      rw [pathsOf]
      exact (each entry member).distinct.map fun _ _ same => (List.cons.inj same).2
    · refine (List.pairwise_map.1 distinct).imp fun {first second} different => ?_
      intro path inFirst inSecond
      dsimp only at inFirst inSecond
      rw [pathsOf] at inFirst inSecond
      obtain ⟨_, _, rfl⟩ := List.mem_map.1 inFirst
      obtain ⟨_, _, same⟩ := List.mem_map.1 inSecond
      exact different (List.cons.inj same).1.symm
  null error member := by
    rw [collected] at member
    obtain ⟨entry, present, member⟩ := List.mem_flatMap.1 member
    obtain ⟨inner, inside, rfl⟩ := List.mem_map.1 member
    have reached := placed entry present
    show whole.data.at? ([entry.1] ++ inner.path) = some .null
    rw [Json.at?_append, reached, Option.bind_some]
    exact (each entry present).null inner inside

/-- The errors of the items of a list are those behind the indices of the items. -/
theorem itemErrors_eq (items : List Resolved) (index : Nat) :
    itemErrors index items =
      (items.zipIdx index).flatMap fun entry =>
        entry.1.errors.map (FieldError.under (.index entry.2)) := by
  induction items generalizing index with
  | nil => rfl
  | cons item rest inductionHypothesis =>
    rw [itemErrors, List.zipIdx_cons, List.flatMap_cons, inductionHypothesis]

/-- A list of explained items is explained. -/
theorem explained_list {items : List Resolved} (each : ∀ item ∈ items, item.Explained) :
    (list items).Explained := by
  let parts := items.zipIdx.map fun entry => (PathSegment.index entry.2, entry.1)
  have present {entry : PathSegment × Resolved} (member : entry ∈ parts) :
      ∃ index, entry.1 = .index index ∧ items[index]? = some entry.2 := by
    obtain ⟨⟨item, index⟩, inside, rfl⟩ := List.mem_map.1 member
    exact ⟨index, rfl, List.mem_zipIdx_iff_getElem?.1 inside⟩
  refine Explained.of_parts parts ?_ ?_ ?_ ?_
  · have steps : parts.map Prod.fst = (List.range items.length).map PathSegment.index := by
      rw [List.range_eq_range', ← List.zipIdx_map_snd 0 items, List.map_map, List.map_map]
      rfl
    rw [steps]
    exact List.nodup_range.map fun _ _ same => PathSegment.index.inj same
  · intro entry member
    obtain ⟨index, step, found⟩ := present member
    rw [step, at?_data_list, found, Option.map_some]
  · rw [list, itemErrors_eq, List.flatMap_map]
  · intro entry member
    obtain ⟨_, _, found⟩ := present member
    exact each _ (List.mem_of_getElem? found)

/-- An object of explained members is explained if their keys differ. -/
theorem explained_object {members : List (String × Resolved)}
    (distinct : (members.map Prod.fst).Nodup) (each : ∀ member ∈ members, member.2.Explained) :
    (object members).Explained := by
  let parts := members.map fun member => (PathSegment.key member.1, member.2)
  refine Explained.of_parts parts ?_ ?_ ?_ ?_
  · have steps : parts.map Prod.fst = (members.map Prod.fst).map PathSegment.key := by
      rw [List.map_map, List.map_map]
      rfl
    rw [steps]
    exact distinct.map fun _ _ same => PathSegment.key.inj same
  · intro entry inside
    obtain ⟨member, present, rfl⟩ := List.mem_map.1 inside
    exact (has_object distinct present).data
  · rw [object, List.flatMap_map]
  · intro entry inside
    obtain ⟨member, present, rfl⟩ := List.mem_map.1 inside
    exact each member present

end Resolved

/-! ## What is resolved is explained -/

/-- Whether a failure ends a request: any but one of a field alone. -/
def RequestError.EndsRequest (error : RequestError) : Prop :=
  ∀ violation, error ≠ .cardinality violation

/-- A refusal ends the request. -/
theorem ends_planned {α : Type} (outcome : Except PlanningError α) :
    Ends RequestError.EndsRequest (fun _ => True) (outcome.mapError .planning) := by
  cases outcome with
  | ok value => trivial
  | error refusal =>
    intro violation impossible
    cases impossible

/-- What is left of a failure after violations are caught ends the request. -/
theorem ends_caught {α : Type} (outcome : Except RequestError α) :
    Ends RequestError.EndsRequest (fun _ => True) (caught outcome) := by
  cases outcome with
  | ok value => trivial
  | error error =>
    cases error with
    | cardinality violation => trivial
    | planning refusal =>
      intro violation impossible
      cases impossible
    | execution failure =>
      intro violation impossible
      cases impossible

namespace Resolver

variable (resolver : Resolver) (vars : Dict Value)

/-- Members of an object that are resolved from fields of different keys make an explained object if
each of them is explained. -/
theorem ends_members {fields : List Selection} {step : Selection → Except RequestError Resolved}
    (each : ∀ field ∈ fields, Ends RequestError.EndsRequest
      (fun value => Selection.AllDistinctKeys field.selections → value.Explained) (step field)) :
    Ends RequestError.EndsRequest
      (fun members => Selection.AllDistinctKeys fields → (Resolved.object members).Explained)
      (fields.mapM fun field => do return (field.key, ← step field)) := by
  have explained : Ends RequestError.EndsRequest
      (fun members : List (String × Resolved) => ∀ member ∈ members,
        Selection.AllDistinctKeys fields → member.2.Explained)
      (fields.mapM fun field => do return (field.key, ← step field)) :=
    Ends.mapM fun field member => (each field member).bind fun value explained distinct =>
      explained (distinct.of_mem member)
  refine explained.remember.mono fun members ⟨explained, resolved⟩ distinct => ?_
  refine Resolved.explained_object ?_ fun member inside => explained member inside distinct
  rw [keys_of_mapM resolved]
  exact distinct.nodup

/-- What a field was resolved to is explained if what is selected on its instances is. -/
theorem ends_resolveFetched (fetched : Fetched) {selection : Selection}
    (below : ∀ inst, Ends RequestError.EndsRequest
      (fun members => Selection.AllDistinctKeys selection.selections →
        (Resolved.object members).Explained)
      (resolver.resolveMembers vars inst selection.selections).outcome) :
    Ends RequestError.EndsRequest
      (fun value => Selection.AllDistinctKeys selection.selections → value.Explained)
      (resolver.resolveFetched vars fetched selection).outcome := by
  rw [resolveFetched_eq]
  match fetched with
  | .list instances =>
    rw [Trace.outcome_bind, Trace.outcome_mapM]
    refine (Ends.mapM fun inst _ => below inst).bind fun items explained distinct => ?_
    apply Resolved.explained_list
    intro item member
    obtain ⟨members, inside, rfl⟩ := List.mem_map.1 member
    exact explained members inside distinct
  | .object (some inst) =>
    rw [Trace.outcome_bind]
    exact (below inst).bind fun _ explained => explained
  | .object none => exact fun _ => Resolved.explained_leaf _

/-- A selection on an instance is resolved to something explained if what is selected below it
is. -/
theorem ends_resolveMember (inst : Instance) {child : Selection}
    (below : ∀ inst, Ends RequestError.EndsRequest
      (fun members => Selection.AllDistinctKeys child.selections →
        (Resolved.object members).Explained)
      (resolver.resolveMembers vars inst child.selections).outcome) :
    Ends RequestError.EndsRequest
      (fun value => Selection.AllDistinctKeys child.selections → value.Explained)
      (resolver.resolveMember vars inst child).outcome := by
  rw [resolveMember]
  split
  · exact fun _ => Resolved.explained_leaf _
  · rw [Trace.outcome_bind, Trace.outcome_planned]
    refine (ends_planned _).bind fun info _ => ?_
    split
    · exact fun _ => Resolved.explained_leaf _
    · rw [Trace.outcome_bind, Trace.outcome_orViolation]
      refine (ends_caught _).bind fun result _ => ?_
      cases result with
      | ok fetched => exact resolver.ends_resolveFetched vars fetched below
      | error violation => exact fun _ => Resolved.explained_violated violation

/-- What is selected on an instance is resolved to an explained object if its keys differ on every
level. -/
theorem ends_resolveMembers (selections : List Selection) : ∀ inst : Instance,
    Ends RequestError.EndsRequest
      (fun members => Selection.AllDistinctKeys selections → (Resolved.object members).Explained)
      (resolver.resolveMembers vars inst selections).outcome := by
  -- the induction gives what is selected below each selection, from which each level is rebuilt
  have below : ∀ child ∈ selections, ∀ inst : Instance, Ends RequestError.EndsRequest
      (fun members => Selection.AllDistinctKeys child.selections →
        (Resolved.object members).Explained)
      (resolver.resolveMembers vars inst child.selections).outcome := by
    induction selections using Selection.listInduction with
    | nil => simp
    | cons name key? arguments selections rest beneath beside =>
      refine List.forall_mem_cons.2 ⟨fun inst => ?_, beside⟩
      rw [outcome_resolveMembers]
      exact ends_members fun child member =>
        resolver.ends_resolveMember vars inst (beneath child member)
  intro inst
  rw [outcome_resolveMembers]
  exact ends_members fun child member => resolver.ends_resolveMember vars inst (below child member)

/-- Fetching a root field violates no cardinality. -/
theorem ends_fetchRoot (arguments : Dict Value) (entity : String) (selection : Selection) :
    Ends RequestError.EndsRequest (fun _ => True)
      (resolver.fetchRoot vars arguments entity selection).outcome := by
  rw [fetchRoot, Trace.outcome_bind, Trace.outcome_planned]
  refine (ends_planned _).bind fun plan _ => ?_
  rw [Trace.outcome_bind, Trace.outcome_ask]
  cases resolver.transport plan with
  | ok instances => trivial
  | error failure =>
    intro violation impossible
    cases impossible

/-- A root field is resolved to something explained. -/
theorem ends_resolveRoot (field : Selection) :
    Ends RequestError.EndsRequest
      (fun value => Selection.AllDistinctKeys field.selections → value.Explained)
      (resolver.resolveRoot vars field).outcome := by
  rw [resolveRoot]
  split
  · exact fun _ => Resolved.explained_leaf _
  · rw [Trace.outcome_bind]
    refine (resolver.ends_fetchRoot vars _ _ _).bind fun fetched _ => ?_
    exact resolver.ends_resolveFetched vars fetched fun inst =>
      resolver.ends_resolveMembers vars field.selections inst

/-- A request is answered by something explained, or a failure ends it. -/
theorem ends_answer (request : Request) :
    Ends RequestError.EndsRequest (fun response => request.DistinctKeys → response.Explained)
      (resolver.answer request).outcome := by
  rw [answer, Trace.outcome_bind, Trace.outcome_planned]
  refine (ends_planned _).bind fun vars _ => ?_
  rw [Trace.outcome_bind, Trace.outcome_mapM]
  simp only [Trace.outcome_bind, Trace.outcome_pure]
  exact (ends_members fun field _ => resolver.ends_resolveRoot vars field).bind
    fun members explained => explained

end Resolver

/-- If no two fields beside each other in a request have one key, then the errors of its response
have different paths and each path leads to a null. A request never fails for a violation of
cardinality. -/
theorem errors_lead_to_different_nulls (resolver : Resolver) (request : Request) :
    (∀ response, request.DistinctKeys → (resolver.answer request).outcome = .ok response →
      (response.errors.map FieldError.path).Nodup ∧
        ∀ error ∈ response.errors, response.data.at? error.path = some .null) ∧
    ∀ violation, (resolver.answer request).outcome ≠ .error (.cardinality violation) := by
  have ends := resolver.ends_answer request
  constructor
  · intro response distinct answered
    rw [answered] at ends
    have explained : response.Explained := ends distinct
    exact ⟨explained.distinct, explained.null⟩
  · intro violation failed
    rw [failed] at ends
    exact ends violation rfl

/-- Authors and their books, with the author of each book provided that it is `b`. -/
def strangersRequest : Request :=
  ⟨[⟨"Author", none, [], [⟨"id", none, [], []⟩, ⟨"books", some "written", [],
    [⟨"author", none, [⟨"id", .string "b"⟩], [⟨"id", none, [], []⟩]⟩]⟩]⟩], Dict.empty⟩

/-- Both books of the library are by `a`, so each has a null for its author and an error that leads
there. -/
theorem errors_of_strangers_lead_to_nulls :
    ∃ response, strangersRequest.DistinctKeys ∧
      ((Service.resolver ⟨.standard, Store.library⟩).answer strangersRequest).outcome =
        .ok response ∧
      response.errors.map FieldError.path =
        [[.key "Author", .index 0, .key "written", .index 0, .key "author"],
          [.key "Author", .index 0, .key "written", .index 1, .key "author"]] ∧
      (response.errors.map FieldError.path).Nodup ∧
      ∀ error ∈ response.errors, response.data.at? error.path = some .null := by
  let outcome := ((Service.resolver ⟨.standard, Store.library⟩).answer strangersRequest).outcome
  have answered : outcome = .ok (outcome.toOption.getD (.leaf .null)) :=
    eq_ok_of_isOk (by decide +kernel)
  have distinct : strangersRequest.DistinctKeys := by
    decide +kernel
  exact ⟨_, distinct, answered, by decide +kernel,
    (errors_lead_to_different_nulls _ strangersRequest).1 _ distinct answered⟩

end EntityGraph
