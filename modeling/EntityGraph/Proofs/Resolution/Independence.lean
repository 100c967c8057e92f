import EntityGraph.Proofs.Resolution.FieldAnswers
import EntityGraph.Proofs.Resolution.Removal

/-!
# Sub-selections are independent

Selections beside each other share the plan of their parent: each adds joins, fetches and rows to
it. Yet none of them shows in what the others are resolved to. If a request without directives is
answered, it is answered after any sub-selections were removed from it, with the same response but
for what was removed.
-/

namespace EntityGraph

/-- The value of an attribute stays as it is in a removal. -/
theorem Resolver.without_attributeData (removal : Removal) (inst : Instance) (attr : String) :
    (Resolved.leaf (Resolver.attributeData inst attr)).without removal =
      .leaf (Resolver.attributeData inst attr) := by
  have unchanged : (Resolver.attributeData inst attr).without removal =
      Resolver.attributeData inst attr := by
    rw [Resolver.attributeData]
    cases inst.value? attr with
    | none => rfl
    | some value => exact value.without_toJson removal
  rw [Resolved.without, Resolved.leaf, unchanged]
  rfl

/-- Steps for the selections that a removal keeps give what the removal keeps of the values of
steps for all selections, if each step does. -/
theorem follows_mapM_without {ε : Type} {step other : Selection → Except ε Resolved}
    {removal : Removal} {selections : List Selection}
    (each : ∀ child ∈ selections, removal.removes child.key = false →
      Follows (fun value reduced => reduced = value.without (removal.below child.key))
        (step child) (other (child.without (removal.below child.key)))) :
    Follows (fun members reduced => reduced = Resolved.membersWithout removal members)
      (selections.mapM fun child => do return (child.key, ← step child))
      ((Selection.allWithout removal selections).mapM fun child => do
        return (child.key, ← other child)) := by
  induction selections with
  | nil => exact .ok rfl
  | cons child rest inductionHypothesis =>
    rw [List.forall_mem_cons] at each
    have others := inductionHypothesis each.2
    rw [List.mapM_cons]
    cases removed : removal.removes child.key with
    | true =>
      rw [Selection.allWithout_cons_of_removed removed]
      intro members done
      obtain ⟨_, first, done⟩ := bind_eq_ok_iff.1 done
      obtain ⟨value, _, reported⟩ := bind_eq_ok_iff.1 first
      obtain ⟨remaining, found, joined⟩ := bind_eq_ok_iff.1 done
      cases reported
      cases joined
      obtain ⟨reduced, foundToo, same⟩ := others remaining found
      exact ⟨reduced, foundToo,
        same.trans (Resolved.membersWithout_cons_of_removed removed).symm⟩
    | false =>
      rw [Selection.allWithout_cons_of_kept removed, List.mapM_cons, bind_assoc, bind_assoc]
      refine (each.1 removed).bind fun value reduced same => ?_
      refine others.bind fun remaining reducedRemaining sameRemaining => ?_
      refine .ok ?_
      rw [Resolved.membersWithout_cons_of_kept removed, same, sameRemaining, Selection.key_without]

variable {service : Service} {vars : Dict Value}

/-- Whether selections are resolved alike after any removal, on any instance that takes the place
of one that they can be resolved on. -/
def Selection.Independent (service : Service) (vars : Dict Value) (selections : List Selection) :
    Prop :=
  ∀ (removal : Removal) (inst other : Instance), inst.Covers service vars selections other →
    Follows (fun members reduced => reduced = Resolved.membersWithout removal members)
      (service.resolver.resolveMembers vars inst selections).outcome
      (service.resolver.resolveMembers vars other (allWithout removal selections)).outcome

/-- What a field was resolved to is resolved further alike after a removal. -/
theorem follows_resolveFetched_without {child : Selection}
    (below : Selection.Independent service vars child.selections) (removal : Removal)
    {fetched other : Fetched}
    (same : Fetched.Alike (Instance.Covers service vars child.selections) fetched other) :
    Follows (fun value reduced => reduced = value.without removal)
      (service.resolver.resolveFetched vars fetched child).outcome
      (service.resolver.resolveFetched vars other (child.without removal)).outcome := by
  rw [Resolver.resolveFetched_eq, Resolver.resolveFetched_eq, Selection.selections_without]
  cases same with
  | list each =>
    simp only [Trace.outcome_bind, Trace.outcome_mapM]
    refine (Follows.mapM_forall₂ (each.imp fun _ _ => below removal _ _)).bind
      fun items reduced same => ?_
    have equal : reduced = items.map (Resolved.membersWithout removal) := by
      rw [← List.forall₂_eq_eq_eq, List.forall₂_map_right_iff]
      exact same.flip
    refine .ok ?_
    rw [Resolved.without_list, equal, List.map_map, List.map_map]
    refine congrArg _ (List.map_congr_left fun item _ => ?_)
    exact (Resolved.without_object item).symm
  | none => exact .ok rfl
  | some same =>
    simp only [Trace.outcome_bind]
    refine (below removal _ _ same).bind fun resolved reduced equal => .ok ?_
    rw [Resolved.without_object, equal]

/-- A selection that a removal keeps is resolved alike after the removal. -/
theorem Instance.Covers.follows_resolveMember (regular : service.Regular)
    {selections : List Selection} {inst other : Instance}
    (covers : inst.Covers service vars selections other)
    (undirected : Selection.allUndirected selections = true) {child : Selection}
    (member : child ∈ selections) {removal : Removal} (kept : removal.removes child.key = false)
    (below : Selection.Independent service vars child.selections) :
    Follows (fun value reduced => reduced = value.without (removal.below child.key))
      (service.resolver.resolveMember vars inst child).outcome
      (service.resolver.resolveMember vars other
        (child.without (removal.below child.key))).outcome := by
  rw [Resolver.resolveMember, Resolver.resolveMember, Selection.isTypename_without,
    Selection.name_without, covers.sameRef]
  cases named : child.isTypename with
  | true =>
    rw [if_pos rfl, if_pos rfl]
    exact .ok rfl
  | false =>
    simp only [Bool.false_eq_true, if_false, Trace.outcome_bind, Trace.outcome_planned]
    refine Follows.after fun info looked => ?_
    have known : service.store.model.attribute? inst.ref.entity child.name = some info :=
      Model.lookupAttribute_eq_ok_iff.1 (mapError_eq_ok_iff.1 looked)
    cases related : info.type.relationship? inst.ref.entity child.name with
    | none =>
      rw [covers.ready.faithful.attributeData_eq covers.faithful covers.sameRef known related]
      exact .ok (Resolver.without_attributeData _ inst child.name).symm
    | some relationship =>
      simp only [Trace.outcome_bind, Trace.outcome_orViolation]
      refine (covers.follows_fetchNested regular undirected member kept named known related).bind
        fun result reduced alike => ?_
      cases alike with
      | ok alike => exact follows_resolveFetched_without below _ alike
      | violated violation => exact .ok (Resolved.without_violated violation).symm

/-- Selections are independent if those below each of them are. -/
theorem Selection.independent_of_below (regular : service.Regular) {selections : List Selection}
    (undirected : allUndirected selections = true)
    (below : ∀ child ∈ selections, Independent service vars child.selections) :
    Independent service vars selections := by
  intro removal inst other covers
  rw [Resolver.outcome_resolveMembers, Resolver.outcome_resolveMembers]
  refine follows_mapM_without fun child member kept => ?_
  exact covers.follows_resolveMember regular undirected member kept (below child member)

/-- Selections without directives are independent. -/
theorem Selection.independent_of_undirected (regular : service.Regular)
    {selections : List Selection} (undirected : allUndirected selections = true) :
    Independent service vars selections := by
  -- the induction is on what is selected below each selection, not on the selections themselves
  have below : allUndirected selections = true →
      ∀ child ∈ selections, Independent service vars child.selections := by
    clear undirected
    induction selections using Selection.listInduction with
    | nil => simp
    | cons name key? arguments selections rest beneath beside =>
      intro undirected
      rw [allUndirected, Bool.and_eq_true] at undirected
      have undirectedBelow := (isUndirected_iff.1 undirected.1).2
      exact List.forall_mem_cons.2
        ⟨independent_of_below regular undirectedBelow (beneath undirectedBelow),
          beside undirected.2⟩
  exact independent_of_below regular undirected (below undirected)

/-- The arguments that are bound for a field are bound after a removal. -/
theorem Model.boundArguments_without (model : Model) (entity : String) (vars : Dict Value)
    (field : Selection) (removal : Removal) :
    model.boundArguments entity vars (field.without removal) =
      model.boundArguments entity vars field := by
  rw [boundArguments, boundArguments, Selection.filters_without]

/-- The instances of a root field have instances that take their place after a removal. -/
theorem Service.follows_instances_without (regular : service.Regular) {arguments : Dict Value}
    {entity : String} {field : Selection}
    (undirected : Selection.allUndirected field.selections = true) (removal : Removal) :
    Follows (List.Forall₂ (Instance.Covers service vars field.selections))
      (service.instances ⟨vars, arguments, none⟩ entity field)
      (service.instances ⟨vars, arguments, none⟩ entity (field.without removal)) := by
  intro instances found
  have leads (attr : String) :
      PlanContext.LeadsTo ⟨vars, arguments, none⟩ service.store entity attr := by
    rintro source ⟨⟩
  have answered := answered_of_instances regular undirected (leads field.name) found
  obtain ⟨others, foundToo⟩ :=
    answered.exists_instances_without regular undirected (leads field.name) removal
  have undirectedToo : Selection.allUndirected (field.without removal).selections = true := by
    rw [Selection.selections_without]
    exact Selection.allUndirected_allWithout _ removal undirected
  have reduced := answered_of_instances regular undirectedToo (leads _) foundToo
  exact ⟨others, foundToo, answered.covers reduced⟩

/-- A root field that a removal keeps is resolved alike after the removal. -/
theorem follows_resolveRoot_without (regular : service.Regular) {field : Selection}
    (undirected : field.isUndirected = true) (removal : Removal) :
    Follows (fun value reduced => reduced = value.without removal)
      (service.resolver.resolveRoot vars field).outcome
      (service.resolver.resolveRoot vars (field.without removal)).outcome := by
  have undirectedBelow := (Selection.isUndirected_iff.1 undirected).2
  rw [Resolver.resolveRoot, Resolver.resolveRoot, Selection.isTypename_without,
    Selection.name_without, Model.boundArguments_without]
  cases named : field.isTypename with
  | true =>
    rw [if_pos rfl, if_pos rfl]
    exact .ok rfl
  | false =>
    simp only [Bool.false_eq_true, if_false, Trace.outcome_bind]
    rw [Service.outcome_fetchRoot, Service.outcome_fetchRoot, bind_assoc, bind_assoc]
    refine (service.follows_instances_without regular undirectedBelow removal).bind
      fun instances others each => ?_
    exact follows_resolveFetched_without
      (Selection.independent_of_undirected regular undirectedBelow) removal (.list each)

/-- If a request without directives is answered, then it is answered after any of its
sub-selections were removed: with the response but for the removed keys, and for the errors at or
below them. -/
theorem response_without_removed_selections {model : Model} {store : Store} {eager : Bool}
    {request : Request} {response : Resolved} (removal : Removal) (consistent : model.Consistent)
    (unchained : model.Unchained) (obtained : Store.Obtained model store)
    (undirected : request.Undirected)
    (answered : (Service.query ⟨⟨eager, .left⟩, store⟩ request).outcome = .ok response) :
    (Service.query ⟨⟨eager, .left⟩, store⟩ (request.without removal)).outcome =
      .ok (response.without removal) := by
  obtain rfl := obtained.model_eq
  have regular : Service.Regular ⟨⟨eager, .left⟩, store⟩ := ⟨rfl, obtained, consistent, unchained⟩
  have follows : Follows (fun value reduced => reduced = value.without removal)
      (Service.query ⟨⟨eager, .left⟩, store⟩ request).outcome
      (Service.query ⟨⟨eager, .left⟩, store⟩ (request.without removal)).outcome := by
    rw [Service.query, Service.query, Resolver.answer, Resolver.answer]
    simp only [Trace.outcome_bind, Trace.outcome_planned, Trace.outcome_mapM]
    refine Follows.after fun vars _ => ?_
    refine (follows_mapM_without fun field member _ => ?_).bind fun members reduced same => ?_
    · exact follows_resolveRoot_without regular (Selection.allUndirected_iff.1 undirected field
        member) _
    · refine .ok ?_
      rw [Resolved.without_object, same]
  obtain ⟨_, done, rfl⟩ := follows response answered
  exact done

/-- Books with their titles and authors, and the authors with their books. -/
def bookshelfRequest : Request :=
  ⟨[⟨"Book", none, [], [⟨"title", none, [], []⟩, ⟨"author", some "writer", [],
    [⟨"id", none, [], []⟩, ⟨"books", none, [], [⟨"title", none, [], []⟩]⟩]⟩]⟩], Dict.empty⟩

/-- Books without their titles and without the other books of their authors. -/
def shorterBookshelf : Removal :=
  fun keys => [["Book", "title"], ["Book", "writer", "books"]].contains keys

/-- Books are answered alike after their titles and the other books of their authors are
removed. -/
theorem bookshelf_without_titles :
    ∃ response, bookshelfRequest.Undirected ∧
      (Service.query ⟨⟨true, .left⟩, Store.library⟩ bookshelfRequest).outcome = .ok response ∧
      (Service.query ⟨⟨true, .left⟩, Store.library⟩
        (bookshelfRequest.without shorterBookshelf)).outcome =
          .ok (response.without shorterBookshelf) := by
  have answered : (Service.query ⟨⟨true, .left⟩, Store.library⟩ bookshelfRequest).outcome =
      .ok ((Service.query ⟨⟨true, .left⟩, Store.library⟩ bookshelfRequest).outcome.toOption.getD
        (.leaf .null)) :=
    eq_ok_of_isOk (by decide +kernel)
  have undirected : bookshelfRequest.Undirected := by
    decide +kernel
  exact ⟨_, undirected, answered, response_without_removed_selections shorterBookshelf
    consistent_library unchained_library obtained_library undirected answered⟩

end EntityGraph
