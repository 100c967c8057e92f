import EntityGraph.Proofs.Planning.Loaded
import EntityGraph.Proofs.Planning.Refusals
import EntityGraph.Proofs.Resolution.Outcomes
import EntityGraph.Service

/-!
# Requests do not go wrong

On a store of a consistent model a request fails only if it is refused, or if a fetch finds
more than one target. Whatever is resolved on the way are faithful instances: each is stored
and has what its entity declares, so no later plan and no later lookup can miss anything.
-/

namespace EntityGraph

/-- Whether a failure is a refusal of the request or a fetch that finds more than one target. -/
def RequestError.Expected : RequestError → Prop
  | .planning refusal => refusal.OfRequest
  | .execution error => error.IsNonUnique
  | .cardinality _ => False

/-- Whether a failure is expected or one of a field alone. -/
def RequestError.OfField (error : RequestError) : Prop :=
  error.Expected ∨ ∃ violation, error = .cardinality violation

/-- Whether what a field is resolved to are faithful instances. -/
def Fetched.Faithful (store : Store) : Fetched → Prop
  | .list instances => ∀ inst ∈ instances, inst.Faithful store
  | .object inst? => ∀ inst ∈ inst?, inst.Faithful store

/-- What is found loaded on a faithful instance is the target of an association to one. -/
theorem Instance.Faithful.exists_of_loadedField? {store : Store} {inst : Instance}
    (faithful : inst.Faithful store) {selection : Selection} {fetched : Fetched}
    (loaded : loadedField? inst selection = some fetched) :
    ∃ target?, fetched = .object target? ∧ selection.hasFilters = false ∧
      inst.field? selection.name = some (.reference target?) := by
  unfold loadedField? at loaded
  split at loaded
  · cases loaded
  · next unfiltered =>
    obtain ⟨field, held, found⟩ := Option.bind_eq_some_iff.1 loaded
    obtain ⟨plain, retrieved, kept⟩ := faithful.exists_retrieve
    cases field with
    | value value => cases found
    | reference target? =>
      cases found
      exact ⟨target?, rfl, by simpa using unfiltered, held⟩
    | collection targets =>
      have stored := kept selection.name fun target? other => by
        rw [held] at other
        cases other
      rw [held] at stored
      obtain ⟨value, impossible⟩ := exists_value_of_retrieve retrieved stored.symm
      cases impossible

/-- A violation of cardinality that is caught is no failure. -/
theorem Ends.caught {α : Type} {property : α → Prop} {outcome : Except RequestError α}
    (ends : Ends RequestError.OfField property outcome) :
    Ends RequestError.Expected (fun result => ∀ value, result = .ok value → property value)
      (EntityGraph.caught outcome) := by
  cases outcome with
  | ok value =>
    rintro _ ⟨⟩
    exact ends
  | error error =>
    rcases ends with expected | ⟨violation, rfl⟩
    · cases error with
      | cardinality violation => exact expected.elim
      | _ => exact expected
    · exact fun _ impossible => by cases impossible

namespace Service

variable {service : Service}

/-- The instances of a field are faithful. -/
theorem ends_instances (typed : service.store.WellTyped)
    (consistent : service.store.model.Consistent) (context : PlanContext) (entity : String)
    (selection : Selection) (leads : context.LeadsTo service.store entity selection.name) :
    Ends RequestError.Expected
      (fun instances : List Instance => ∀ inst ∈ instances, inst.Faithful service.store)
      (service.instances context entity selection) := by
  have plannable : Plannable (service.planner.plan context entity selection) := by
    have planning : service.planner.model.Consistent := consistent
    refine Planner.plannable_plan planning context entity selection fun source given => ?_
    obtain ⟨_, info, relationship, known, related, _⟩ := leads source given
    exact ⟨info, relationship, known, related⟩
  refine Ends.bind (plannable.remember.mapError RequestError.planning fun _ refused => refused)
    fun plan planned => ?_
  refine Ends.mapError RequestError.execution ?_ fun _ nonUnique => nonUnique
  exact (Planner.ends_execute rfl typed consistent planned.2 leads).mono
    fun _ each inst member => (each inst member).1

/-- A root field is resolved to faithful instances. -/
theorem ends_fetchRoot (typed : service.store.WellTyped)
    (consistent : service.store.model.Consistent) (vars arguments : Dict Value)
    (entity : String) (selection : Selection) :
    Ends RequestError.Expected (Fetched.Faithful service.store)
      (service.resolver.fetchRoot vars arguments entity selection).outcome := by
  rw [outcome_fetchRoot]
  exact (ends_instances typed consistent ⟨vars, arguments, none⟩ entity selection
    (by rintro source ⟨⟩)).bind fun _ faithful => faithful

/-- What the rows of a nested field make of it is faithful. -/
theorem ends_fit {store : Store} (source : Instance) (selection : Selection)
    (cardinality : Cardinality) {instances : List Instance}
    (faithful : ∀ inst ∈ instances, inst.Faithful store) :
    Ends RequestError.OfField (Fetched.Faithful store)
      (Resolver.fit source selection cardinality instances).outcome := by
  unfold Resolver.fit
  split
  · exact faithful
  · rintro inst ⟨⟩
    exact faithful _ List.mem_cons_self
  · split
    · rintro inst ⟨⟩
    · exact .inr ⟨_, rfl⟩

/-- A nested field is resolved to faithful instances, or violates its cardinality. -/
theorem ends_fetchNested (typed : service.store.WellTyped)
    (consistent : service.store.model.Consistent) {source : Instance}
    (faithful : source.Faithful service.store) {selection : Selection} {info : Attribute}
    {relationship : Relationship}
    (known : service.store.model.attribute? source.ref.entity selection.name = some info)
    (related : info.type.relationship? source.ref.entity selection.name = some relationship)
    (vars arguments : Dict Value) :
    Ends RequestError.OfField (Fetched.Faithful service.store)
      (service.resolver.fetchNested vars arguments source relationship.target selection).outcome := by
  cases loaded : loadedField? source selection with
  | some fetched =>
    obtain ⟨target?, rfl, _, held⟩ := faithful.exists_of_loadedField? loaded
    rw [Resolver.fetchNested, loaded]
    rintro target ⟨⟩
    exact faithful.of_reference held
  | none =>
    rw [outcome_fetchNested service loaded known related]
    have ends := ends_instances typed consistent ⟨vars, arguments, some source.ref⟩
      relationship.target selection (PlanContext.leadsTo_target _ rfl faithful.stored known related)
    exact (ends.weaken fun _ => Or.inl).bind fun instances each =>
      ends_fit source selection relationship.cardinality each

/-- What a field was resolved to can be resolved further if its instances can. -/
theorem ends_resolveFetched {vars : Dict Value} {selection : Selection} {fetched : Fetched}
    (each : fetched.Faithful service.store)
    (members : ∀ {inst : Instance}, inst.Faithful service.store →
      Ends RequestError.Expected (fun _ => True)
        (service.resolver.resolveMembers vars inst selection.selections).outcome) :
    Ends RequestError.Expected (fun _ => True)
      (service.resolver.resolveFetched vars fetched selection).outcome := by
  rw [Resolver.resolveFetched_eq]
  match fetched with
  | .list instances =>
    rw [Trace.outcome_bind, Trace.outcome_mapM]
    exact (Ends.mapM fun inst member => members (each inst member)).bind fun _ _ => trivial
  | .object (some inst) =>
    rw [Trace.outcome_bind]
    exact (members (each inst rfl)).bind fun _ _ => trivial
  | .object none => trivial

/-- What is selected on faithful instances can be resolved, or fails as expected. -/
theorem ends_resolveMembers (typed : service.store.WellTyped)
    (consistent : service.store.model.Consistent) (vars : Dict Value)
    (selections : List Selection) : ∀ {inst : Instance}, inst.Faithful service.store →
      Ends RequestError.Expected (fun _ => True)
        (service.resolver.resolveMembers vars inst selections).outcome := by
  induction selections using Selection.listInduction with
  | nil =>
    intro inst faithful
    rw [Resolver.resolveMembers]
    trivial
  | cons name key? arguments selections rest below beside =>
    intro inst faithful
    have member : Ends RequestError.Expected (fun _ => True)
        (service.resolver.resolveMember vars inst ⟨name, key?, arguments, selections⟩).outcome := by
      rw [Resolver.resolveMember]
      split
      · trivial
      · rw [Trace.outcome_bind, Trace.outcome_planned]
        have looked := (service.store.model.plannable_lookupAttribute inst.ref.entity
          name).remember
        refine Ends.bind (looked.mapError RequestError.planning fun _ refused => refused)
          fun info found => ?_
        have known := Model.lookupAttribute_eq_ok_iff.1 found.2
        split
        · trivial
        · next relationship related =>
          rw [Trace.outcome_bind, Trace.outcome_orViolation]
          refine (ends_fetchNested typed consistent faithful known related vars
            Dict.empty).caught.bind fun result each => ?_
          cases result with
          | ok fetched => exact ends_resolveFetched (each fetched rfl) below
          | error violation => trivial
    rw [Resolver.resolveMembers_cons]
    simp only [Trace.outcome_bind]
    exact member.bind fun _ _ => (beside faithful).bind fun _ _ => trivial

/-- A root field can be resolved, or fails as expected. -/
theorem ends_resolveRoot (typed : service.store.WellTyped)
    (consistent : service.store.model.Consistent) (vars : Dict Value) (field : Selection) :
    Ends RequestError.Expected (fun _ => True)
      (service.resolver.resolveRoot vars field).outcome := by
  rw [Resolver.resolveRoot]
  split
  · trivial
  · rw [Trace.outcome_bind]
    exact (ends_fetchRoot typed consistent vars _ field.name field).bind fun _ each =>
      ends_resolveFetched each fun each => ends_resolveMembers typed consistent vars _ each

/-- A request is answered, or fails as expected. -/
theorem ends_query (typed : service.store.WellTyped)
    (consistent : service.store.model.Consistent) (request : Request) :
    Ends RequestError.Expected (fun _ => True) (service.query request).outcome := by
  have valued : Plannable (variableValues request.vars) := by
    refine Ends.bind (Plannable.mapM fun entry _ => ?_) fun _ _ => trivial
    dsimp only
    split <;> trivial
  rw [query, Resolver.answer, Trace.outcome_bind, Trace.outcome_planned]
  refine Ends.bind (valued.mapError RequestError.planning fun _ refused => refused)
    fun vars _ => ?_
  rw [Trace.outcome_bind, Trace.outcome_mapM]
  have member (field : Selection) : Ends RequestError.Expected (fun _ => True)
      (service.resolver.resolveRoot vars field >>= fun value =>
        pure (field.key, value)).outcome := by
    rw [Trace.outcome_bind]
    exact (ends_resolveRoot typed consistent vars field).bind fun _ _ => trivial
  exact (Ends.mapM fun field _ => member field).bind fun _ _ => trivial

end Service

/-- A request to a store of a consistent model fails only because it is refused, but neither for an
undeclared enum type nor for an attribute that is no association, or because a fetch finds more
than one target. -/
theorem query_fails_only_by_refusal_or_nonunique_fetch {model : Model} {store : Store}
    {settings : FetchSettings} {request : Request} {error : RequestError}
    (consistent : model.Consistent) (obtained : Store.Obtained model store)
    (failed : (Service.query ⟨settings, store⟩ request).outcome = .error error) :
    (∃ refusal, error = .planning refusal ∧
      (∀ enumType, refusal ≠ .model (.enumTypeNotFound enumType)) ∧
      ∀ entity attr, refusal ≠ .model (.notAnAssociation entity attr)) ∨
    ∃ source attr, error = .execution (.nonUniqueFetch source attr) := by
  obtain rfl := obtained.model_eq
  have ends : Ends RequestError.Expected (fun _ => True)
      (Service.query ⟨settings, store⟩ request).outcome := by
    have kept : (Service.mk settings store).store.model.Consistent := consistent
    have typed : (Service.mk settings store).store.WellTyped := obtained.wellTyped
    exact Service.ends_query typed kept request
  rw [failed] at ends
  cases error with
  | planning refusal =>
    refine .inl ⟨refusal, rfl, ?_, ?_⟩
    · rintro enumType rfl
      exact ends
    · rintro entity attr rfl
      exact ends
  | execution error =>
    obtain ⟨source, attr, rfl⟩ := ends
    exact .inr ⟨source, attr, rfl⟩
  | cardinality violation => exact ends.elim

/-- Authors and their books with a title that no variable gives. -/
def untitledRequest : Request :=
  ⟨[⟨"Author", none, [], [⟨"books", none, [⟨"title", .variable "title"⟩], []⟩]⟩], Dict.empty⟩

/-- A variable without a value is a reason to refuse a request. -/
theorem query_fails_for_unbound_variable :
    ∃ error, (Service.query ⟨.standard, Store.library⟩ untitledRequest).outcome = .error error ∧
      ((∃ refusal, error = .planning refusal ∧
        (∀ enumType, refusal ≠ .model (.enumTypeNotFound enumType)) ∧
        ∀ entity attr, refusal ≠ .model (.notAnAssociation entity attr)) ∨
      ∃ source attr, error = .execution (.nonUniqueFetch source attr)) := by
  obtain ⟨error, failed⟩ : ∃ error,
      (Service.query ⟨.standard, Store.library⟩ untitledRequest).outcome = .error error :=
    exists_error_of_isOk (by decide +kernel)
  exact ⟨error, failed, query_fails_only_by_refusal_or_nonunique_fetch consistent_library
    obtained_library failed⟩

end EntityGraph
