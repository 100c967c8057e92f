import EntityGraph.Model.Validation
import EntityGraph.Proofs.Dict
import EntityGraph.Proofs.Outcome
import EntityGraph.Resolution.Resolver
import Mathlib.Data.List.Nodup

/-!
# Binding arguments ahead of planning

An argument that compares identifiers is bound to the identifier that its text writes, and then
every text under its name stands for that identifier. This changes no plan as long as every text
under the name writes the identifier, above all if no name is used twice. Under a name that is
used twice, the text of one argument may stand for the identifier of the other.
-/

namespace EntityGraph

namespace Literal

mutual

/-- The texts that a literal writes, inside lists too. -/
def texts : Literal → List String
  | .string text => [text]
  | .list items => itemTexts items
  | _ => []

/-- The texts that literals write. -/
def itemTexts : List Literal → List String
  | [] => []
  | item :: rest => texts item ++ itemTexts rest

end

end Literal

/-- Whether the texts under the name of a bound argument all write the identifier that it is bound
to. -/
def Selection.BindsAlike (selection : Selection) (bound : Dict Value) : Prop :=
  ∀ filter ∈ selection.filters, ∀ text ∈ filter.value.texts, ∀ id,
    bound.get? filter.name = some (.uuid id) → Uuid.ofText? text = some id

namespace ArgumentScope

variable {scope : ArgumentScope} {argument : String} {text : String}

/-- The scope without arguments that are bound ahead of planning. -/
def unbound (scope : ArgumentScope) : ArgumentScope :=
  { scope with bound := Dict.empty }

/-- Whether a text means the same under the name of an argument, be the argument bound or not. -/
def Keeps (scope : ArgumentScope) (model : Model) (argument text : String) : Prop :=
  ∀ bound, scope.boundUuid? argument = some bound →
    model.coerceValue scope.entity argument (.string text) = .ok bound

end ArgumentScope

/-! ## Literals -/

namespace Literal

variable {model : Model} {scope : ArgumentScope} {argument : String}

mutual

/-- A literal whose texts mean the same without the bound arguments has the same value. -/
theorem coerce_unbound : (literal : Literal) →
    (∀ text ∈ literal.texts, scope.Keeps model argument text) →
    literal.coerce model scope argument = literal.coerce model scope.unbound argument
  | .string text, keeps => by
    rw [coerce, coerce]
    cases found : scope.boundUuid? argument with
    | none => rfl
    | some bound => exact (keeps text List.mem_cons_self bound found).symm
  | .list items, keeps => by
    rw [coerce, coerce, coerceItems_unbound items keeps]
  | .variable _, _ | .enum _, _ => by
    rw [coerce, coerce]
    rfl
  | .int _, _ | .float _, _ | .boolean _, _ | .null, _ => by
    rw [coerce, coerce]

theorem coerceItems_unbound : (items : List Literal) →
    (∀ text ∈ itemTexts items, scope.Keeps model argument text) →
    coerceItems model scope argument items = coerceItems model scope.unbound argument items
  | [], _ => rfl
  | item :: rest, keeps => by
    have first := coerce_unbound item fun text member =>
      keeps text (List.mem_append_left (itemTexts rest) member)
    have others := coerceItems_unbound rest fun text member =>
      keeps text (List.mem_append_right item.texts member)
    rw [coerceItems, coerceItems, first, others]

end

end Literal

/-! ## Filters of the root -/

namespace Model

variable {model : Model} {scope : ArgumentScope} {entity : String} {vars : Dict Value}
  {selection : Selection}

/-- Filters whose texts mean the same without the bound arguments give the same conditions. -/
theorem rootConditions_unbound {filters : List Argument} (root : Alias) (next : Nat)
    (keeps : ∀ filter ∈ filters, ∀ text ∈ filter.value.texts,
      scope.Keeps model filter.name text) :
    model.rootConditions scope root next filters =
      model.rootConditions scope.unbound root next filters := by
  induction filters generalizing next with
  | nil => rfl
  | cons filter rest inductionHypothesis =>
    obtain ⟨first, others⟩ := List.forall_mem_cons.1 keeps
    have operands : model.filterOperands scope filter =
        model.filterOperands scope.unbound filter := by
      rw [filterOperands, filterOperands, filter.value.coerce_unbound first]
      rfl
    simp only [rootConditions, operands, inductionHypothesis _ others]

/-- What an argument is bound to is the identifier that a filter of its name compares with. -/
theorem exists_of_get?_boundArguments {argument : String} {bound : Value}
    (found : (model.boundArguments entity vars selection).get? argument = some bound) :
    ∃ filter ∈ selection.filters, filter.name = argument ∧
      model.boundUuid? entity vars filter = some bound := by
  obtain ⟨filter, member, same⟩ := List.mem_filterMap.1 (Dict.mem_of_get?_ofList found)
  obtain ⟨_, given, pair⟩ := Option.map_eq_some_iff.1 same
  cases pair
  exact ⟨filter, member, rfl, given⟩

/-- Only an argument that compares identifiers is bound, and to the identifier of its text. -/
theorem boundUuid?_eq_some_iff {filter : Argument} {bound : Value} :
    model.boundUuid? entity vars filter = some bound ↔
      ∃ info text id, model.attribute? entity filter.name = some info ∧
        info.type.scalar? = some .uuid ∧ filter.value.text? vars = some text ∧
        Uuid.ofText? text = some id ∧ bound = .uuid id := by
  simp only [boundUuid?, Option.bind_eq_bind, Option.bind_eq_some_iff,
    Option.ite_none_right_eq_some, Option.pure_def, Option.some.injEq]
  constructor
  · rintro ⟨info, known, identifying, text, given, id, read, rfl⟩
    exact ⟨info, text, id, known, identifying, given, read, rfl⟩
  · rintro ⟨info, text, id, known, identifying, given, read, rfl⟩
    exact ⟨info, known, identifying, text, given, id, read, rfl⟩

/-- A text that writes the identifier its argument is bound to means the same without it. -/
theorem keeps_boundArguments
    (alike : selection.BindsAlike (model.boundArguments entity vars selection))
    {filter : Argument} (member : filter ∈ selection.filters) {text : String}
    (written : text ∈ filter.value.texts) :
    ArgumentScope.Keeps ⟨entity, vars, model.boundArguments entity vars selection⟩ model
      filter.name text := by
  intro bound found
  unfold ArgumentScope.boundUuid? at found
  split at found
  · next id given =>
    cases found
    obtain ⟨other, _, same, compared⟩ := exists_of_get?_boundArguments given
    obtain ⟨info, _, _, known, identifying, _⟩ := boundUuid?_eq_some_iff.1 compared
    rw [same] at known
    have read : Uuid.ofText? text = some id := alike filter member text written id given
    simp [coerceValue, known, Value.coerce, identifying, read]
  · cases found

end Model

/-- The text that an argument gives directly is the only one that it writes. -/
theorem Literal.eq_of_mem_texts {literal : Literal} {vars : Dict Value} {given text : String}
    (direct : literal.text? vars = some given) (written : text ∈ literal.texts) :
    text = given := by
  cases literal with
  | string s =>
    cases direct
    exact List.mem_singleton.1 written
  | list items => cases direct
  | _ => cases written

/-- If no two filters have one name, every text stands for its own identifier. -/
theorem Selection.bindsAlike_of_distinct {selection : Selection}
    (distinct : (selection.filters.map Argument.name).Nodup) (model : Model) (entity : String)
    (vars : Dict Value) :
    selection.BindsAlike (model.boundArguments entity vars selection) := by
  intro filter member text written id found
  obtain ⟨other, present, same, compared⟩ := Model.exists_of_get?_boundArguments found
  obtain rfl := List.inj_on_of_nodup_map distinct present member same
  obtain ⟨_, given, _, _, _, direct, read, identifier⟩ := Model.boundUuid?_eq_some_iff.1 compared
  cases identifier
  rw [Literal.eq_of_mem_texts direct written, read]

/-- Binding the arguments of a field ahead of planning leaves its plan as it is, if the texts under
the name of a bound argument all write the identifier that it is bound to. -/
theorem bound_arguments_keep_plan {planner : Planner} {vars : Dict Value} {entity : String}
    {selection : Selection}
    (alike : selection.BindsAlike (planner.model.boundArguments entity vars selection)) :
    planner.plan ⟨vars, planner.model.boundArguments entity vars selection, none⟩ entity
        selection =
      planner.plan ⟨vars, Dict.empty, none⟩ entity selection := by
  have conditions (root : Alias) (next : Nat) :
      planner.model.rootConditions
          ⟨entity, vars, planner.model.boundArguments entity vars selection⟩ root next
          selection.filters =
        planner.model.rootConditions ⟨entity, vars, Dict.empty⟩ root next selection.filters :=
    Model.rootConditions_unbound root next fun filter member text written =>
      Model.keeps_boundArguments alike member written
  simp only [Planner.plan, conditions]
  rfl

/-! ## Tagged devices -/

/-- Devices with a tag that is an identifier. -/
def Model.tagged : Model where
  entities := Dict.ofList [
    ("Device", ⟨"id", Dict.ofList [
      ("id", ⟨.basic .text, none⟩),
      ("tag", ⟨.basic .uuid, none⟩)], none⟩)]
  enumTypes := Dict.empty

/-- The devices with a tag that two arguments write, in different ways. -/
def alikeTags : Selection :=
  ⟨"Device", none,
    [⟨"tag", .list [.string "0000000a-0000-0000-0000-000000000001"]⟩,
      ⟨"tag", .string "0000000A-0000-0000-0000-000000000001"⟩],
    [⟨"id", none, [], []⟩]⟩

/-- The devices with a tag that one argument writes, while another one writes no identifier. -/
def unlikeTags : Selection :=
  ⟨"Device", none,
    [⟨"tag", .string "not-a-uuid"⟩,
      ⟨"tag", .string "0000000a-0000-0000-0000-000000000001"⟩],
    [⟨"id", none, [], []⟩]⟩

/-- Two arguments of one name that write one identifier are planned as if neither were bound. -/
theorem bound_arguments_keep_plan_of_alike_tags :
    alikeTags.BindsAlike (Model.tagged.boundArguments "Device" Dict.empty alikeTags) ∧
      Planner.plan ⟨Model.tagged, ⟨true, .left⟩⟩
          ⟨Dict.empty, Model.tagged.boundArguments "Device" Dict.empty alikeTags, none⟩ "Device"
          alikeTags =
        Planner.plan ⟨Model.tagged, ⟨true, .left⟩⟩ ⟨Dict.empty, Dict.empty, none⟩ "Device"
          alikeTags := by
  have alike : alikeTags.BindsAlike
      (Model.tagged.boundArguments "Device" Dict.empty alikeTags) := by
    intro filter member text written id found
    have bound : (Model.tagged.boundArguments "Device" Dict.empty alikeTags).get? "tag" =
        some (.uuid ⟨0xa000000000000000000000001⟩) := by
      rfl
    rcases List.mem_cons.1 member with rfl | member
    · rw [bound] at found
      cases found
      rw [List.mem_singleton.1 written]
      rfl
    · obtain rfl := List.mem_singleton.1 member
      rw [bound] at found
      cases found
      rw [List.mem_singleton.1 written]
      rfl
  exact ⟨alike, bound_arguments_keep_plan alike⟩

/-- Under a name that is used twice, a text that is no identifier is refused as it is, but stands
for the identifier of the other argument once the arguments are bound. -/
theorem bound_argument_hides_malformed_text :
    Model.tagged.Consistent ∧
      Planner.plan ⟨Model.tagged, ⟨true, .left⟩⟩ ⟨Dict.empty, Dict.empty, none⟩ "Device"
          unlikeTags =
        .error (.coercion (.invalidUuid "tag" "not-a-uuid")) ∧
      (Planner.plan ⟨Model.tagged, ⟨true, .left⟩⟩
        ⟨Dict.empty, Model.tagged.boundArguments "Device" Dict.empty unlikeTags, none⟩ "Device"
        unlikeTags).isOk = true :=
  ⟨by decide +kernel, by rfl, by decide +kernel⟩

end EntityGraph
