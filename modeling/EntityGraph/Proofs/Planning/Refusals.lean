import EntityGraph.Proofs.Model.Consistency
import EntityGraph.Proofs.Planning.Planned

/-!
# What a planner refuses

A request may name what the model does not have, or compare an attribute with a value that
it cannot take. Where the model is consistent a refusal never blames the model itself: an
enum type that an attribute uses is declared, and the source of a field has the association.
-/

namespace EntityGraph

/-- Whether a refusal is about the request and not about the model. -/
def PlanningError.OfRequest : PlanningError → Prop
  | .model (.enumTypeNotFound _) => False
  | .model (.notAnAssociation ..) => False
  | _ => True

/-- Whether a computation of the planner succeeds or refuses the request. -/
abbrev Plannable {α : Type} (outcome : Except PlanningError α) : Prop :=
  Ends PlanningError.OfRequest (fun _ => True) outcome

/-- A list of steps refuses the request if one of them does. -/
theorem Plannable.mapM {α β : Type} {step : α → Except PlanningError β} {items : List α}
    (each : ∀ item ∈ items, Plannable (step item)) : Plannable (items.mapM step) :=
  (Ends.mapM each).mono fun _ _ => trivial

/-! ## Values -/

namespace Value

mutual

/-- Text that is no identifier is refused. -/
theorem plannable_coerce (scalar? : Option ScalarType) (argument : String) :
    (value : Value) → Plannable (value.coerce scalar? argument)
  | .string text => by
    rw [coerce]
    split
    · split <;> trivial
    · trivial
  | .array items => by
    rw [coerce]
    exact (plannable_coerceItems scalar? argument items).bind fun _ _ => trivial
  | .null | .bool _ | .int _ | .float _ | .uuid _ | .enum .. | .entity _ => by
    rw [coerce]
    · trivial
    · simp
    · simp

theorem plannable_coerceItems (scalar? : Option ScalarType) (argument : String) :
    (items : List Value) → Plannable (Value.coerceItems scalar? argument items)
  | [] => trivial
  | item :: rest => by
    rw [coerceItems]
    refine (plannable_coerce scalar? argument item).bind fun _ _ => ?_
    exact (plannable_coerceItems scalar? argument rest).bind fun _ _ => trivial

end

end Value

variable {model : Model}

/-- A constant is refused if its attribute does not have it. -/
theorem Model.plannable_coerceConstant (consistent : model.Consistent)
    (entity argument constant : String) :
    Plannable (model.coerceConstant entity argument constant) := by
  unfold coerceConstant
  split
  · trivial
  · next info known =>
    split
    · trivial
    · next enumType used =>
      obtain ⟨declared, found⟩ := consistent.exists_enumType known used
      rw [found]
      dsimp only
      split <;> trivial

theorem Model.plannable_coerceValue (entity argument : String) (value : Value) :
    Plannable (model.coerceValue entity argument value) := by
  unfold coerceValue
  split
  · exact value.plannable_coerce _ argument
  · trivial

namespace Literal

mutual

/-- A literal is refused if it cannot be compared with its attribute. -/
theorem plannable_coerce (consistent : model.Consistent) (scope : ArgumentScope)
    (argument : String) : (literal : Literal) → Plannable (literal.coerce model scope argument)
  | .string text => by
    rw [coerce]
    split
    · trivial
    · exact model.plannable_coerceValue _ _ _
  | .variable name => by
    rw [coerce]
    split
    · exact model.plannable_coerceValue _ _ _
    · trivial
  | .list items => by
    rw [coerce]
    exact (plannable_coerceItems consistent scope argument items).bind fun _ _ => trivial
  | .enum constant => by
    rw [coerce]
    exact model.plannable_coerceConstant consistent _ _ _
  | .int _ | .float _ | .boolean _ | .null => by
    rw [coerce]
    trivial

theorem plannable_coerceItems (consistent : model.Consistent) (scope : ArgumentScope)
    (argument : String) :
    (items : List Literal) → Plannable (Literal.coerceItems model scope argument items)
  | [] => trivial
  | item :: rest => by
    rw [coerceItems]
    refine (plannable_coerce consistent scope argument item).bind fun _ _ => ?_
    exact (plannable_coerceItems consistent scope argument rest).bind fun _ _ => trivial

end

end Literal

/-! ## Conditions and orderings -/

theorem Model.plannable_lookupAttribute (entity attr : String) :
    Plannable (model.lookupAttribute entity attr) := by
  unfold lookupAttribute
  split <;> trivial

theorem plannable_checkedDirective {α : Type} (outcome : Except InvalidDirective α) :
    Plannable (checkedDirective outcome) := by
  cases outcome <;> trivial

theorem Model.plannable_filterOperands (consistent : model.Consistent) (scope : ArgumentScope)
    (filter : Argument) : Plannable (model.filterOperands scope filter) := by
  refine (filter.value.plannable_coerce consistent scope filter.name).bind fun _ _ => ?_
  exact (model.plannable_lookupAttribute _ _).bind fun _ _ => trivial

theorem Model.plannable_joinCondition? (consistent : model.Consistent) (scope : ArgumentScope)
    (target : Alias) (filters : List Argument) :
    Plannable (model.joinCondition? scope target filters) := by
  refine Ends.bind (Plannable.mapM fun filter _ => ?_) fun _ _ => trivial
  exact (model.plannable_filterOperands consistent scope filter).bind fun _ _ => trivial

theorem Model.plannable_rootConditions (consistent : model.Consistent) (scope : ArgumentScope)
    (root : Alias) (next : Nat) (filters : List Argument) :
    Plannable (model.rootConditions scope root next filters) := by
  induction filters generalizing next with
  | nil => trivial
  | cons filter rest inductionHypothesis =>
    rw [rootConditions]
    refine (model.plannable_filterOperands consistent scope filter).bind fun operands _ => ?_
    obtain ⟨info, value⟩ := operands
    dsimp only
    split
    · exact (inductionHypothesis next).bind fun _ _ => trivial
    · exact (inductionHypothesis (next + 1)).bind fun _ _ => trivial

namespace Planner

variable {planner : Planner}

theorem plannable_ownTerms (level : Level) (selection : Selection) :
    Plannable (planner.ownTerms level selection) := by
  unfold ownTerms
  split
  · refine Ends.bind (Plannable.mapM fun child _ => ?_) fun _ _ => trivial
    refine (plannable_checkedDirective child.direction?).bind fun direction? _ => ?_
    cases direction? with
    | none => trivial
    | some direction =>
      exact (planner.model.plannable_lookupAttribute _ _).bind fun _ _ => trivial
  · trivial

theorem plannable_joinType (child : Selection) : Plannable (planner.joinType child) :=
  (plannable_checkedDirective child.joinType?).bind fun _ _ => trivial

/-! ## Selections -/

/-- The selections of a level can be planned, or the request is refused. -/
theorem plannable_planChildren (consistent : planner.model.Consistent) (vars : Dict Value)
    (selections : List Selection) : ∀ (level : Level) (next : Nat),
      Plannable (planner.planChildren vars level next selections) := by
  induction selections using Selection.listInduction with
  | nil => exact fun _ _ => trivial
  | cons name key? arguments selections rest below beside =>
    intro level next
    cases typename : Selection.isTypename ⟨name, key?, arguments, selections⟩ with
    | true =>
      rw [planChildren, if_pos typename]
      exact beside level next
    | false =>
      rw [planChildren_cons_eq planner vars level next rest typename]
      refine (planner.model.plannable_lookupAttribute _ _).bind fun _ _ => ?_
      refine (plannable_joinType _).bind fun type _ => ?_
      split
      · exact beside level next
      · refine (plannable_ownTerms _ _).bind fun own _ => ?_
        refine (below _ _).bind fun nested _ => ?_
        refine (planner.model.plannable_joinCondition? consistent _ _ _).bind fun on? _ => ?_
        exact (beside level nested.next).bind fun _ _ => trivial

/-- A field can be planned, or the request is refused. A source has to have the association that
the field names. -/
theorem plannable_plan (consistent : planner.model.Consistent) (context : PlanContext)
    (entity : String) (selection : Selection)
    (associated : ∀ source ∈ context.source?, ∃ info relationship,
      planner.model.attribute? source.entity selection.name = some info ∧
        info.type.relationship? source.entity selection.name = some relationship) :
    Plannable (planner.plan context entity selection) := by
  have levelPlanned : Plannable (planner.planLevel context.vars (rootLevel entity) 1 selection) := by
    rw [planLevel_eq]
    refine (plannable_ownTerms _ _).bind fun own _ => ?_
    exact (plannable_planChildren consistent context.vars _ _ _).bind fun _ _ => trivial
  have entityKnown : Plannable (planner.model.lookupEntity entity) := by
    unfold Model.lookupEntity
    split <;> trivial
  have sourceKnown (root : Alias) (next : Nat) :
      Plannable (planner.sourceConditions context selection.name root next) := by
    unfold sourceConditions
    split
    · trivial
    · next source given =>
      obtain ⟨info, relationship, known, related⟩ := associated source given
      rw [Model.parentCondition, Model.lookupAssociation_eq_ok known related]
      trivial
  rw [plan]
  refine entityKnown.bind fun _ _ => ?_
  refine levelPlanned.bind fun level _ => ?_
  refine (planner.model.plannable_rootConditions consistent _ _ _ _).bind fun filtered _ => ?_
  exact (sourceKnown _ _).bind fun _ _ => trivial

end Planner

end EntityGraph
