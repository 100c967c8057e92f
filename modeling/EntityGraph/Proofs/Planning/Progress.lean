import EntityGraph.Proofs.Plan.Keys
import EntityGraph.Proofs.Planning.Evaluation
import EntityGraph.Proofs.Planning.SelectedRefs

/-!
# Plans do not fail

Whatever a planner makes of a field can be run on a well typed store. Every alias of a plan
is bound before it is used, and to something of the entity that the planner took it for; so
the joins can be expanded, and the conditions and the keys have values.
-/

namespace EntityGraph

variable {store : Store}

/-- The condition of a join has a value wherever its target is bound. -/
theorem Model.exists_evaluate_joinCondition {scope : ArgumentScope} {target : Alias}
    {filters : List Argument} {on? : Option Expr}
    (planned : store.model.joinCondition? scope target filters = .ok on?)
    (typed : store.WellTyped) {row : Bindings} (binds : store.BindsIn row target scope.entity) :
    ∀ on ∈ on?, ∃ value, on.evaluate store row = .ok value := by
  simp only [joinCondition?, bind_eq_ok_iff] at planned
  obtain ⟨conditions, compared, same⟩ := planned
  intro on present
  have whole : on = .conjunction conditions := by
    cases same
    cases conditions with
    | nil => cases present
    | cons first rest => exact (Option.some.inj present).symm
  rw [whole]
  refine Expr.exists_evaluate_conjunction fun condition member => ?_
  obtain ⟨filter, _, step⟩ := exists_of_mem_mapM compared member
  obtain ⟨⟨info, value⟩, operands, same⟩ := bind_eq_ok_iff.1 step
  cases same
  obtain ⟨found, evaluated, _⟩ :=
    binds.exists_evaluate_column typed (filterOperands_eq_ok_iff.1 operands).2
  exact Expr.exists_evaluate_comparison evaluated _ _

namespace Planner.Plans

variable {planner : Planner} {vars : Dict Value} {level : Level} {next : Nat}
  {selections : List Selection} {plan : LevelPlan}

/-- The joins of a plan can be expanded from rows that bind its level. -/
theorem exists_expandAll (planned : planner.Plans vars level next selections plan)
    (same : planner.model = store.model) (typed : store.WellTyped)
    (below : level.name.index < next) {rows : List Bindings}
    (each : ∀ row ∈ rows, store.BindsIn row level.name level.entity) :
    ∃ expanded, Join.expandAll store level.name plan.joins rows = .ok expanded := by
  induction planned generalizing rows with
  | nil => exact ⟨rows, rfl⟩
  | leave _ _ inductionHypothesis => exact inductionHypothesis below each
  | @join level next child rest relationship type own nested others on? joined _ _ planned
      conditioned _ beneath beside =>
    rw [same] at joined conditioned
    obtain ⟨_, ⟨info, known, related⟩, _⟩ := Model.joined?_eq_some_iff.1 joined
    refine Join.exists_expandAll_cons (fun row member => ?_) (fun found origin => ?_)
      (fun found origin => ?_)
    · refine Join.exists_matchRow typed (each row member) known fun value present => ?_
      exact Model.exists_evaluate_joinCondition conditioned typed
        (.bind_self ((each row member).binds_target typed known related present))
    · refine beneath (Nat.lt_succ_self next) fun matched member => ?_
      obtain ⟨row, among, matching⟩ := origin matched member
      exact (each row among).matched typed known related matching
    · refine beside (Nat.lt_of_lt_of_le below (Nat.le_of_succ_le planned.next_le))
        fun joined member => ?_
      obtain ⟨row, among, matched, matching, inside⟩ := origin joined member
      refine (each row among).of_lookup_eq ?_
      rw [planned.lookup_eq inside (Nat.lt_succ_of_lt below),
        Join.lookup_of_matched matching (Nat.ne_of_lt below)]

end Planner.Plans

/-! ## Orderings -/

/-- An element of an ordering is an attribute of its level that is not an association. -/
theorem Planner.exists_of_mem_ownTerms {planner : Planner} {level : Level}
    {selection : Selection} {own : List LeveledTerm}
    (ordered : planner.ownTerms level selection = .ok own) {leveled : LeveledTerm}
    (member : leveled ∈ own) :
    ∃ attr info, leveled.term.key = .column level.name attr ∧
      planner.model.attribute? level.entity attr = some info ∧
      info.type.isAssociation = false := by
  unfold ownTerms at ordered
  split at ordered
  · obtain ⟨terms, each, same⟩ := bind_eq_ok_iff.1 ordered
    cases same
    obtain ⟨term?, inside, rfl⟩ := List.mem_filterMap.1 member
    obtain ⟨child, _, step⟩ := exists_of_mem_mapM each inside
    obtain ⟨direction?, _, step⟩ := bind_eq_ok_iff.1 step
    cases direction? with
    | none => cases step
    | some direction =>
      obtain ⟨info, known, step⟩ := bind_eq_ok_iff.1 step
      rw [Model.lookupAttribute_eq_ok_iff] at known
      cases plain : info.type.isAssociation with
      | true => simp [plain, pure, Except.pure] at step
      | false =>
        simp only [plain, pure, Except.pure, Bool.false_eq_true, if_false, Except.ok.injEq,
          Option.some.injEq] at step
        subst step
        exact ⟨child.name, info, rfl, known, plain⟩
  · cases ordered
    cases member

/-- Whether a key is an attribute of an alias, not an association, whose alias all of the rows bind
to its entity. -/
def OrderTerm.Grounded (store : Store) (rows : Bindings → Prop) (next : Nat) (term : OrderTerm) :
    Prop :=
  ∃ name entity attr info, term.key = .column name attr ∧ name.index < next ∧
    store.model.attribute? entity attr = some info ∧ info.type.isAssociation = false ∧
    ∀ row, rows row → store.BindsIn row name entity

/-- A key stays grounded in rows that agree with grounded ones on the indices in use. -/
theorem OrderTerm.Grounded.extend {rows extended : Bindings → Prop} {next last : Nat}
    {term : OrderTerm} (grounded : term.Grounded store rows next) (more : next ≤ last)
    (agrees : ∀ row, extended row → ∃ start, rows start ∧
      ∀ index < next, row.lookup index = start.lookup index) :
    term.Grounded store extended last := by
  obtain ⟨name, entity, attr, info, column, older, known, plain, binds⟩ := grounded
  refine ⟨name, entity, attr, info, column, Nat.lt_of_lt_of_le older more, known, plain,
    fun row member => ?_⟩
  obtain ⟨start, inside, same⟩ := agrees row member
  exact (binds start inside).of_lookup_eq (same name.index older)

/-- A grounded key has a value of one type in all rows. -/
theorem OrderTerm.Grounded.exists_type {rows : Bindings → Prop} {next : Nat} {term : OrderTerm}
    (grounded : term.Grounded store rows next) (typed : store.WellTyped) :
    ∃ type : AttributeType, type.isAssociation = false ∧ ∀ row, rows row → ∃ value,
      term.key.evaluate store row = .ok value ∧ (value = .null ∨ value.Fits store.Stored type) := by
  obtain ⟨name, entity, attr, info, column, _, known, plain, binds⟩ := grounded
  refine ⟨info.type, plain, fun row member => ?_⟩
  rw [column]
  exact (binds row member).exists_evaluate_column typed known

/-- The ordering of a plan is grounded in the rows that its joins make. -/
theorem Planner.Plans.grounded {planner : Planner} {vars : Dict Value} {level : Level}
    {next : Nat} {selections : List Selection} {plan : LevelPlan}
    (planned : planner.Plans vars level next selections plan) (same : planner.model = store.model)
    (typed : store.WellTyped) (below : level.name.index < next) :
    ∀ leveled ∈ plan.ordering, leveled.term.Grounded store
      (fun joined => ∃ row, store.BindsIn row level.name level.entity ∧
        joined ∈ Join.allRows store level.name plan.joins row) plan.next := by
  induction planned with
  | nil => simp
  | leave _ _ inductionHypothesis => exact inductionHypothesis below
  | @join level next child rest relationship type own nested others on? joined _ ordered planned
      conditioned remaining beneath beside =>
    rw [same] at joined
    obtain ⟨_, ⟨info, known, related⟩, _⟩ := Model.joined?_eq_some_iff.1 joined
    have belowOthers : level.name.index < nested.next :=
      Nat.lt_of_lt_of_le below (Nat.le_of_succ_le planned.next_le)
    intro leveled member
    rw [List.mem_append, List.mem_append] at member
    rcases member with (member | member) | member
    · obtain ⟨attr, ownInfo, column, knownOwn, plain⟩ := exists_of_mem_ownTerms ordered member
      rw [same] at knownOwn
      refine ⟨_, _, attr, ownInfo, column,
        Nat.lt_of_lt_of_le planned.next_le remaining.next_le, knownOwn, plain, ?_⟩
      rintro last ⟨row, binds, present⟩
      obtain ⟨matched, matching, middle, inner, outer⟩ := Join.mem_allRows_cons_iff.1 present
      refine (binds.matched typed known related matching).of_lookup_eq ?_
      rw [remaining.lookup_eq outer planned.next_le,
        planned.lookup_eq inner (Nat.lt_succ_self next)]
    · refine (beneath (Nat.lt_succ_self next) leveled member).extend remaining.next_le ?_
      rintro last ⟨row, binds, present⟩
      obtain ⟨matched, matching, middle, inner, outer⟩ := Join.mem_allRows_cons_iff.1 present
      exact ⟨middle, ⟨matched, binds.matched typed known related matching, inner⟩,
        fun index older => remaining.lookup_eq outer older⟩
    · refine (beside belowOthers leveled member).extend (Nat.le_refl _) ?_
      rintro last ⟨row, binds, present⟩
      obtain ⟨matched, matching, middle, inner, outer⟩ := Join.mem_allRows_cons_iff.1 present
      refine ⟨last, ⟨middle, binds.of_lookup_eq ?_, outer⟩, fun _ _ => rfl⟩
      rw [planned.lookup_eq inner (Nat.lt_succ_of_lt below),
        Join.lookup_of_matched matching (Nat.ne_of_lt below)]

end EntityGraph
