import EntityGraph.Proofs.Planning.Conditions
import EntityGraph.Proofs.Planning.Planned

/-!
# Which bindings satisfy their selections

The joins of a plan make many rows of one binding, or none. Whether there is one depends on
each joined selection by itself: some target has to meet its filters and to satisfy what is
selected below, or the selection is joined by a left join, nothing meets its filters, and
null satisfies what is selected below.
-/

namespace EntityGraph

mutual

/-- Whether a binding of an entity satisfies a selection, as far as the selection is joined. -/
def Selection.Satisfied (store : Store) (standard : JoinType) (vars : Dict Value)
    (entity : String) (binding : Value) : Selection → Prop
  | ⟨name, key?, arguments, selections⟩ =>
    ∀ relationship,
      store.model.joined? entity ⟨name, key?, arguments, selections⟩ = some relationship →
        (∃ target ∈ store.targets binding name,
          store.model.Admits store ⟨relationship.target, vars, Dict.empty⟩
            (Selection.filters ⟨name, key?, arguments, selections⟩) target ∧
          Selection.AllSatisfied store standard vars relationship.target target selections) ∨
        (Selection.IsLeft standard ⟨name, key?, arguments, selections⟩ ∧
          (∀ target ∈ store.targets binding name,
            ¬ store.model.Admits store ⟨relationship.target, vars, Dict.empty⟩
              (Selection.filters ⟨name, key?, arguments, selections⟩) target) ∧
          Selection.AllSatisfied store standard vars relationship.target .null selections)

/-- Whether a binding of an entity satisfies several selections. -/
def Selection.AllSatisfied (store : Store) (standard : JoinType) (vars : Dict Value)
    (entity : String) (binding : Value) : List Selection → Prop
  | [] => True
  | child :: rest =>
    Selection.Satisfied store standard vars entity binding child ∧
      Selection.AllSatisfied store standard vars entity binding rest

end

/-- What it takes to satisfy a selection that is joined. -/
theorem Selection.satisfied_iff {store : Store} {standard : JoinType} {vars : Dict Value}
    {entity : String} {binding : Value} {child : Selection} {relationship : Relationship}
    (joined : store.model.joined? entity child = some relationship) :
    child.Satisfied store standard vars entity binding ↔
      (∃ target ∈ store.targets binding child.name,
        store.model.Admits store ⟨relationship.target, vars, Dict.empty⟩ child.filters target ∧
        Selection.AllSatisfied store standard vars relationship.target target
          child.selections) ∨
      (child.IsLeft standard ∧
        (∀ target ∈ store.targets binding child.name,
          ¬ store.model.Admits store ⟨relationship.target, vars, Dict.empty⟩ child.filters
            target) ∧
        Selection.AllSatisfied store standard vars relationship.target .null
          child.selections) := by
  obtain ⟨name, key?, arguments, selections⟩ := child
  simp [Selection.Satisfied, joined]

/-- A selection that is not joined asks for nothing. -/
theorem Selection.satisfied_of_unjoined {store : Store} {standard : JoinType}
    {vars : Dict Value} {entity : String} {binding : Value} {child : Selection}
    (left : store.model.joined? entity child = none) :
    child.Satisfied store standard vars entity binding := by
  obtain ⟨name, key?, arguments, selections⟩ := child
  simp [Selection.Satisfied, left]

/-- A binding that satisfies several selections satisfies each of them. -/
theorem Selection.AllSatisfied.of_mem {store : Store} {standard : JoinType} {vars : Dict Value}
    {entity : String} {binding : Value} {selections : List Selection}
    (satisfied : Selection.AllSatisfied store standard vars entity binding selections)
    {child : Selection} (member : child ∈ selections) :
    child.Satisfied store standard vars entity binding := by
  induction selections with
  | nil => cases member
  | cons first rest inductionHypothesis =>
    rcases List.mem_cons.1 member with rfl | member
    · exact satisfied.1
    · exact inductionHypothesis satisfied.2 member

namespace Planner.Plans

variable {planner : Planner} {vars : Dict Value} {level : Level} {next : Nat}
  {selections : List Selection} {plan : LevelPlan}

/-- A plan uses up the indices from `next` on. -/
theorem next_le (planned : planner.Plans vars level next selections plan) :
    next ≤ plan.next := by
  induction planned with
  | nil => exact Nat.le_refl _
  | leave _ _ others => exact others
  | join _ _ _ _ _ _ below others => exact Nat.le_trans (Nat.le_of_succ_le below) others

/-- The joins of a plan leave the aliases of lower indices alone. -/
theorem lookup_eq (planned : planner.Plans vars level next selections plan) {store : Store}
    {row joined : Bindings}
    (member : joined ∈ Join.allRows store level.name plan.joins row) {index : Nat}
    (older : index < next) : joined.lookup index = row.lookup index := by
  induction planned generalizing row joined with
  | nil =>
    rw [Join.allRows, List.mem_singleton] at member
    rw [member]
  | leave _ _ inductionHypothesis => exact inductionHypothesis member older
  | @join level next child rest relationship type own below others on? _ _ _ planned _ _
      beneath beside =>
    obtain ⟨matched, matching, nested, memberNested, memberJoined⟩ :=
      Join.mem_allRows_cons_iff.1 member
    have fromMatch : matched.lookup index = row.lookup index :=
      Join.lookup_of_matched matching (Nat.ne_of_lt older)
    have fromBelow : nested.lookup index = matched.lookup index :=
      beneath memberNested (Nat.lt_succ_of_lt older)
    have olderBeside : index < below.next :=
      Nat.lt_of_lt_of_le older (Nat.le_of_succ_le planned.next_le)
    rw [beside memberJoined olderBeside, fromBelow, fromMatch]

/-- Something is made of a row exactly if the binding of its level satisfies the selections. -/
theorem exists_row_iff (planned : planner.Plans vars level next selections plan)
    {store : Store} (same : planner.model = store.model) (below : level.name.index < next)
    {row : Bindings} {binding : Value} (bound : row.lookup level.name.index = some binding) :
    (∃ joined, joined ∈ Join.allRows store level.name plan.joins row) ↔
      Selection.AllSatisfied store planner.settings.defaultJoinType vars level.entity binding
        selections := by
  induction planned generalizing row binding with
  | nil => simp [Join.allRows, Selection.AllSatisfied]
  | leave left _ inductionHypothesis =>
    have unjoined := left.1
    rw [same] at unjoined
    rw [inductionHypothesis below bound, Selection.AllSatisfied]
    exact (and_iff_right (Selection.satisfied_of_unjoined unjoined)).symm
  | @join level next child rest relationship type own nested others on? joined typed _ planned
      conditioned _ beneath beside =>
    rw [same] at joined conditioned
    have started : row.value level.name = binding := by
      rw [Bindings.value, bound]
      rfl
    have meets (target : Value) :
        Expr.holdsIfAny store (row.bind ⟨next, child.name⟩ target) on? = true ↔
          store.model.Admits store ⟨relationship.target, vars, Dict.empty⟩ child.filters target :=
      Model.holdsIfAny_joinCondition conditioned (Bindings.lookup_bind_self row _ target)
    have nestedRows (target : Value) :
        (∃ middle, middle ∈ Join.allRows store ⟨next, child.name⟩ nested.joins
          (row.bind ⟨next, child.name⟩ target)) ↔
        Selection.AllSatisfied store planner.settings.defaultJoinType vars relationship.target
          target child.selections :=
      beneath (Nat.lt_succ_self next) (Bindings.lookup_bind_self row ⟨next, child.name⟩ target)
    -- A row that a match is joined to still binds the level, so the siblings see the same binding.
    have otherRows (matched : Bindings)
        (matching : matched ∈ Join.matchedRows store level.name child.name ⟨next, child.name⟩ type
          on? row) (middle : Bindings)
        (member : middle ∈ Join.allRows store ⟨next, child.name⟩ nested.joins matched) :
        (∃ last, last ∈ Join.allRows store level.name others.joins middle) ↔
        Selection.AllSatisfied store planner.settings.defaultJoinType vars level.entity binding
          rest := by
      refine beside (Nat.lt_of_lt_of_le below (Nat.le_of_succ_le planned.next_le)) ?_
      rw [planned.lookup_eq member (Nat.lt_succ_of_lt below),
        Join.lookup_of_matched matching (Nat.ne_of_lt below), bound]
    refine (Join.exists_allRows_cons_iff otherRows).trans (and_congr_left fun _ => ?_)
    rw [Join.exists_matched_iff, Selection.satisfied_iff joined, isLeft_iff typed, started]
    simp only [meets, nestedRows, ← Bool.not_eq_true]

end Planner.Plans

end EntityGraph
