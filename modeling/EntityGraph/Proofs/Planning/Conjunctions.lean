import EntityGraph.Proofs.Planning.Conditions
import EntityGraph.Proofs.Store.Mirror

/-!
# Conjunctions are read in turn

Conditions are combined two at a time, and a side that always holds is left out. Whatever is left
out, the combined condition is read as its parts are from left to right, up to the first one that
does not come out true: it comes out true if all of them do, and it fails as the first one fails
that is reached.
-/

namespace EntityGraph

/-- Whether the conditions of a list, read from left to right, come to a failure before one of them
is anything but true. -/
inductive Expr.FailsInTurn (store : Store) (row : Bindings) (error : ExecutionError) :
    List Expr → Prop where
  | here {condition : Expr} {rest : List Expr}
      (fails : condition.evaluate store row = .error error) :
      FailsInTurn store row error (condition :: rest)
  | later {condition : Expr} {rest : List Expr} (holds : condition.holds store row)
      (fails : FailsInTurn store row error rest) :
      FailsInTurn store row error (condition :: rest)

/-- Whether a condition means what several conditions mean that are read in turn. -/
structure Expr.MeansAll (store : Store) (row : Bindings) (condition : Expr)
    (conditions : List Expr) : Prop where
  holds : condition.holds store row ↔
    ∀ other ∈ conditions, other.holds store row
  fails : ∀ error, condition.evaluate store row = .error error ↔
    Expr.FailsInTurn store row error conditions

namespace Expr

variable {store : Store} {row : Bindings}

/-- Reading one more condition at the end fails where the reading failed before, or at that
condition if all others hold. -/
theorem failsInTurn_append_singleton_iff {error : ExecutionError} {conditions : List Expr}
    {last : Expr} :
    FailsInTurn store row error (conditions ++ [last]) ↔
      FailsInTurn store row error conditions ∨
        (∀ other ∈ conditions, other.holds store row) ∧
          last.evaluate store row = .error error := by
  induction conditions with
  | nil =>
    constructor
    · rintro (fails | ⟨_, ⟨⟩⟩)
      exact .inr ⟨by simp, fails⟩
    · rintro (⟨⟨⟩⟩ | ⟨_, fails⟩)
      exact .here fails
  | cons condition rest inductionHypothesis =>
    rw [List.cons_append, List.forall_mem_cons]
    constructor
    · rintro (fails | ⟨holds, fails⟩)
      · exact .inl (.here fails)
      · rcases inductionHypothesis.1 fails with earlier | ⟨others, fails⟩
        · exact .inl (.later holds earlier)
        · exact .inr ⟨⟨holds, others⟩, fails⟩
    · rintro ((fails | ⟨holds, fails⟩) | ⟨⟨holds, others⟩, fails⟩)
      · exact .here fails
      · exact .later holds (inductionHypothesis.2 (.inl fails))
      · exact .later holds (inductionHypothesis.2 (.inr ⟨others, fails⟩))

/-- A condition that fails does not hold. -/
theorem not_holds_of_evaluate {condition : Expr} {error : ExecutionError}
    (fails : condition.evaluate store row = .error error) :
    ¬ condition.holds store row := by
  simp [Expr.holds, fails]

/-- The right side of a conjunction is only read if the left one holds. -/
theorem evaluate_and_eq_error_iff {left right : Expr} {error : ExecutionError} :
    (Expr.and left right).evaluate store row = .error error ↔
      left.evaluate store row = .error error ∨
        left.holds store row ∧ right.evaluate store row = .error error := by
  rw [evaluate, Expr.holds, bind_eq_error_iff]
  cases left.evaluate store row with
  | error other => simp
  | ok value =>
    cases leftTrue : value.isTrue with
    | false => simp [leftTrue, pure, Except.pure]
    | true => simp [leftTrue, bind_eq_error_iff, pure, Except.pure]

/-- A side that is left out would neither fail nor keep the other one from being read. -/
theorem evaluate_both_eq_error_iff {left right : Expr} {error : ExecutionError} :
    (left.both right).evaluate store row = .error error ↔
      left.evaluate store row = .error error ∨
        left.holds store row ∧ right.evaluate store row = .error error := by
  have never {condition : Expr} (literal : condition.isTrue) :
      condition.evaluate store row ≠ .error error := by
    intro fails
    exact not_holds_of_evaluate fails (holds_of_isTrue literal store row)
  rw [both]
  split
  · next leftTrue => simp [never leftTrue, holds_of_isTrue leftTrue]
  · split
    · next rightTrue => simp [never rightTrue]
    · exact evaluate_and_eq_error_iff

namespace MeansAll

/-- Every condition means what it means alone. -/
theorem singleton (condition : Expr) : MeansAll store row condition [condition] where
  holds := by simp
  fails error := by
    rw [← List.nil_append [condition], failsInTurn_append_singleton_iff]
    simp only [List.not_mem_nil, false_imp_iff, implies_true, true_and, iff_or_self]
    rintro ⟨⟩

/-- The condition that always holds means no condition. -/
theorem true_nil : MeansAll store row Expr.true [] where
  holds := by simp
  fails error := by
    constructor <;> rintro ⟨⟩

/-- Combining a condition with a further one appends that one to what it means. -/
theorem both {condition : Expr} {conditions : List Expr}
    (means : MeansAll store row condition conditions) (further : Expr) :
    MeansAll store row (condition.both further) (conditions ++ [further]) where
  holds := by
    rw [holds_both, Bool.and_eq_true, means.holds, List.forall_mem_append, List.forall_mem_singleton]
  fails error := by
    rw [evaluate_both_eq_error_iff, means.fails, means.holds, failsInTurn_append_singleton_iff]

/-- Combining a condition with further ones one after the other appends them all. -/
theorem foldl {condition : Expr} {conditions : List Expr}
    (means : MeansAll store row condition conditions) (further : List Expr) :
    MeansAll store row (further.foldl Expr.both condition) (conditions ++ further) := by
  induction further generalizing condition conditions with
  | nil => simpa using means
  | cons first rest inductionHypothesis =>
    have next := inductionHypothesis (means.both first)
    rwa [List.append_assoc, List.singleton_append] at next

end MeansAll

end Expr

/-- Asking a join without a condition for conditions one after the other combines them from the
first one on. -/
theorem Join.on?_foldl_andOn {join : Join} (free : join.on? = none) (first : Expr)
    (rest : List Expr) :
    ((first :: rest).foldl Join.andOn join).on? = some (rest.foldl Expr.both first) := by
  have further (present : Join) (condition : Expr) (asked : present.on? = some condition) :
      (rest.foldl Join.andOn present).on? = some (rest.foldl Expr.both condition) := by
    induction rest generalizing present condition with
    | nil => exact asked
    | cons next others inductionHypothesis =>
      exact inductionHypothesis _ _ (by rw [Join.andOn, asked])
  exact further _ _ (by rw [Join.andOn, free])

/-- The conjunction of conditions means what they mean in turn: it comes out true exactly if each of
them does, and it fails exactly as the first one fails that is reached. So does the condition of a
join that had none and was asked for them one by one. -/
theorem conjunction_means_conditions_in_turn (store : Store) (row : Bindings)
    (conditions : List Expr) :
    (Expr.conjunction conditions).MeansAll store row conditions ∧
      ∀ join : Join, join.on? = none → conditions ≠ [] →
        ∃ on, (conditions.foldl Join.andOn join).on? = some on ∧
          on.MeansAll store row conditions := by
  constructor
  · exact Expr.MeansAll.true_nil.foldl conditions
  · intro join free nonempty
    obtain ⟨first, rest, rfl⟩ := List.exists_cons_of_ne_nil nonempty
    exact ⟨_, Join.on?_foldl_andOn free first rest, (Expr.MeansAll.singleton first).foldl rest⟩

/-! ## Conditions on an author -/

/-- A row of an author. -/
def authorRow : Bindings :=
  Bindings.bind [] ⟨1, "author"⟩ (.entity ⟨"Author", "a"⟩)

/-- Conditions on an author, one of which mentions an alias that nothing is bound to. -/
def strayConditions : List Expr :=
  [Expr.true, .equals (.column ⟨1, "author"⟩ "id") (.value (.string "a")), .table ⟨7, "books"⟩,
    .value .null]

/-- A join that is asked for these conditions fails at the third one, before the last one comes out
as anything but true. -/
theorem stray_conditions_fail_in_turn :
    (Join.plain "author" ⟨1, "author"⟩ .left).on? = none ∧ strayConditions ≠ [] ∧
      ∃ on, (strayConditions.foldl Join.andOn (.plain "author" ⟨1, "author"⟩ .left)).on? =
          some on ∧
        on.MeansAll Store.library authorRow strayConditions ∧
        on.evaluate Store.library authorRow = .error (.unboundAlias ⟨7, "books"⟩) := by
  have free : (Join.plain "author" ⟨1, "author"⟩ .left).on? = none := rfl
  have nonempty : strayConditions ≠ [] := List.cons_ne_nil _ _
  obtain ⟨on, asked, means⟩ :=
    (conjunction_means_conditions_in_turn Store.library authorRow strayConditions).2 _ free nonempty
  refine ⟨free, nonempty, on, asked, means, (means.fails _).2 ?_⟩
  exact .later rfl (.later (by decide +kernel) (.here rfl))

end EntityGraph
