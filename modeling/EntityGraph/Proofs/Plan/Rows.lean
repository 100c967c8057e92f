import EntityGraph.Plan.Bindings
import EntityGraph.Proofs.Dict
import EntityGraph.Proofs.Outcome
import EntityGraph.Proofs.Value.Equality
import Mathlib.Data.List.Forall2

/-!
# Rows, kept items and first appearances

The operations that selections are made of, seen as operations on lists: keeping what
satisfies a condition is a filter once every condition has a value, and dropping the
repetitions of references leaves each of them once, where it appears first.
-/

namespace EntityGraph

universe u

/-- After dropping repetitions there is none. -/
theorem nodup_eraseDups {α : Type u} [BEq α] [LawfulBEq α] :
    (items : List α) → items.eraseDups.Nodup
  | [] => by simp
  | first :: rest => by
    rw [List.eraseDups_cons, List.nodup_cons]
    exact ⟨by simp, nodup_eraseDups _⟩
termination_by items => items.length
decreasing_by exact Nat.lt_succ_of_le (List.length_filter_le _ _)

/-- Where there is no repetition, none is dropped. -/
theorem eraseDups_of_nodup {α : Type u} [BEq α] [LawfulBEq α] {items : List α}
    (distinct : items.Nodup) : items.eraseDups = items := by
  induction items with
  | nil => rfl
  | cons first rest inductionHypothesis =>
    obtain ⟨absent, distinct⟩ := List.nodup_cons.1 distinct
    have others : rest.filter (fun other => !other == first) = rest :=
      List.filter_eq_self.2 fun other member => by
        rw [Bool.not_eq_true', beq_eq_false_iff_ne]
        rintro rfl
        exact absent member
    rw [List.eraseDups_cons, others, inductionHypothesis distinct]

/-- Repetitions can be dropped before or after a filter. -/
theorem eraseDups_filter {α : Type u} [BEq α] [LawfulBEq α] (keeps : α → Bool) :
    (items : List α) → (items.filter keeps).eraseDups = items.eraseDups.filter keeps
  | [] => by simp
  | first :: rest => by
    have others := eraseDups_filter keeps (rest.filter fun other => !other == first)
    rw [List.eraseDups_cons]
    cases kept : keeps first with
    | true =>
      rw [List.filter_cons_of_pos kept, List.filter_cons_of_pos kept, List.eraseDups_cons,
        ← others, List.filter_filter, List.filter_filter]
      simp only [Bool.and_comm]
    | false =>
      rw [List.filter_cons_of_neg (by simp [kept]), List.filter_cons_of_neg (by simp [kept]),
        ← others, List.filter_filter]
      congr 1
      refine List.filter_congr fun other _ => ?_
      by_cases same : other = first <;> simp [same, kept]
termination_by items => items.length
decreasing_by exact Nat.lt_succ_of_le (List.length_filter_le _ _)

/-- One item at most is left without repetitions exactly if all items are the same. -/
theorem length_eraseDups_le_one_iff {α : Type u} [BEq α] [LawfulBEq α] {items : List α} :
    items.eraseDups.length ≤ 1 ↔ ∀ left ∈ items, ∀ right ∈ items, left = right := by
  have distinct := nodup_eraseDups items
  have among (item : α) : item ∈ items ↔ item ∈ items.eraseDups := List.mem_eraseDups.symm
  generalize items.eraseDups = once at distinct among
  simp only [among]
  match once with
  | [] => simp
  | [item] => simp
  | front :: behind :: rest =>
    refine iff_of_false (by simp) fun single => ?_
    have equal := single front (by simp) behind (by simp)
    simp [equal] at distinct

/-- If every item of a list is repeated in its place, dropping the repetitions leaves items of the
list in their order. -/
theorem eraseDups_flatMap_sublist {α : Type u} [BEq α] [LawfulBEq α] {block : α → List α}
    (copies : ∀ item, ∀ copy ∈ block item, copy = item) {items : List α}
    (distinct : items.Nodup) : (items.flatMap block).eraseDups.Sublist items := by
  induction items with
  | nil => exact .refl _
  | cons item rest inductionHypothesis =>
    obtain ⟨absent, distinct⟩ := List.nodup_cons.1 distinct
    have others := inductionHypothesis distinct
    rw [List.flatMap_cons]
    cases repeated : block item with
    | nil => exact others.cons item
    | cons copy remaining =>
      obtain ⟨rfl, same⟩ := List.forall_mem_cons.1 (repeated ▸ copies item)
      have kept : (rest.flatMap block).filter (fun other => !other == copy) =
          rest.flatMap block := by
        rw [List.filter_eq_self]
        intro other member
        obtain ⟨owner, inside, copied⟩ := List.mem_flatMap.1 member
        obtain rfl := copies owner other copied
        simpa using fun equal : other = copy => absent (equal ▸ inside)
      have dropped : remaining.filter (fun other => !other == copy) = [] := by
        rw [List.filter_eq_nil_iff]
        intro other member
        simp [same other member]
      rw [List.cons_append, List.eraseDups_cons, List.filter_append, dropped, kept, List.nil_append]
      exact others.cons_cons copy

/-- The values without repetitions, written as the removal of repetitions of the library. -/
theorem firstAppearances_eq (values : List Value) :
    firstAppearances values = values.eraseDupsBy fun value earlier => earlier.same value := by
  have general (seen : List Value) :
      values.foldl
          (fun seen value =>
            if seen.any fun earlier => earlier.same value then seen else seen ++ [value]) seen =
        seen ++ (values.filter fun value =>
          !seen.any fun earlier => earlier.same value).eraseDupsBy
            fun value earlier => earlier.same value := by
    induction values generalizing seen with
    | nil => simp
    | cons value rest inductionHypothesis =>
      rw [List.foldl_cons, inductionHypothesis]
      by_cases known : seen.any fun earlier => earlier.same value
      · simp [known]
      · rw [if_neg known, List.filter_cons_of_pos (by simpa using known),
          List.eraseDupsBy_cons, List.filter_filter, List.append_assoc]
        simp [Bool.and_comm]
  rw [firstAppearances, general]
  simp

/-- References without repetitions. -/
theorem firstAppearances_map_entity :
    (refs : List EntityRef) →
      firstAppearances (refs.map .entity) = refs.eraseDups.map .entity
  | [] => rfl
  | first :: rest => by
    have others := firstAppearances_map_entity (rest.filter fun other => !other == first)
    rw [firstAppearances_eq] at others
    rw [firstAppearances_eq, List.map_cons, List.eraseDupsBy_cons, List.filter_map,
      List.eraseDups_cons, List.map_cons, ← others]
    congr 3
    refine List.filter_congr fun other _ => ?_
    have equal : Value.same (.entity first) (.entity other) = (first == other) := by
      simp only [Value.same]
    rw [Function.comp_apply, equal]
    by_cases same : first = other
    · simp [same]
    · simp [same, Ne.symm same]
termination_by refs => refs.length
decreasing_by exact Nat.lt_succ_of_le (List.length_filter_le _ _)

/-- Whether a condition comes out true. -/
def holds (outcome : Except ExecutionError Value) : Bool :=
  match outcome with
  | .ok value => value.isTrue
  | .error _ => false

@[simp] theorem holds_ok (value : Value) : holds (.ok value) = value.isTrue := rfl

@[simp] theorem holds_error (error : ExecutionError) : holds (.error error) = false := rfl

@[simp] theorem isTrue_bool (b : Bool) : (Value.bool b).isTrue = b := by
  cases b <;> rfl

/-- What is kept are the items whose condition comes out true. -/
theorem eq_filter_of_keep {α : Type} {condition : α → Except ExecutionError Value}
    {items kept : List α} (done : keep condition items = .ok kept) :
    kept = items.filter fun item => holds (condition item) := by
  induction items generalizing kept with
  | nil =>
    cases done
    rfl
  | cons item rest inductionHypothesis =>
    simp only [keep, bind_eq_ok_iff] at done
    obtain ⟨value, evaluated, others, keptOthers, same⟩ := done
    cases same
    rw [List.filter_cons, ← inductionHypothesis keptOthers, evaluated]
    rfl

/-- Items whose conditions all have values can be kept or left. -/
theorem exists_keep {α : Type} {condition : α → Except ExecutionError Value} {items : List α}
    (each : ∀ item ∈ items, ∃ value, condition item = .ok value) :
    ∃ kept, keep condition items = .ok kept := by
  induction items with
  | nil => exact ⟨[], rfl⟩
  | cons item rest inductionHypothesis =>
    obtain ⟨value, evaluated⟩ := each item List.mem_cons_self
    obtain ⟨kept, keptRest⟩ :=
      inductionHypothesis fun other member => each other (List.mem_cons_of_mem _ member)
    exact ⟨if value.isTrue then item :: kept else kept,
      bind_eq_ok_iff.2 ⟨value, evaluated, bind_eq_ok_iff.2 ⟨kept, keptRest, rfl⟩⟩⟩

namespace Bindings

/-- What an alias is bound to, null if it is not bound. -/
def value (row : Bindings) (name : Alias) : Value :=
  (row.lookup name.index).getD .null

/-- A value that is found is the value. -/
theorem value_eq_of_get {row : Bindings} {name : Alias} {found : Value}
    (got : row.get name = .ok found) : row.value name = found := by
  unfold get at got
  unfold value
  split at got
  · next bound =>
    cases got
    simp [bound]
  · cases got

/-- The alias that was bound last has its value. -/
@[simp] theorem lookup_bind_self (row : Bindings) (name : Alias) (value : Value) :
    (row.bind name value).lookup name.index = some value := by
  simp [bind]

/-- Binding an alias leaves the others alone. -/
theorem lookup_bind_of_ne {row : Bindings} {name : Alias} {index : Nat} {value : Value}
    (different : index ≠ name.index) : (row.bind name value).lookup index = row.lookup index := by
  rw [bind, lookup_cons_eq, if_neg different]

@[simp] theorem value_bind_self (row : Bindings) (name : Alias) (value : Value) :
    (row.bind name value).value name = value := by
  simp [Bindings.value]

end Bindings

end EntityGraph
