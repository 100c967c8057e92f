import EntityGraph.Value.Basic

/-!
# Equality in predicates

A collection equals whatever one of its items equals, on either side, and null equals
nothing. So a predicate that compares a value compares each of the elements that the value
leads to.
-/

namespace EntityGraph

namespace Value

/-- Induction over values and the items of collections. -/
theorem nestedInduction {motive : Value → Prop}
    (leaf : ∀ value, (∀ items, value ≠ .array items) → motive value)
    (array : ∀ items, (∀ item ∈ items, motive item) → motive (.array items)) :
    ∀ value, motive value :=
  Value.rec (motive_1 := motive) (motive_2 := fun items => ∀ item ∈ items, motive item)
    (leaf _ (by simp)) (fun _ => leaf _ (by simp)) (fun _ => leaf _ (by simp))
    (fun _ => leaf _ (by simp)) (fun _ => leaf _ (by simp)) (fun _ => leaf _ (by simp))
    (fun _ _ => leaf _ (by simp)) (fun items each => array items each)
    (fun _ => leaf _ (by simp)) (by simp)
    (fun _ _ first others => List.forall_mem_cons.2 ⟨first, others⟩)

/-- One of several values equals a value. -/
theorem someEquals_eq_any (lefts : List Value) (right : Value) :
    someEquals lefts right = lefts.any fun left => left.equals right := by
  induction lefts with
  | nil => rfl
  | cons left rest inductionHypothesis =>
    rw [someEquals, List.any_cons, inductionHypothesis]

/-- A value equals one of several values. -/
theorem equalsSome_eq_any (left : Value) (rights : List Value) :
    equalsSome left rights = rights.any fun right => equalsRight left right := by
  induction rights with
  | nil => rfl
  | cons right rest inductionHypothesis =>
    rw [equalsSome, List.any_cons, inductionHypothesis]

/-- A collection equals what one of its items equals. -/
theorem equals_array_left (items : List Value) (right : Value) :
    equals (.array items) right = items.any fun item => item.equals right := by
  rw [equals, someEquals_eq_any]

/-- What is no collection is compared with the leaves of the right side. -/
theorem equals_eq_equalsRight {left : Value} (leaf : ∀ items, left ≠ .array items)
    (right : Value) : equals left right = equalsRight left right := by
  cases left with
  | array items => exact absurd rfl (leaf items)
  | _ => rfl

/-- A value equals a collection if it equals one of its items. -/
theorem equals_array_right (left : Value) (items : List Value) :
    left.equals (.array items) = items.any fun item => left.equals item := by
  induction left using nestedInduction with
  | leaf left leaf =>
    rw [equals_eq_equalsRight leaf, equalsRight, equalsSome_eq_any]
    simp only [equals_eq_equalsRight leaf]
  | array lefts each =>
    rw [equals_array_left, Bool.eq_iff_iff]
    simp only [List.any_eq_true, equals_array_left]
    constructor
    · rintro ⟨left, member, equal⟩
      rw [each left member, List.any_eq_true] at equal
      obtain ⟨item, present, same⟩ := equal
      exact ⟨item, present, left, member, same⟩
    · rintro ⟨item, present, left, member, same⟩
      refine ⟨left, member, ?_⟩
      rw [each left member, List.any_eq_true]
      exact ⟨item, present, same⟩

/-- Null equals nothing. -/
@[simp] theorem equals_null_left (right : Value) : equals .null right = false := by
  induction right using nestedInduction with
  | leaf right leaf =>
    cases right with
    | array items => exact absurd rfl (leaf items)
    | _ => rfl
  | array items each =>
    rw [equals_array_right, List.any_eq_false]
    intro item member
    simp [each item member]

/-- A value equals another in a predicate if one of its elements does. -/
theorem equals_eq_any_elements (left right : Value) :
    left.equals right = left.elements.any fun element => element.equals right := by
  cases left with
  | null => simp [elements]
  | array items => rw [equals_array_left, elements]
  | _ => simp [elements]

/-- Only the same reference is the same value as a reference. -/
@[simp] theorem same_entity_iff {value : Value} {ref : EntityRef} :
    value.same (.entity ref) = true ↔ value = .entity ref := by
  cases value <;> simp [same]

/-- References are equal in a predicate if they are the same. -/
theorem equals_entity_iff {left right : EntityRef} :
    (Value.entity left).equals (.entity right) = true ↔ left = right := by
  simp [equals, equalsRight, leafEquals, same]

/-- Identifiers are equal in a predicate if they are the same. -/
theorem equals_uuid_iff {left right : Uuid} :
    (Value.uuid left).equals (.uuid right) = true ↔ left = right := by
  simp [equals, equalsRight, leafEquals, same]

/-- Strings are equal in a predicate if they are the same. -/
theorem equals_string_iff {left right : String} :
    (Value.string left).equals (.string right) = true ↔ left = right := by
  simp [equals, equalsRight, leafEquals, same]

/-- Integers are equal in a predicate if they are the same. -/
theorem equals_int_iff {left right : Int} :
    (Value.int left).equals (.int right) = true ↔ left = right := by
  simp [equals, equalsRight, leafEquals, same]

end Value

end EntityGraph
