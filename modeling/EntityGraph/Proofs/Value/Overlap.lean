import EntityGraph.Proofs.Value.Equality
import Mathlib

/-!
# Equality as an overlap of leaves

What a collection is made of in the end are its leaves, the values in it that are no collections
themselves. Two values are equal in a predicate if a leaf of the one equals a leaf of the other,
so the order of the sides does not matter, nor how deep either is nested. The comparison can also
be carried out by taking either side apart and putting its items on the left: although the sides
change places then, each step takes a level off one of them, so it comes to an end.
-/

namespace EntityGraph

namespace Value

/-! ## Leaves -/

mutual

/-- The leaves of a value in their order. What is no collection is its own only leaf. -/
def leaves : Value → List Value
  | .array items => itemLeaves items
  | value => [value]

/-- The leaves of several values. -/
def itemLeaves : List Value → List Value
  | [] => []
  | item :: rest => leaves item ++ itemLeaves rest

end

theorem itemLeaves_eq_flatMap (items : List Value) : itemLeaves items = items.flatMap leaves := by
  induction items with
  | nil => rfl
  | cons item rest inductionHypothesis =>
    rw [itemLeaves, inductionHypothesis, List.flatMap_cons]

/-- The leaves of a collection are those of its items. -/
theorem mem_leaves_array_iff {leaf : Value} {items : List Value} :
    leaf ∈ (Value.array items).leaves ↔ ∃ item ∈ items, leaf ∈ item.leaves := by
  rw [leaves, itemLeaves_eq_flatMap, List.mem_flatMap]

/-- What is no collection is its own only leaf. -/
theorem leaves_eq_self {value : Value} (leaf : ∀ items, value ≠ .array items) :
    value.leaves = [value] := by
  cases value with
  | array items => exact absurd rfl (leaf items)
  | _ => rfl

/-- Whether two doubles are one number. What is not a number is none, and the two zeros are one. -/
def SameNumber (left right : Float) : Prop :=
  left ≠ Float.nan ∧ right ≠ Float.nan ∧
    (left = right ∨ left = 0 ∧ right = -0 ∨ left = -0 ∧ right = 0)

/-- When a leaf equals a leaf. Beside a double an integer is the double that it converts to, beside
a text a constant is its name, and beside an identifier a text is the identifier that it writes. Two
doubles are one number, and any other two leaves are the same. -/
inductive EqualLeaf : Value → Value → Prop where
  | intFloat {n : Int} {x : Float} (same : SameNumber (Float.ofInt n) x) :
    EqualLeaf (.int n) (.float x)
  | floatInt {x : Float} {n : Int} (same : SameNumber x (Float.ofInt n)) :
    EqualLeaf (.float x) (.int n)
  | enumString (enumType constant : String) : EqualLeaf (.enum enumType constant) (.string constant)
  | stringEnum (enumType constant : String) : EqualLeaf (.string constant) (.enum enumType constant)
  | uuidString {id : Uuid} {text : String} (written : Uuid.ofText? text = some id) :
    EqualLeaf (.uuid id) (.string text)
  | stringUuid {id : Uuid} {text : String} (written : Uuid.ofText? text = some id) :
    EqualLeaf (.string text) (.uuid id)
  | floats {x y : Float} (same : SameNumber x y) : EqualLeaf (.float x) (.float y)
  | same {value : Value} (notFloat : ∀ x, value ≠ .float x) : EqualLeaf value value

/-- Whether two values have leaves that are not null and equal each other. -/
def Overlap (left right : Value) : Prop :=
  ∃ one ∈ left.leaves, ∃ other ∈ right.leaves,
    one ≠ .null ∧ other ≠ .null ∧ EqualLeaf one other

theorem SameNumber.symm {left right : Float} (same : SameNumber left right) :
    SameNumber right left := by
  obtain ⟨leftNumber, rightNumber, equal | ⟨zero, negative⟩ | ⟨negative, zero⟩⟩ := same
  · exact ⟨rightNumber, leftNumber, .inl equal.symm⟩
  · exact ⟨rightNumber, leftNumber, .inr (.inr ⟨negative, zero⟩)⟩
  · exact ⟨rightNumber, leftNumber, .inr (.inl ⟨zero, negative⟩)⟩

theorem EqualLeaf.symm {left right : Value} (equal : EqualLeaf left right) :
    EqualLeaf right left := by
  cases equal with
  | intFloat same => exact .floatInt same.symm
  | floatInt same => exact .intFloat same.symm
  | enumString => exact .stringEnum _ _
  | stringEnum => exact .enumString _ _
  | uuidString written => exact .stringUuid written
  | stringUuid written => exact .uuidString written
  | floats same => exact .floats same.symm
  | same notFloat => exact .same notFloat

theorem Overlap.symm {left right : Value} (overlap : Overlap left right) : Overlap right left := by
  obtain ⟨one, ofLeft, other, ofRight, known, knownOther, equal⟩ := overlap
  exact ⟨other, ofRight, one, ofLeft, knownOther, known, equal.symm⟩

/-- The order of the sides does not matter for an overlap. -/
theorem overlap_comm {left right : Value} : Overlap left right ↔ Overlap right left :=
  ⟨.symm, .symm⟩

/-- A collection overlaps with what one of its items overlaps with. -/
theorem overlap_array_left_iff {items : List Value} {right : Value} :
    Overlap (.array items) right ↔ ∃ item ∈ items, Overlap item right := by
  constructor
  · rintro ⟨one, ofItems, further⟩
    obtain ⟨item, member, ofItem⟩ := mem_leaves_array_iff.1 ofItems
    exact ⟨item, member, one, ofItem, further⟩
  · rintro ⟨item, member, one, ofItem, further⟩
    exact ⟨one, mem_leaves_array_iff.2 ⟨item, member, ofItem⟩, further⟩

theorem overlap_array_right_iff {left : Value} {items : List Value} :
    Overlap left (.array items) ↔ ∃ item ∈ items, Overlap left item := by
  rw [overlap_comm, overlap_array_left_iff]
  exact exists_congr fun _ => and_congr_right fun _ => overlap_comm

/-! ## Equality of leaves -/

/-- Doubles are compared as numbers. -/
theorem beq_iff_sameNumber {left right : Float} : (left == right) = true ↔ SameNumber left right :=
  Float.beq_iff_ne_nan_and_eq

/-- Only itself is the same as a value that is neither a collection nor a double. -/
theorem eq_of_same {left right : Value} (leaf : ∀ items, left ≠ .array items)
    (notFloat : ∀ x, left ≠ .float x) (same : left.same right = true) : left = right := by
  cases left with
  | array items => exact absurd rfl (leaf items)
  | float x => exact absurd rfl (notFloat x)
  | _ => cases right <;> simp_all [Value.same]

/-- A leaf equals what is the same. -/
theorem equalLeaf_of_same {left right : Value} (leaf : ∀ items, left ≠ .array items)
    (same : left.same right = true) : EqualLeaf left right := by
  cases left with
  | float x =>
    cases right with
    | float y => exact .floats (beq_iff_sameNumber.1 same)
    | _ => cases same
  | _ =>
    obtain rfl := eq_of_same leaf (by simp) same
    exact .same (by simp)

/-- A leaf is compared as equal if neither side is null and it equals the other. -/
theorem leafEquals_iff {left right : Value} (leaf : ∀ items, left ≠ .array items) :
    leafEquals left right = true ↔ left ≠ .null ∧ right ≠ .null ∧ EqualLeaf left right := by
  constructor
  · intro equal
    unfold leafEquals at equal
    split at equal
    · cases equal
    · cases equal
    · exact ⟨by simp, by simp, .intFloat (beq_iff_sameNumber.1 equal)⟩
    · exact ⟨by simp, by simp, .floatInt (beq_iff_sameNumber.1 equal).symm⟩
    · cases beq_iff_eq.1 equal
      exact ⟨by simp, by simp, .enumString _ _⟩
    · cases beq_iff_eq.1 equal
      exact ⟨by simp, by simp, .stringEnum _ _⟩
    · exact ⟨by simp, by simp, .uuidString (beq_iff_eq.1 equal)⟩
    · exact ⟨by simp, by simp, .stringUuid (beq_iff_eq.1 equal)⟩
    · next known knownRight _ _ _ _ _ _ => exact ⟨known, knownRight, equalLeaf_of_same leaf equal⟩
  · rintro ⟨known, -, equal⟩
    cases equal with
    | intFloat same => exact beq_iff_sameNumber.2 same
    | floatInt same => exact beq_iff_sameNumber.2 same.symm
    | enumString => exact beq_self_eq_true _
    | stringEnum => exact beq_self_eq_true _
    | uuidString written => exact beq_iff_eq.2 written
    | stringUuid written => exact beq_iff_eq.2 written
    | floats same => exact beq_iff_sameNumber.2 same
    | same notFloat =>
      cases left with
      | null => exact absurd rfl known
      | float x => exact absurd rfl (notFloat x)
      | array items => exact absurd rfl (leaf items)
      | _ => simp [leafEquals, Value.same]

/-! ## Equality of values -/

/-- Two leaves are equal as they are compared. -/
theorem equals_of_leaves {left right : Value} (leaf : ∀ items, left ≠ .array items)
    (leafRight : ∀ items, right ≠ .array items) : left.equals right = leafEquals left right := by
  rw [equals_eq_equalsRight leaf]
  cases right with
  | array items => exact absurd rfl (leafRight items)
  | _ => rfl

/-- Values are equal in a predicate exactly if they overlap. -/
theorem equals_iff_overlap {left right : Value} :
    left.equals right = true ↔ Overlap left right := by
  -- The left side is taken apart first, then the right one beside a leaf of the left.
  induction left using nestedInduction with
  | array items each =>
    rw [equals_array_left, List.any_eq_true, overlap_array_left_iff]
    exact exists_congr fun item => and_congr_right (each item)
  | leaf left leaf =>
    induction right using nestedInduction with
    | array items each =>
      rw [equals_array_right, List.any_eq_true, overlap_array_right_iff]
      exact exists_congr fun item => and_congr_right (each item)
    | leaf right leafRight =>
      rw [equals_of_leaves leaf leafRight, leafEquals_iff leaf]
      simp only [Overlap, leaves_eq_self leaf, leaves_eq_self leafRight, List.mem_singleton,
        exists_eq_left]

/-- The order of the sides does not matter for equality. -/
theorem equals_comm (left right : Value) : left.equals right = right.equals left := by
  rw [Bool.eq_iff_iff, equals_iff_overlap, equals_iff_overlap, overlap_comm]

/-! ## The course of a comparison -/

/-- Whether two values are equal, as far as so many nested comparisons tell. Null settles it. A
collection is taken apart, the left one if there are two, and its items are put on the left of the
other side one after another until one is equal. -/
def equalsWithin : Nat → Value → Value → Option Bool
  | 0, _, _ => none
  | _ + 1, .null, _ => some false
  | _ + 1, _, .null => some false
  | nested + 1, .array items, other => items.anyM fun item => equalsWithin nested item other
  | nested + 1, other, .array items => items.anyM fun item => equalsWithin nested item other
  | _ + 1, left, right => some (leafEquals left right)

mutual

/-- How deep collections are nested in a value. -/
def depth : Value → Nat
  | .array items => itemDepth items + 1
  | _ => 0

/-- How deep collections are nested in several values. -/
def itemDepth : List Value → Nat
  | [] => 0
  | item :: rest => max (depth item) (itemDepth rest)

end

theorem depth_le_itemDepth {item : Value} {items : List Value} (member : item ∈ items) :
    item.depth ≤ itemDepth items := by
  induction items with
  | nil => cases member
  | cons first rest inductionHypothesis =>
    rw [itemDepth]
    rcases List.mem_cons.1 member with rfl | later
    · exact Nat.le_max_left ..
    · exact (inductionHypothesis later).trans (Nat.le_max_right ..)

/-- An item is nested less deep than its collection. -/
theorem depth_lt_of_mem {item : Value} {items : List Value} (member : item ∈ items) :
    item.depth < (Value.array items).depth := by
  rw [depth]
  exact Nat.lt_succ_of_le (depth_le_itemDepth member)

/-- A search among items that are all tested finds what is there. -/
theorem anyM_eq_some_any {items : List Value} {test : Value → Option Bool} {passes : Value → Bool}
    (tested : ∀ item ∈ items, test item = some (passes item)) :
    items.anyM test = some (items.any passes) := by
  induction items with
  | nil => rfl
  | cons item rest inductionHypothesis =>
    rw [List.forall_mem_cons] at tested
    rw [List.anyM_cons, tested.1, List.any_cons, inductionHypothesis tested.2]
    cases passes item <;> rfl

/-- A comparison comes to an end with the answer, nested no deeper than both sides together. -/
theorem equalsWithin_eq_some {nested : Nat} {left right : Value}
    (enough : left.depth + right.depth < nested) :
    equalsWithin nested left right = some (left.equals right) := by
  fun_induction equalsWithin nested left right with
  | case1 => cases enough
  | case2 => rw [equals_null_left]
  | case3 nested left => rw [equals_comm, equals_null_left]
  | case4 nested items right known inductionHypothesis =>
    rw [equals_array_left]
    refine anyM_eq_some_any fun item member => inductionHypothesis item ?_
    have less := depth_lt_of_mem member
    omega
  | case5 nested left items known leaf inductionHypothesis =>
    -- The sides change places. The left one is a leaf, so what gets less deep is the right one.
    rw [equals_comm, equals_array_left]
    refine anyM_eq_some_any fun item member => inductionHypothesis item ?_
    have less := depth_lt_of_mem member
    omega
  | case6 nested left right known knownRight leaf leafRight =>
    rw [equals_of_leaves leaf leafRight]

/-- Equality in predicates does not depend on the order of the sides and means that a leaf of the
one equals a leaf of the other, null left out. Carried out by taking collections apart on either
side, it comes to an end with this answer, in comparisons that are nested no deeper than both sides
together. -/
theorem equality_is_overlap_of_leaves (left right : Value) :
    (∀ nested, left.depth + right.depth < nested →
        equalsWithin nested left right = some (left.equals right)) ∧
      left.equals right = right.equals left ∧
      (left.equals right = true ↔
        ∃ one ∈ left.leaves, ∃ other ∈ right.leaves,
          one ≠ .null ∧ other ≠ .null ∧ EqualLeaf one other) :=
  ⟨fun _ enough => equalsWithin_eq_some enough, equals_comm left right, equals_iff_overlap⟩

/-- A whole number that no double is, in a collection with others. -/
def wholeNumbers : Value :=
  .array [.null, .array [.string "7", .int 9007199254740993]]

/-- The double next to that number, two collections deep. -/
def roundedNumbers : Value :=
  .array [.array [], .array [.null, .array [.float 9007199254740992.0]]]

/-- The whole number overlaps with the double that it is rounded to, and the nulls do not matter. -/
theorem whole_numbers_overlap_rounded_ones :
    wholeNumbers.depth + roundedNumbers.depth < 6 ∧
      equalsWithin 6 wholeNumbers roundedNumbers = some true ∧
      roundedNumbers.equals wholeNumbers = true := by
  obtain ⟨course, swapped, overlap⟩ := equality_is_overlap_of_leaves wholeNumbers roundedNumbers
  have equal : wholeNumbers.equals roundedNumbers = true := by
    refine overlap.2 ⟨.int 9007199254740993, ?_, .float 9007199254740992.0, ?_, by simp, by simp,
      .intFloat (beq_iff_sameNumber.1 ?_)⟩
    · simp [wholeNumbers, leaves, itemLeaves]
    · simp [roundedNumbers, leaves, itemLeaves]
    · decide +kernel
  refine ⟨by decide, ?_, ?_⟩
  · rw [course 6 (by decide), equal]
  · rw [← swapped, equal]

end Value

end EntityGraph
