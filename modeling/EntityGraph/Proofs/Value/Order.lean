import EntityGraph.Plan.Evaluation
import EntityGraph.Proofs.Doubles
import EntityGraph.Proofs.Sorting
import EntityGraph.Proofs.Value.Typing
import Mathlib.Data.List.Forall2

/-!
# The order of keys

Values of one type are totally ordered up to ties, null behind all others and collections
tied with each other. The same holds of lists of keys that have the same types, whatever
their directions, so that sorting by keys is sorting by a strict weak order.
-/

namespace EntityGraph

open Std

universe u

/-- An ordering read in a direction. -/
def Direction.directed (direction : Direction) (ordering : Ordering) : Ordering :=
  match direction with
  | .ascending => ordering
  | .descending => ordering.swap

/-- A comparison that orders the items with some property totally, up to ties. -/
structure TotalOn {α : Type u} (order : α → α → Ordering) (member : α → Prop) : Prop where
  swap : ∀ {left right}, member left → member right → order right left = (order left right).swap
  trans : ∀ {left middle right}, member left → member middle → member right →
    (order left middle).isLE = true → (order middle right).isLE = true →
      (order left right).isLE = true

namespace TotalOn

variable {α : Type u} {order : α → α → Ordering} {member : α → Prop}

/-- What orders some items orders each part of them. -/
theorem mono (total : TotalOn order member) {fewer : α → Prop}
    (part : ∀ item, fewer item → member item) : TotalOn order fewer where
  swap left right := total.swap (part _ left) (part _ right)
  trans left middle right := total.trans (part _ left) (part _ middle) (part _ right)

/-- What comes first comes first of whatever follows the other. -/
theorem lt_of_lt_of_le (total : TotalOn order member) {left middle right : α}
    (memberLeft : member left) (memberMiddle : member middle) (memberRight : member right)
    (less : order left middle = .lt) (atMost : (order middle right).isLE = true) :
    order left right = .lt := by
  have back := total.trans memberMiddle memberRight memberLeft atMost
  rw [total.swap memberLeft memberMiddle, total.swap memberLeft memberRight, less] at back
  cases known : order left right with
  | lt => rfl
  | _ =>
    rw [known] at back
    exact absurd (back rfl) (by decide)

theorem lt_of_le_of_lt (total : TotalOn order member) {left middle right : α}
    (memberLeft : member left) (memberMiddle : member middle) (memberRight : member right)
    (atMost : (order left middle).isLE = true) (less : order middle right = .lt) :
    order left right = .lt := by
  have back := fun known => total.trans memberRight memberLeft memberMiddle known atMost
  rw [total.swap memberMiddle memberRight, total.swap memberLeft memberRight, less] at back
  cases known : order left right with
  | lt => rfl
  | _ =>
    rw [known] at back
    exact absurd (back rfl) (by decide)

/-- A total order read in either direction is total. -/
theorem directed (total : TotalOn order member) (direction : Direction) :
    TotalOn (fun left right => direction.directed (order left right)) member := by
  cases direction with
  | ascending => exact total
  | descending =>
    refine ⟨fun {left right} memberLeft memberRight => ?_,
      fun {left middle right} memberLeft memberMiddle memberRight first second => ?_⟩
    · exact congrArg Ordering.swap (total.swap memberLeft memberRight)
    · simp only [Direction.directed] at first second ⊢
      rw [← total.swap memberLeft memberMiddle] at first
      rw [← total.swap memberMiddle memberRight] at second
      rw [← total.swap memberLeft memberRight]
      exact total.trans memberRight memberMiddle memberLeft second first

/-- Pairs are totally ordered by their first parts and, where these are tied, by their second
parts. -/
theorem lex {β : Type u} (total : TotalOn order member) {also : β → β → Ordering}
    {memberAlso : β → Prop} (totalAlso : TotalOn also memberAlso) :
    TotalOn (fun left right : α × β => (order left.1 right.1).then (also left.2 right.2))
      fun pair => member pair.1 ∧ memberAlso pair.2 where
  swap left right := by
    rw [total.swap left.1 right.1, totalAlso.swap left.2 right.2, Ordering.swap_then]
  trans {left middle right} memberLeft memberMiddle memberRight first second := by
    rw [Ordering.isLE_then_iff_and] at first second ⊢
    refine ⟨total.trans memberLeft.1 memberMiddle.1 memberRight.1 first.1 second.1, ?_⟩
    rcases first.2 with less | first₂
    · exact .inl (total.lt_of_lt_of_le memberLeft.1 memberMiddle.1 memberRight.1 less second.1)
    · rcases second.2 with less | second₂
      · exact .inl (total.lt_of_le_of_lt memberLeft.1 memberMiddle.1 memberRight.1 first.1 less)
      · exact .inr (totalAlso.trans memberLeft.2 memberMiddle.2 memberRight.2 first₂ second₂)

/-- Coming first is a strict weak order. -/
theorem strictWeakOn (total : TotalOn order member) :
    StrictWeakOn (fun left right => order left right = .lt) member where
  asymmetric {left right} memberLeft memberRight less := by
    rw [decide_eq_true_eq] at less
    rw [decide_eq_false_iff_not, total.swap memberLeft memberRight, less]
    decide
  incomparable {left middle right} memberLeft memberMiddle memberRight first second := by
    have back {one other : α} (memberOne : member one) (memberOther : member other)
        (notLess : order one other ≠ .lt) : (order other one).isLE = true := by
      rw [total.swap memberOne memberOther]
      cases known : order one other with
      | lt => exact absurd known notLess
      | _ => rfl
    rw [decide_eq_false_iff_not] at first second ⊢
    intro less
    have least := total.trans memberRight memberMiddle memberLeft
      (back memberMiddle memberRight second) (back memberLeft memberMiddle first)
    rw [total.swap memberLeft memberRight, less] at least
    cases least

end TotalOn

/-! ## Doubles -/

namespace Doubles

open Float.Model (UnpackedFloat)

open Float.Model.UnpackedFloat

/-- The place of a double among the others: its class, its exponent and its significand. -/
def rank : UnpackedFloat → Int × Int × Int
  | .infinity .negative => (-2, 0, 0)
  | .finite .negative m e _ => (-1, -e, -m)
  | .zero _ | .notANumber => (0, 0, 0)
  | .finite .positive m e _ => (1, e, m)
  | .infinity .positive => (2, 0, 0)

/-- The order of the places. -/
def compareRanks : UnpackedFloat → UnpackedFloat → Ordering :=
  compareLex (compareOn fun f => (rank f).1)
    (compareLex (compareOn fun f => (rank f).2.1) (compareOn fun f => (rank f).2.2))

instance : TransCmp compareRanks :=
  inferInstanceAs (TransCmp (compareLex _ _))

theorem compare_neg (left right : Int) : compare (-left) (-right) = (compare left right).swap := by
  simp only [compare, compareOfLessAndEq]
  grind [Ordering.swap]

theorem compare_natCast (left right : Nat) :
    compare (left : Int) right = compare left right := by
  simp only [compare, compareOfLessAndEq]
  grind

/-- Doubles that are numbers are compared by their places. -/
theorem compare_eq_compareRanks {left right : UnpackedFloat} (leftNumber : left.isNaN = false)
    (rightNumber : right.isNaN = false) :
    left.compare right = some (compareRanks left right) := by
  cases left with
  | notANumber => cases leftNumber
  | finite leftSign m e positive =>
    cases right with
    | notANumber => cases rightNumber
    | finite rightSign n f positive =>
      cases leftSign <;> cases rightSign <;>
        simp [UnpackedFloat.compare, compareRanks, rank, compareLex, compareOn, compare_neg,
          compare_natCast, Ordering.swap_then]
      all_goals rfl
    | _ rightSign => cases leftSign <;> cases rightSign <;> rfl
  | _ leftSign =>
    cases right with
    | notANumber => cases rightNumber
    | _ rightSign => cases leftSign <;> cases rightSign <;> rfl

theorem lt_iff {left right : Float} (leftNumber : left.isNaN = false)
    (rightNumber : right.isNaN = false) :
    left < right ↔ compareRanks left.toModel.unpack right.toModel.unpack = .lt := by
  have unpacked : left < right ↔
      (left.toModel.unpack.compare right.toModel.unpack == some .lt) = true := by
    change (decide (left.toModel < right.toModel) = true) ↔ _
    rw [decide_eq_true_eq]
    rfl
  rw [unpacked, compare_eq_compareRanks leftNumber rightNumber]
  simp

/-- Doubles that are numbers are ordered by their places. -/
theorem compareFloats_eq {left right : Float} (leftNumber : left.isNaN = false)
    (rightNumber : right.isNaN = false) :
    compareFloats left right = compareRanks left.toModel.unpack right.toModel.unpack := by
  unfold compareFloats
  simp only [lt_iff leftNumber rightNumber, lt_iff rightNumber leftNumber]
  have swapped : compareRanks right.toModel.unpack left.toModel.unpack =
      (compareRanks left.toModel.unpack right.toModel.unpack).swap := OrientedCmp.eq_swap
  rw [swapped]
  cases compareRanks left.toModel.unpack right.toModel.unpack <;> rfl

end Doubles

/-! ## Values -/

namespace Value

variable {model : Model}

/-- Null comes behind every other value. -/
theorem compare_null_left {value : Value} (known : value ≠ .null) :
    Value.compare model .null value = .gt := by
  cases value with
  | null => exact absurd rfl known
  | _ => rfl

theorem compare_null_right {value : Value} (known : value ≠ .null) :
    Value.compare model value .null = .lt := by
  cases value with
  | null => exact absurd rfl known
  | _ => rfl

/-- Values of one kind are ordered with null among them if their contents are ordered. -/
theorem totalOn_of_contents (model : Model) {κ : Type} (order : κ → κ → Ordering)
    [TransCmp order] (wrap : κ → Value) (known : ∀ content, wrap content ≠ .null)
    (same : ∀ left right, Value.compare model (wrap left) (wrap right) = order left right) :
    TotalOn (Value.compare model) fun value =>
      value = .null ∨ ∃ content, value = wrap content where
  swap {left right} memberLeft memberRight := by
    rcases memberLeft with rfl | ⟨left, rfl⟩
    · rcases memberRight with rfl | ⟨right, rfl⟩
      · rfl
      · rw [compare_null_left (known right), compare_null_right (known right)]
        rfl
    · rcases memberRight with rfl | ⟨right, rfl⟩
      · rw [compare_null_left (known left), compare_null_right (known left)]
        rfl
      · rw [same, same]
        exact OrientedCmp.eq_swap
  trans {left middle right} memberLeft memberMiddle memberRight first second := by
    rcases memberRight with rfl | ⟨right, rfl⟩
    · rcases memberLeft with rfl | ⟨left, rfl⟩
      · rfl
      · rw [compare_null_right (known left)]
        rfl
    · rcases memberMiddle with rfl | ⟨middle, rfl⟩
      · rw [compare_null_left (known right)] at second
        cases second
      · rcases memberLeft with rfl | ⟨left, rfl⟩
        · rw [compare_null_left (known middle)] at first
          cases first
        · rw [same] at first second ⊢
          exact TransCmp.isLE_trans first second

theorem comparePositions_eq : comparePositions = Ord.compare := by
  funext left right
  cases left <;> cases right <;> rfl

/-- Doubles that are numbers are totally ordered up to ties. -/
instance : TransCmp fun left right : { x : Float // x.isNaN = false } =>
    compareFloats left.1 right.1 where
  eq_swap {left right} := by
    rw [Doubles.compareFloats_eq left.2 right.2, Doubles.compareFloats_eq right.2 left.2]
    exact OrientedCmp.eq_swap
  isLE_trans {left middle right} first second := by
    rw [Doubles.compareFloats_eq left.2 middle.2] at first
    rw [Doubles.compareFloats_eq middle.2 right.2] at second
    rw [Doubles.compareFloats_eq left.2 right.2]
    exact TransCmp.isLE_trans first second

/-- What a scalar that is not null contains, by its type. -/
theorem HasScalar.contents {scalar : ScalarType} {value : Value} (fits : value.HasScalar scalar)
    (known : value ≠ .null) :
    (scalar = .boolean ∧ ∃ b, value = .bool b) ∨
      (scalar.isIntegral = true ∧ ∃ n, value = .int n) ∨
      (scalar.isFractional = true ∧ ∃ x : { x : Float // x.isNaN = false }, value = .float x) ∨
      (scalar.isTextual = true ∧ ∃ s, value = .string s) ∨
      (scalar = .uuid ∧ ∃ id, value = .uuid id) := by
  cases value with
  | null => exact absurd rfl known
  | bool b => exact .inl ⟨fits, b, rfl⟩
  | int n => exact .inr (.inl ⟨fits, n, rfl⟩)
  | float x => exact .inr (.inr (.inl ⟨fits.1, ⟨x, fits.2⟩, rfl⟩))
  | string s => exact .inr (.inr (.inr (.inl ⟨fits, s, rfl⟩)))
  | uuid id => exact .inr (.inr (.inr (.inr ⟨fits, id, rfl⟩)))
  | _ => exact fits.elim

/-- Scalars of one type are totally ordered up to ties. -/
theorem totalOn_hasScalar (model : Model) (scalar : ScalarType) :
    TotalOn (Value.compare model) (HasScalar scalar) := by
  have bools := totalOn_of_contents model Ord.compare .bool (by simp) fun _ _ => rfl
  have ints := totalOn_of_contents model Ord.compare .int (by simp) fun _ _ => rfl
  have floats := totalOn_of_contents model
    (fun left right : { x : Float // x.isNaN = false } => compareFloats left.1 right.1)
    (fun x => .float x) (by simp) fun _ _ => rfl
  have strings := totalOn_of_contents model Ord.compare .string (by simp) fun _ _ => rfl
  have ids := totalOn_of_contents model (compareOn fun id => id.value.toNat) .uuid (by simp)
    fun _ _ => rfl
  have part {κ : Type} {wrap : κ → Value}
      (total : TotalOn (Value.compare model) fun value =>
        value = .null ∨ ∃ content, value = wrap content)
      (only : ∀ value, HasScalar scalar value → value ≠ .null → ∃ content, value = wrap content) :
      TotalOn (Value.compare model) (HasScalar scalar) :=
    total.mono fun value fits =>
      (Classical.em (value = .null)).imp_right (only value fits)
  have contents := fun value (fits : HasScalar scalar value) known => fits.contents known
  cases scalar
  all_goals
    simp only [ScalarType.isIntegral, ScalarType.isFractional, ScalarType.isTextual,
      reduceCtorEq, false_and, true_and, false_or, or_false] at contents
    first
      | exact part bools contents
      | exact part ints contents
      | exact part floats contents
      | exact part strings contents
      | exact part ids contents

/-- Values of an attribute that is not an association are totally ordered up to ties, null
included. -/
theorem totalOn_fits (model : Model) (stored : EntityRef → Prop) {type : AttributeType}
    (plain : type.isAssociation = false) :
    TotalOn (Value.compare model) fun value => value = .null ∨ value.Fits stored type := by
  cases type with
  | basic scalar =>
    refine (totalOn_hasScalar model scalar).mono fun value member => ?_
    rcases member with rfl | fits
    · trivial
    · exact fits
  | enum enumType =>
    have constants := totalOn_of_contents model (compareOn (model.enumPosition? enumType))
      (.enum enumType) (by simp) fun left right => by
        rw [Value.compare, comparePositions_eq]
        rfl
    refine constants.mono fun value member => ?_
    rcases member with rfl | fits
    · exact .inl rfl
    · exact fits
  | collection element =>
    have collections := totalOn_of_contents model (compareOn fun _ : List Value => ()) .array
      (by simp) fun _ _ => rfl
    exact collections
  | association => cases plain

end Value

/-! ## Keys -/

theorem compareKeys_cons (model : Model) (direction : Direction) (directions : List Direction)
    (left right : Value) (lefts rights : List Value) :
    compareKeys model (direction :: directions) (left :: lefts) (right :: rights) =
      (direction.directed (Value.compare model left right)).then
        (compareKeys model directions lefts rights) := by
  cases direction <;> rfl

/-- Lists of keys of the same types are totally ordered up to ties. -/
theorem totalOn_compareKeys (model : Model) (stored : EntityRef → Prop)
    (directions : List Direction) {types : List AttributeType}
    (plain : ∀ type ∈ types, type.isAssociation = false) :
    TotalOn (compareKeys model directions) fun keys =>
      List.Forall₂ (fun value type => value = .null ∨ value.Fits stored type) keys types := by
  induction directions generalizing types with
  | nil =>
    refine ⟨fun left right => ?_, fun left middle right _ _ => ?_⟩
    · simp [compareKeys]
    · simp [compareKeys]
  | cons direction directions inductionHypothesis =>
    cases types with
    | nil =>
      refine ⟨fun left right => ?_, fun left _ right _ _ => ?_⟩
      all_goals
        cases left
        cases right
        rfl
    | cons type types =>
      rw [List.forall_mem_cons] at plain
      have pairs := ((Value.totalOn_fits model stored plain.1).directed direction).lex
        (inductionHypothesis plain.2)
      refine ⟨fun left right => ?_, fun left middle right first second => ?_⟩
      · obtain ⟨value, values, fits, others, rfl⟩ := List.forall₂_cons_right_iff.1 left
        obtain ⟨other, rest, fitsOther, othersToo, rfl⟩ := List.forall₂_cons_right_iff.1 right
        rw [compareKeys_cons, compareKeys_cons]
        exact @pairs.swap (value, values) (other, rest) ⟨fits, others⟩ ⟨fitsOther, othersToo⟩
      · obtain ⟨value, values, fits, others, rfl⟩ := List.forall₂_cons_right_iff.1 left
        obtain ⟨other, rest, fitsOther, othersToo, rfl⟩ := List.forall₂_cons_right_iff.1 middle
        obtain ⟨last, remaining, fitsLast, othersLast, rfl⟩ := List.forall₂_cons_right_iff.1 right
        rw [compareKeys_cons] at first second ⊢
        exact @pairs.trans (value, values) (other, rest) (last, remaining) ⟨fits, others⟩
          ⟨fitsOther, othersToo⟩ ⟨fitsLast, othersLast⟩ first second

end EntityGraph
