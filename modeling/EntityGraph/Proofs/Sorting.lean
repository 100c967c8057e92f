import EntityGraph.Sorting
import Mathlib.Data.List.Basic

/-!
# Stable sorting under a weak order

Sorting permutes a list whatever it compares by. If the comparison is a strict weak order
on the items, the sorted list also depends on each part of the list by itself: leaving
items out before sorting leaves out the same items after it. So items that are tied keep
their places relative to each other.
-/

namespace EntityGraph

universe u

variable {α : Type u} {before : α → α → Bool}

/-- The item and the list are what an insertion puts together. -/
theorem insertSorted_perm (before : α → α → Bool) (item : α) (sorted : List α) :
    (insertSorted before item sorted).Perm (item :: sorted) := by
  induction sorted with
  | nil => exact .refl _
  | cons other rest inductionHypothesis =>
    simp only [insertSorted]
    split
    · exact (inductionHypothesis.cons other).trans (.swap item other rest)
    · exact .refl _

theorem foldl_insertSorted_perm (before : α → α → Bool) (items sorted : List α) :
    (items.foldl (fun sorted item => insertSorted before item sorted) sorted).Perm
      (items ++ sorted) := by
  induction items generalizing sorted with
  | nil => exact .refl _
  | cons item rest inductionHypothesis =>
    rw [List.foldl_cons, List.cons_append]
    refine (inductionHypothesis _).trans ?_
    exact ((insertSorted_perm before item sorted).append_left rest).trans List.perm_middle

/-- Sorting changes nothing but the order. -/
theorem sortStable_perm (before : α → α → Bool) (items : List α) :
    (sortStable before items).Perm items := by
  have folded := foldl_insertSorted_perm before items []
  rw [List.append_nil] at folded
  exact (List.reverse_perm _).trans folded

/-- Items of which none comes before another are sorted as they stand. -/
theorem sortStable_of_ties {items : List α}
    (never : ∀ left ∈ items, ∀ right ∈ items, before left right = false) :
    sortStable before items = items := by
  have inserted {item : α} {sorted : List α} (each : ∀ other ∈ sorted, before item other = false) :
      insertSorted before item sorted = item :: sorted := by
    cases sorted with
    | nil => rfl
    | cons other rest => simp [insertSorted, each]
  have folded (rest sorted : List α)
      (ties : ∀ left ∈ rest, ∀ right ∈ rest ++ sorted, before left right = false) :
      rest.foldl (fun sorted item => insertSorted before item sorted) sorted =
        rest.reverse ++ sorted := by
    induction rest generalizing sorted with
    | nil => rfl
    | cons item rest inductionHypothesis =>
      have first := ties item List.mem_cons_self
      rw [List.foldl_cons, inserted fun other member =>
        first other (List.mem_append_right _ member), inductionHypothesis]
      · simp
      · intro left member right among
        refine ties left (List.mem_cons_of_mem _ member) right ?_
        simp only [List.mem_append, List.mem_cons] at among ⊢
        tauto
  rw [sortStable, folded items [] (by simpa using never), List.append_nil, List.reverse_reverse]

/-- Items that never come before each other are sorted as they stand. -/
theorem sortStable_eq_self (never : ∀ left right, before left right = false) (items : List α) :
    sortStable before items = items :=
  sortStable_of_ties fun left _ right _ => never left right

/-- A comparison that is a strict weak order on the items with some property. -/
structure StrictWeakOn (before : α → α → Bool) (member : α → Prop) : Prop where
  asymmetric : ∀ {left right}, member left → member right →
    before left right = true → before right left = false
  incomparable : ∀ {left middle right}, member left → member middle → member right →
    before left middle = false → before middle right = false → before left right = false

namespace StrictWeakOn

variable {member : α → Prop}

/-- No item in front comes before one behind it. -/
def Descending (before : α → α → Bool) (sorted : List α) : Prop :=
  sorted.Pairwise fun front behind => before front behind = false

/-- An insertion keeps a list descending. -/
theorem descending_insertSorted (order : StrictWeakOn before member) {item : α}
    {sorted : List α} (memberItem : member item) (members : ∀ other ∈ sorted, member other)
    (descending : Descending before sorted) :
    Descending before (insertSorted before item sorted) := by
  induction sorted with
  | nil => exact List.pairwise_singleton _ _
  | cons other rest inductionHypothesis =>
    obtain ⟨behind, tail⟩ := List.pairwise_cons.1 descending
    have memberOther := members other List.mem_cons_self
    have memberRest : ∀ last ∈ rest, member last := fun last present =>
      members last (List.mem_cons_of_mem _ present)
    simp only [insertSorted]
    split
    · next less =>
      refine List.pairwise_cons.2 ⟨fun last present => ?_, inductionHypothesis memberRest tail⟩
      rcases List.mem_cons.1 ((insertSorted_perm before item rest).mem_iff.1 present) with
        rfl | present
      · exact order.asymmetric memberItem memberOther less
      · exact behind last present
    · next notLess =>
      have notBefore : before item other = false := by simpa using notLess
      refine List.pairwise_cons.2 ⟨fun last present => ?_, descending⟩
      rcases List.mem_cons.1 present with rfl | present
      · exact notBefore
      · exact order.incomparable memberItem memberOther (memberRest last present) notBefore
          (behind last present)

/-- An item can be inserted before or after a filter. -/
theorem filter_insertSorted (order : StrictWeakOn before member) (keeps : α → Bool) {item : α}
    {sorted : List α} (memberItem : member item) (members : ∀ other ∈ sorted, member other)
    (descending : Descending before sorted) :
    (insertSorted before item sorted).filter keeps =
      if keeps item then insertSorted before item (sorted.filter keeps)
      else sorted.filter keeps := by
  induction sorted with
  | nil => cases kept : keeps item <;> simp [insertSorted, kept]
  | cons other rest inductionHypothesis =>
    obtain ⟨behind, tail⟩ := List.pairwise_cons.1 descending
    have memberOther := members other List.mem_cons_self
    have memberRest : ∀ last ∈ rest, member last := fun last present =>
      members last (List.mem_cons_of_mem _ present)
    have others := inductionHypothesis memberRest tail
    simp only [insertSorted]
    split
    · next less =>
      cases keptOther : keeps other <;> cases kept : keeps item <;>
        simp [keptOther, kept, insertSorted, less] at others ⊢ <;> exact others
    · next notLess =>
      have notBefore : before item other = false := by simpa using notLess
      cases kept : keeps item with
      | false => simp [kept]
      | true =>
        rw [List.filter_cons_of_pos kept, if_pos rfl]
        cases remaining : (other :: rest).filter keeps with
        | nil => rfl
        | cons first others =>
          have present : first ∈ other :: rest := by
            refine List.mem_of_mem_filter (p := keeps) ?_
            rw [remaining]
            exact List.mem_cons_self
          have notBeforeFirst : before item first = false := by
            rcases List.mem_cons.1 present with rfl | present
            · exact notBefore
            · exact order.incomparable memberItem memberOther (memberRest first present)
                notBefore (behind first present)
          simp [insertSorted, notBeforeFirst]

/-- A list can be sorted before or after a filter. -/
theorem sortStable_filter (order : StrictWeakOn before member) (keeps : α → Bool)
    {items : List α} (members : ∀ item ∈ items, member item) :
    sortStable before (items.filter keeps) = (sortStable before items).filter keeps := by
  have folded : ∀ sorted : List α, (∀ item ∈ sorted, member item) → Descending before sorted →
      (items.filter keeps).foldl (fun sorted item => insertSorted before item sorted)
          (sorted.filter keeps) =
        (items.foldl (fun sorted item => insertSorted before item sorted) sorted).filter
          keeps := by
    induction items with
    | nil => exact fun _ _ _ => rfl
    | cons item rest inductionHypothesis =>
      intro sorted memberSorted descending
      have memberItem := members item List.mem_cons_self
      have inserted := order.filter_insertSorted keeps memberItem memberSorted descending
      have next := inductionHypothesis (fun other present =>
        members other (List.mem_cons_of_mem _ present)) (insertSorted before item sorted)
        (fun other present => by
          rcases List.mem_cons.1 ((insertSorted_perm before item sorted).mem_iff.1 present) with
            rfl | present
          · exact memberItem
          · exact memberSorted other present)
        (order.descending_insertSorted memberItem memberSorted descending)
      rw [List.foldl_cons, ← next, inserted]
      cases kept : keeps item <;> simp [kept]
  rw [sortStable, sortStable, List.filter_reverse, ← folded [] (by simp) .nil]
  rfl

/-- Inserting items one after the other keeps a list descending. -/
theorem descending_foldl (order : StrictWeakOn before member) {items : List α}
    (members : ∀ item ∈ items, member item) :
    ∀ sorted : List α, (∀ item ∈ sorted, member item) → Descending before sorted →
      Descending before
        (items.foldl (fun sorted item => insertSorted before item sorted) sorted) := by
  induction items with
  | nil => exact fun _ _ descending => descending
  | cons item rest inductionHypothesis =>
    intro sorted memberSorted descending
    obtain ⟨memberItem, membersRest⟩ := List.forall_mem_cons.1 members
    refine inductionHypothesis membersRest _ (fun other present => ?_)
      (order.descending_insertSorted memberItem memberSorted descending)
    rcases List.mem_cons.1 ((insertSorted_perm before item sorted).mem_iff.1 present) with
      rfl | present
    · exact memberItem
    · exact memberSorted other present

end StrictWeakOn

/-! ## Stably sorted lists -/

/-- Whether neither of two items comes before the other. -/
def tied (before : α → α → Bool) (left right : α) : Bool :=
  !before left right && !before right left

/-- Whether a list has the items of another one in the order of a comparison, where items that are
tied with each other are in the order of the other list. -/
structure StablySorted (before : α → α → Bool) (items sorted : List α) : Prop where
  perm : sorted.Perm items
  inOrder : sorted.Pairwise fun front behind => before behind front = false
  stable : ∀ item ∈ items, sorted.filter (tied before item) = items.filter (tied before item)

/-- Sorting by a strict weak order sorts stably. -/
theorem StrictWeakOn.stablySorted {member : α → Prop} (order : StrictWeakOn before member)
    {items : List α} (members : ∀ item ∈ items, member item) :
    StablySorted before items (sortStable before items) where
  perm := sortStable_perm before items
  inOrder := List.pairwise_reverse.2 (order.descending_foldl members [] (by simp) .nil)
  stable item inside := by
    rw [← order.sortStable_filter _ members]
    refine sortStable_of_ties fun left leftTied right rightTied => ?_
    rw [List.mem_filter, tied, Bool.and_eq_true, Bool.not_eq_true', Bool.not_eq_true']
      at leftTied rightTied
    exact order.incomparable (members left leftTied.1) (members item inside)
      (members right rightTied.1) leftTied.2.2 rightTied.2.1

namespace StablySorted

variable {items sorted : List α}

/-- Only how the items compare with each other matters. -/
theorem congr (stably : StablySorted before items sorted) (other : α → α → Bool)
    (agree : ∀ left ∈ items, ∀ right ∈ items, before left right = other left right) :
    StablySorted other items sorted where
  perm := stably.perm
  inOrder := by
    refine stably.inOrder.imp_of_mem fun front behind notBefore => ?_
    rw [← agree _ (stably.perm.mem_iff.1 behind) _ (stably.perm.mem_iff.1 front)]
    exact notBefore
  stable item inside := by
    have same (candidate : α) (member : candidate ∈ items) :
        tied other item candidate = tied before item candidate := by
      rw [tied, tied, agree _ inside _ member, agree _ member _ inside]
    rw [List.filter_congr fun candidate member => same candidate (stably.perm.mem_iff.1 member),
      List.filter_congr same]
    exact stably.stable item inside

/-- What is made of sorted items is sorted by what it is made of. -/
theorem map {β : Type u} (change : α → β) {before : β → β → Bool}
    (stably : StablySorted (fun left right => before (change left) (change right)) items sorted) :
    StablySorted before (items.map change) (sorted.map change) where
  perm := stably.perm.map change
  inOrder := List.pairwise_map.2 stably.inOrder
  stable := by
    rw [List.forall_mem_map]
    intro item inside
    rw [List.filter_map, List.filter_map]
    exact congrArg (List.map change) (stably.stable item inside)

end StablySorted

/-! ## Sorting by numbers -/

section Keys

variable (key : α → Nat)

end Keys

end EntityGraph
