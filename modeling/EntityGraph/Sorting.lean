/-!
# Stable sorting

A list is sorted by inserting its items one by one. Each goes behind everything that it does
not come before, so items that are equal in the order keep their places relative to each
other.
-/

namespace EntityGraph

universe u

/-- Insert an item into a list that is sorted with the last item in front. It goes in front of the
first item that it does not come before, so equal items keep their order. -/
def insertSorted {α : Type u} (before : α → α → Bool) (item : α) : List α → List α
  | [] => [item]
  | other :: rest =>
    if before item other then other :: insertSorted before item rest else item :: other :: rest

/-- Sort a list. Equal items keep their order. -/
def sortStable {α : Type u} (before : α → α → Bool) (items : List α) : List α :=
  (items.foldl (fun sorted item => insertSorted before item sorted) []).reverse

end EntityGraph
