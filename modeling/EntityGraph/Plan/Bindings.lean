import EntityGraph.Store.Error

/-!
# Rows of a plan

A row binds the aliases of a plan to values. A later binding of an index hides an earlier
one. Besides the rows this module holds two operations on lists that selections are made
of: keeping what satisfies a condition, and dropping repetitions.
-/

namespace EntityGraph

/-- What aliases are bound to, by their indices, the latest binding first. -/
abbrev Bindings := List (Nat × Value)

namespace Bindings

/-- Bind an alias. -/
def bind (row : Bindings) (name : Alias) (value : Value) : Bindings :=
  (name.index, value) :: row

/-- What an alias is bound to. -/
def get (row : Bindings) (name : Alias) : Except ExecutionError Value :=
  match row.lookup name.index with
  | some value => .ok value
  | none => .error (.unboundAlias name)

end Bindings

/-- The items for which a condition evaluates to true, in order. The first failure ends it. -/
def keep {α : Type} (condition : α → Except ExecutionError Value) :
    List α → Except ExecutionError (List α)
  | [] => .ok []
  | item :: rest => do
    let holds ← condition item
    let kept ← keep condition rest
    return if holds.isTrue then item :: kept else kept

/-- The values without repetitions, each at its first appearance. -/
def firstAppearances (values : List Value) : List Value :=
  values.foldl
    (fun seen value => if seen.any fun earlier => earlier.same value then seen else seen ++ [value])
    []

end EntityGraph
