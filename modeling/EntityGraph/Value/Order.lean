import EntityGraph.Model.Basic
import EntityGraph.Value.Basic

/-!
# The order of values

Rows are sorted by this order. Null comes after every other value. Numbers are ordered
by size, texts and identifiers by their bytes, constants by their position in the enum
type of the left one, and references by entity and id. Any other two values count as
equal.
-/

namespace EntityGraph

/-- The order of doubles, where a double that is not a number equals every other. -/
def compareFloats (left right : Float) : Ordering :=
  if left < right then .lt else if right < left then .gt else .eq

/-- The order of positions, an absent one first. -/
def comparePositions : Option Nat → Option Nat → Ordering
  | none, none => .eq
  | none, some _ => .lt
  | some _, none => .gt
  | some left, some right => compare left right

/-- The order of references. -/
def EntityRef.compare (left right : EntityRef) : Ordering :=
  (Ord.compare left.entity right.entity).then (Ord.compare left.id right.id)

/-- The order of values. -/
def Value.compare (model : Model) : Value → Value → Ordering
  | .null, .null => .eq
  | .null, _ => .gt
  | _, .null => .lt
  | .bool left, .bool right => Ord.compare left right
  | .int left, .int right => Ord.compare left right
  | .float left, .float right => compareFloats left right
  | .int left, .float right => compareFloats (Float.ofInt left) right
  | .float left, .int right => compareFloats left (Float.ofInt right)
  | .string left, .string right => Ord.compare left right
  | .uuid left, .uuid right => Ord.compare left.value.toNat right.value.toNat
  | .enum enumType left, .enum _ right =>
    comparePositions (model.enumPosition? enumType left) (model.enumPosition? enumType right)
  | .entity left, .entity right => left.compare right
  | _, _ => .eq

end EntityGraph
