import EntityGraph.Model.Basic
import EntityGraph.Value.Basic

/-!
# Values of a type

What loaded data holds: a scalar of the type of its attribute, a constant of its enum type, a
collection, or references to instances of the target. A double is a number wherever it is
loaded, so the doubles of an attribute can be ordered.
-/

namespace EntityGraph

namespace Value

/-- Whether a value is of a scalar type. Null is of every type, and a double has to be a number. -/
def HasScalar (scalar : ScalarType) : Value → Prop
  | .null => True
  | .bool _ => scalar = .boolean
  | .int _ => scalar.isIntegral = true
  | .float x => scalar.isFractional = true ∧ x.isNaN = false
  | .string _ => scalar.isTextual = true
  | .uuid _ => scalar = .uuid
  | .enum .. | .array _ | .entity _ => False

/-- Whether a value can be the value of an attribute. `stored` tells which references lead to an
instance. -/
def Fits (stored : EntityRef → Prop) (value : Value) : AttributeType → Prop
  | .basic scalar => value.HasScalar scalar
  | .enum enumType => value = .null ∨ ∃ constant, value = .enum enumType constant
  | .collection _ => ∃ items, value = .array items
  | .association target _ _ =>
    ∀ element ∈ value.elements, ∃ ref, element = .entity ref ∧ ref.entity = target ∧ stored ref

/-- A value keeps its type if more references lead to instances. -/
theorem Fits.mono {stored known : EntityRef → Prop} {value : Value} {type : AttributeType}
    (fits : value.Fits stored type) (more : ∀ ref, stored ref → known ref) :
    value.Fits known type := by
  cases type with
  | association target kind mappedBy? =>
    intro element member
    obtain ⟨ref, same, target, present⟩ := fits element member
    exact ⟨ref, same, target, more ref present⟩
  | _ => exact fits

end Value

end EntityGraph
