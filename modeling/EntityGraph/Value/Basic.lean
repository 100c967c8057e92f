import EntityGraph.Decimal
import EntityGraph.Text.Quoted
import EntityGraph.Uuid

/-!
# Typed values

The values that attributes hold and that predicates compare. Two notions of equality
live here. `Value.same` asks for the same value of the same kind and keeps the equality
of doubles. `Value.equals` is the equality of predicates: null equals nothing, a
collection equals whatever one of its elements equals, and values of different kinds are
equal where one of them can be read as the other.
-/

namespace EntityGraph

/-- A reference to a stored instance: its entity and the text of its id. -/
structure EntityRef where
  entity : String
  id : String
deriving DecidableEq

/-- A typed value. -/
inductive Value where
  | null
  | bool (b : Bool)
  | int (n : Int)
  | float (x : Float)
  | string (s : String)
  | uuid (id : Uuid)
  | enum (enumType constant : String)
  | array (items : List Value)
  | entity (ref : EntityRef)

namespace Value

instance : Inhabited Value := ⟨.null⟩

mutual

/-- Whether two values are of one kind and the same. Doubles are the same if they are equal, so
a double that is not a number differs from itself. -/
def same : Value → Value → Bool
  | .null, .null => true
  | .bool left, .bool right => left == right
  | .int left, .int right => left == right
  | .float left, .float right => left == right
  | .string left, .string right => left == right
  | .uuid left, .uuid right => left == right
  | .enum leftType left, .enum rightType right => leftType == rightType && left == right
  | .array left, .array right => sameItems left right
  | .entity left, .entity right => left == right
  | _, _ => false

/-- Whether two lists hold the same values in the same places. -/
def sameItems : List Value → List Value → Bool
  | [], [] => true
  | left :: lefts, right :: rights => same left right && sameItems lefts rights
  | _, _ => false

end

/-- Whether two values that are not collections are equal in a predicate. An integer is compared
with a double as a double, a constant with a string by its name, and an identifier with a string
that writes it. -/
def leafEquals : Value → Value → Bool
  | .null, _ => false
  | _, .null => false
  | .int left, .float right => Float.ofInt left == right
  | .float left, .int right => Float.ofInt right == left
  | .enum _ left, .string right => left == right
  | .string left, .enum _ right => right == left
  | .uuid left, .string right => Uuid.ofText? right == some left
  | .string left, .uuid right => Uuid.ofText? left == some right
  | left, right => same left right

mutual

/-- Whether a value that is not a collection equals a value. -/
def equalsRight (left : Value) : Value → Bool
  | .array items => equalsSome left items
  | right => leafEquals left right

/-- Whether a value that is not a collection equals one of several values. -/
def equalsSome (left : Value) : List Value → Bool
  | [] => false
  | right :: rights => equalsRight left right || equalsSome left rights

end

mutual

/-- Whether two values are equal as operands of a predicate. -/
def equals : Value → Value → Bool
  | .array items, right => someEquals items right
  | left, right => equalsRight left right

/-- Whether one of several values equals a value. -/
def someEquals : List Value → Value → Bool
  | [], _ => false
  | left :: lefts, right => equals left right || someEquals lefts right

end

/-- Whether a value is the truth value that predicates ask for. -/
def isTrue : Value → Bool
  | .bool true => true
  | _ => false

/-- The elements that a value leads to: none for null, the items of a collection, and otherwise
the value itself. -/
def elements : Value → List Value
  | .null => []
  | .array items => items
  | value => [value]

/-- Doubles in messages stand positionally for exponents from -4 to 15, and of two decimals that
are equally near the greater one is shown. -/
def floatLayout : Decimal.Layout := ⟨-4, 15, false, .awayFromZero⟩

mutual

/-- A value as messages show it. -/
def describe : Value → String
  | .null => "Null"
  | .bool b => "Bool(" ++ toString b ++ ")"
  | .int n => "Int8(" ++ toString n ++ ")"
  | .float x => "Float8(" ++ floatLayout.text x ++ ")"
  | .string s => "String(" ++ Text.quoted s ++ ")"
  | .uuid id => "Uuid(" ++ id.text ++ ")"
  | .enum enumType constant =>
    "Enum \x7b enum_type: " ++ Text.quoted enumType ++ ", constant: " ++ Text.quoted constant
      ++ " \x7d"
  | .array items => "Array([" ++ String.intercalate ", " (describeItems items) ++ "])"
  | .entity ref =>
    "Entity(EntityRef \x7b entity: " ++ Text.quoted ref.entity ++ ", id: " ++ Text.quoted ref.id
      ++ " \x7d)"

/-- Values as messages show them. -/
def describeItems : List Value → List String
  | [] => []
  | item :: rest => describe item :: describeItems rest

end

end Value

end EntityGraph
