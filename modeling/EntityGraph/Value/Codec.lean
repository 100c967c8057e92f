import EntityGraph.Json.Printer
import EntityGraph.Value.Basic

/-!
# Typed values and JSON

An attribute value is shown in a result as JSON: an identifier by its text, a constant by
its name, a reference by its id, and a double that JSON cannot write as null. A JSON value
that stands for a variable is taken as it is, objects excepted.
-/

namespace EntityGraph

namespace Value

mutual

/-- A value in a result. -/
def toJson : Value → Json
  | .null => .null
  | .bool b => .bool b
  | .int n => .number (.int n)
  | .float x => if x.isFinite then .number (.float x) else .null
  | .string s => .string s
  | .uuid id => .string id.text
  | .enum _ constant => .string constant
  | .array items => .array (itemsToJson items)
  | .entity ref => .string ref.id

/-- Values in a result. -/
def itemsToJson : List Value → List Json
  | [] => []
  | item :: rest => item.toJson :: itemsToJson rest

end

mutual

/-- The value that a JSON value without objects stands for. The error is the first object
inside. -/
def ofJson : Json → Except Json Value
  | .null => .ok .null
  | .bool b => .ok (.bool b)
  | .number n =>
    match n.signed? with
    | some signed => .ok (.int signed)
    | none => .ok (.float n.toFloat)
  | .string s => .ok (.string s)
  | .array items => do return .array (← ofJsonItems items)
  | .object members => .error (.object members)

/-- The values that a list of JSON values stands for. -/
def ofJsonItems : List Json → Except Json (List Value)
  | [] => .ok []
  | item :: rest => do
    let value ← ofJson item
    let values ← ofJsonItems rest
    return value :: values

end

end Value

end EntityGraph
