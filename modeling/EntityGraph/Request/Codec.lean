import EntityGraph.Json.Record
import EntityGraph.Request.Basic

/-!
# Requests as JSON

A literal is written as its type and its value. The value of `null` may be left out; an
integer has to be written as one, while any number makes a double. A value that is given
before its type is set aside until the type is known. Requests, selections and arguments
are records.
-/

namespace EntityGraph

open Json

namespace Literal

mutual

/-- A literal as JSON. -/
def toJson : Literal → Json
  | .string s => .object [("type", .string "string"), ("value", .string s)]
  | .int n => .object [("type", .string "int"), ("value", .number (.int n))]
  | .float x => .object [("type", .string "float"), ("value", .number (.float x))]
  | .boolean b => .object [("type", .string "boolean"), ("value", .bool b)]
  | .null => .object [("type", .string "null")]
  | .enum constant => .object [("type", .string "enum"), ("value", .string constant)]
  | .list items => .object [("type", .string "list"), ("value", .array (itemsToJson items))]
  | .variable name => .object [("type", .string "variable"), ("value", .string name)]

/-- Literals as JSON. -/
def itemsToJson : List Literal → List Json
  | [] => []
  | item :: rest => item.toJson :: itemsToJson rest

end

/-- A signed integer of 64 bits. -/
def int? : Json → Option Int
  | .number n => n.signed?
  | _ => none

/-- A number as a double. -/
def float? : Json → Option Float
  | .number n => some n.toFloat
  | _ => none

/-- The types of literals. -/
def types : List String :=
  ["string", "int", "float", "boolean", "null", "enum", "list", "variable"]

/-- The type and the value of a literal that is or is not part of a value set aside: an object with
both members or a pair. Only an object may leave out the value. With the value goes whether it
is set aside, which it is in any literal that is, and where it precedes the type. -/
def typeAndValue? (aside : Bool) : Json → Option (String × Option (Bool × Json))
  | .object members => do
    let type ← field? "type" members
    let value ← field? "value" members
    let name ← type.bind (if aside then asideChoice? else choice?)
    let precedes := (members.takeWhile fun member => member.1 ≠ "type").any fun member =>
      member.1 = "value"
    return (name, value.map (aside || precedes, ·))
  | .array [type, value] =>
    (if aside then type.asideTag? types else type.tag? types).map (·, some (aside, value))
  | _ => none

/-- The literal that a JSON value describes, nested less deep than `fuel`. -/
def ofJsonWithin? : Nat → Bool → Json → Option Literal
  | 0, _, _ => none
  | fuel + 1, aside, json =>
    match typeAndValue? aside json with
    | some ("null", none) => some .null
    | some (type, some (aside, value)) =>
      match type with
      | "string" => value.string?.map .string
      | "int" => (int? value).map .int
      | "float" => (float? value).map .float
      | "boolean" => value.bool?.map .boolean
      | "null" => if value matches .null then some .null else none
      | "enum" => value.string?.map .enum
      | "list" => (list? (ofJsonWithin? fuel aside) value).map .list
      | "variable" => value.string?.map .variable
      | _ => none
    | _ => none

/-- The literal that a JSON value describes. -/
def ofJson? (json : Json) : Option Literal :=
  ofJsonWithin? json.depth false json

end Literal

namespace Argument

/-- An argument as JSON. -/
def toJson (argument : Argument) : Json :=
  .object [("name", .string argument.name), ("value", argument.value.toJson)]

/-- The argument that a JSON value describes. -/
def ofJson? (json : Json) : Option Argument :=
  match json.fields? ["name", "value"] with
  | some [name, value] => do
    let name ← required string? name
    let value ← required Literal.ofJson? value
    return ⟨name, value⟩
  | _ => none

end Argument

/-- A member that holds a list, unless it is empty. -/
def listMember (name : String) (items : List Json) : List (String × Json) :=
  if items.isEmpty then [] else [(name, .array items)]

namespace Selection

mutual

/-- A selection as JSON. What is empty is left out. -/
def toJson : Selection → Json
  | ⟨name, key?, arguments, selections⟩ =>
    .object <| ("name", .string name) ::
      (key?.map fun key => ("alias", Json.string key)).toList
      ++ listMember "arguments" (arguments.map Argument.toJson)
      ++ listMember "selections" (listToJson selections)

/-- Selections as JSON. -/
def listToJson : List Selection → List Json
  | [] => []
  | selection :: rest => selection.toJson :: listToJson rest

end

/-- The selection that a JSON value describes, nested less deep than `fuel`. -/
def ofJsonWithin? : Nat → Json → Option Selection
  | 0, _ => none
  | fuel + 1, json =>
    match json.fields? ["name", "alias", "arguments", "selections"] with
    | some [name, key, arguments, selections] => do
      let name ← required string? name
      let key? ← Json.optional string? key
      let arguments ← defaulted [] (list? Argument.ofJson?) arguments
      let selections ← defaulted [] (list? (ofJsonWithin? fuel)) selections
      return ⟨name, key?, arguments, selections⟩
    | _ => none

/-- The selection that a JSON value describes. -/
def ofJson? (json : Json) : Option Selection :=
  ofJsonWithin? json.depth json

end Selection

namespace Request

/-- The request that a JSON value describes. Variables may be left out. -/
def ofJson? (json : Json) : Option Request :=
  match json.fields? ["query", "variables"] with
  | some [fields, vars] => do
    let fields ← required (list? Selection.ofJson?) fields
    let vars ← defaulted Dict.empty (dict? (some ·.canonical)) vars
    return ⟨fields, vars⟩
  | _ => none

end Request

end EntityGraph
