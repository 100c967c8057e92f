import EntityGraph.Json.Basic

/-!
# Records in JSON

A record is written as an object with a member for each field, or as the list of its
fields in their declared order. Members that name no field are ignored; a field given
twice makes the value no record. A field may be required, may be absent or null, or may
have a default that stands in when it is absent.

A value without fields of its own, picked from a list of names, is written as its name
or as an object whose only member has that name and is null. A value that is set aside
until something after it is known is taken less strictly: an empty object does for the null,
and where a tag is expected first, the position of a name does for the name.
-/

namespace EntityGraph

namespace Json

universe u

/-- A string. -/
def string? : Json → Option String
  | .string s => some s
  | _ => none

/-- A truth value. -/
def bool? : Json → Option Bool
  | .bool b => some b
  | _ => none

/-- The items of a list, and none for any other value. -/
def items : Json → List Json
  | .array items => items
  | _ => []

/-- The members of an object, and none for any other value. -/
def members : Json → List (String × Json)
  | .object members => members
  | _ => []

/-- A list whose items can all be decoded. -/
def list? {α : Type u} (decode : Json → Option α) : Json → Option (List α)
  | .array items => items.mapM decode
  | _ => none

/-- An object whose values can all be decoded, as a dictionary. -/
def dict? {α : Type u} (decode : Json → Option α) : Json → Option (Dict α)
  | .object members =>
    (members.mapM fun member => (decode member.2).map (member.1, ·)).map Dict.ofList
  | _ => none

/-- The field of a name, which may be absent. There is no answer if it is given twice. -/
def field? (name : String) (members : List (String × Json)) : Option (Option Json) :=
  match members.filter fun member => member.1 = name with
  | [] => some none
  | [member] => some (some member.2)
  | _ => none

/-- The fields of a record, absent ones included, in the order of their names. -/
def fields? (names : List String) : Json → Option (List (Option Json))
  | .object members => names.mapM fun name => field? name members
  | .array items =>
    if items.length ≤ names.length then
      some (items.map some ++ List.replicate (names.length - items.length) none)
    else none
  | _ => none

/-- A field that has to be there. -/
def required {α : Type u} (decode : Json → Option α) : Option Json → Option α
  | some json => decode json
  | none => none

/-- A field that may be absent or null. -/
def optional {α : Type u} (decode : Json → Option α) : Option Json → Option (Option α)
  | some .null => some none
  | some json => (decode json).map some
  | none => some none

/-- A field with a default for its absence. -/
def defaulted {α : Type u} (default : α) (decode : Json → Option α) : Option Json → Option α
  | some json => decode json
  | none => some default

/-- The name of a value without fields. -/
def choice? : Json → Option String
  | .string name => some name
  | .object [(name, .null)] => some name
  | _ => none

/-- The name of a value without fields that has been set aside. -/
def asideChoice? : Json → Option String
  | .object [(name, .object [])] => some name
  | json => json.choice?

/-- The name that a tag gives. -/
def tag? (names : List String) : Json → Option String
  | .string name => if names.contains name then some name else none
  | _ => none

/-- The name that a tag gives that has been set aside, if need be by its position. -/
def asideTag? (names : List String) : Json → Option String
  | .number (.int n) => if n < 0 then none else names[n.toNat]?
  | json => json.tag? names

mutual

/-- How many levels of lists and objects a value has, a scalar counting as one. -/
def depth : Json → Nat
  | .array items => itemsDepth items + 1
  | .object members => membersDepth members + 1
  | _ => 1

/-- The greatest depth in a list. -/
def itemsDepth : List Json → Nat
  | [] => 0
  | item :: rest => max item.depth (itemsDepth rest)

/-- The greatest depth of the values of members. -/
def membersDepth : List (String × Json) → Nat
  | [] => 0
  | (_, value) :: rest => max value.depth (membersDepth rest)

end

end Json

end EntityGraph
