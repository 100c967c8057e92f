import EntityGraph.Json.Printer
import EntityGraph.Resolution.Error

/-!
# Responses

A resolved part of a request is a JSON value together with the errors below it. The path
of an error starts at the part itself, and every step outwards puts the key or the index of
the part in front of it.
-/

namespace EntityGraph

/-- A step from a value into one of its parts. -/
inductive PathSegment where
  | key (name : String)
  | index (n : Nat)
deriving DecidableEq

/-- A step as JSON. -/
def PathSegment.toJson : PathSegment → Json
  | .key name => .string name
  | .index n => .number (.int n)

/-- A field that has no value, and the way to it. -/
structure FieldError where
  message : String
  path : List PathSegment
deriving DecidableEq

namespace FieldError

/-- The same error as seen from one step further out. -/
def under (segment : PathSegment) (error : FieldError) : FieldError :=
  { error with path := segment :: error.path }

/-- An error as JSON. -/
def toJson (error : FieldError) : Json :=
  .object [("message", .string error.message),
    ("path", .array (error.path.map PathSegment.toJson))]

end FieldError

/-- A value and the errors below it. -/
structure Resolved where
  data : Json
  errors : List FieldError

namespace Resolved

/-- A value without errors. -/
def leaf (data : Json) : Resolved := ⟨data, []⟩

/-- A field that violated its cardinality is null. -/
def violated (violation : CardinalityViolation) : Resolved :=
  ⟨.null, [⟨violation.message, []⟩]⟩

/-- The errors of the items of a list, the first item having the given index. -/
def itemErrors (index : Nat) : List Resolved → List FieldError
  | [] => []
  | item :: rest =>
    item.errors.map (FieldError.under (.index index)) ++ itemErrors (index + 1) rest

/-- A list. -/
def list (items : List Resolved) : Resolved :=
  ⟨.array (items.map data), itemErrors 0 items⟩

/-- An object. Of members with one key the last is shown, but the errors of all are kept. -/
def object (members : List (String × Resolved)) : Resolved where
  data := Json.ofDict (Dict.ofList (members.map fun (key, value) => (key, value.data)))
  errors := members.flatMap fun (key, value) => value.errors.map (FieldError.under (.key key))

/-- A response as JSON. Errors are left out if there are none. -/
def toJson (response : Resolved) : Json :=
  .object <| ("data", response.data) ::
    if response.errors.isEmpty then []
    else [("errors", .array (response.errors.map FieldError.toJson))]

end Resolved

end EntityGraph
