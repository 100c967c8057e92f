import EntityGraph.Json.Shape

/-!
# The shape of requests

What has to stand where in the text of a request. Requests, selections, arguments and
literals ignore the members that they do not know. Selections and literals hold others of
their kind, so their shapes are given down to a number of levels that no text exceeds.
-/

namespace EntityGraph

namespace Request

open Json

/-- A literal. The items of a list are literals. -/
def literalShape : Nat → Shape
  | 0 => .any
  | levels + 1 => .tagged "type" "value" (.anyOrList (literalShape levels))

/-- An argument. -/
def argumentShape : Shape :=
  .record [("name", .text), ("value", literalShape depthLimit)] []

/-- A selection. -/
def selectionShape : Nat → Shape
  | 0 => .any
  | levels + 1 =>
    .record [("name", .text)]
      [("alias", .optionalText), ("arguments", .list argumentShape),
        ("selections", .list (selectionShape levels))]

/-- A request. -/
def shape : Shape :=
  .record [("query", .list (selectionShape depthLimit))] [("variables", .map .any)]

end Request

end EntityGraph
