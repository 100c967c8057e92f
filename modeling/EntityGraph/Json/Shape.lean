import EntityGraph.Json.Record

/-!
# Shapes of JSON values

A `Shape` says what is expected of a value: of what kind it is, which fields it has, and
what they look like in turn. A record may be written as an object or as the list of its
fields. Its members that are no fields are ignored: nothing is made of them, so they only
have to follow the grammar.
-/

namespace EntityGraph

namespace Json

/-- How many levels of lists and objects may enclose a scalar. -/
def depthLimit : Nat := 127

/-- What is expected of a value. -/
inductive Shape where
  /-- Nothing. -/
  | any
  /-- Nothing, and nothing is made of the value either. -/
  | ignored
  /-- Nothing, except that the items have a shape if the value is a list. -/
  | anyOrList (items : Shape)
  /-- Neither a list nor an object, and the value passes a test. -/
  | scalar (description : String) (test : Json → Bool)
  /-- One of several names. -/
  | choice (names : List String)
  /-- A list whose items have a shape. -/
  | list (items : Shape)
  /-- An object whose members have a shape. -/
  | map (values : Shape)
  /-- A record: the fields that have to be there, followed by those that may be left out. -/
  | record (required optional : List (String × Shape))
  /-- An object that passes a test, with fields of known shapes. -/
  | object (fields : List (String × Shape)) (test : Json → Bool)
  /-- A tag and a content, as members of an object or as a pair. The content has a shape if it
  follows its tag. -/
  | tagged (tag content : String) (contents : Shape)

namespace Shape

/-- A string. -/
def text : Shape :=
  .scalar "a string" fun json => json.string?.isSome

/-- A string or null. -/
def optionalText : Shape :=
  .scalar "a string or null" fun json => json matches .null || json.string?.isSome

/-- What is expected, in words. -/
def description : Shape → String
  | .any | .ignored | .anyOrList _ => "any value"
  | .scalar description _ => description
  | .choice _ => "one of several names"
  | .list _ => "a sequence"
  | .map _ | .object .. => "a map"
  | .record .. => "a record"
  | .tagged .. => "a tag and a content"

/-- Whether a list may stand here. -/
def allowsList : Shape → Bool
  | .any | .ignored | .anyOrList _ | .list _ | .record .. | .tagged .. => true
  | _ => false

/-- Whether an object may stand here. -/
def allowsObject : Shape → Bool
  | .any | .ignored | .anyOrList _ | .map _ | .record .. | .object .. | .tagged .. => true
  | _ => false

/-- The fields that are known by name. None of them may be given twice. -/
def fields : Shape → List (String × Shape)
  | .record required optional => required ++ optional
  | .object fields _ => fields
  | .tagged tag content contents => [(tag, .any), (content, contents)]
  | _ => []

/-- The shape of the item at a position, unless the list has to end before it. -/
def item? : Shape → Nat → Option Shape
  | .list items, _ | .anyOrList items, _ => some items
  | .record required optional, position =>
    ((required ++ optional)[position]?).map Prod.snd
  | .tagged _ _ contents, position => [.any, contents][position]?
  | _, _ => some .any

/-- The shape of a member that follows `earlier` ones. -/
def member (shape : Shape) (earlier : List String) (name : String) : Shape :=
  match shape with
  | .map values => values
  | .record required optional => ((required ++ optional).lookup name).getD .ignored
  | .object fields _ => (fields.lookup name).getD .any
  | .tagged tag content contents =>
    if name = tag then .any
    else if name = content then (if earlier.contains tag then contents else .any)
    else .ignored
  | _ => .any

/-- Whether a member of an object may not be given after others. -/
def repeated (shape : Shape) (name : String) (earlier : List String) : Bool :=
  (shape.fields.lookup name).isSome && earlier.contains name

/-- The first field that an object lacks although it has to be there. -/
def missing? : Shape → Json → Option String
  | .record required _, .object members =>
    (required.map Prod.fst).find? fun name => !members.any fun member => member.1 = name
  | .tagged tag _ _, .object members =>
    if members.any fun member => member.1 = tag then none else some tag
  | _, _ => none

/-- Whether a value whose parts have been looked at is as expected on the whole. -/
def accepts : Shape → Json → Bool
  | .any, _ | .ignored, _ | .anyOrList _, _ => true
  | .scalar _ test, json => test json
  | .list _, .array _ => true
  | .map _, .object _ => true
  | .record required _, .array items => required.length ≤ items.length
  | .object _ test, json => test json
  | .record required optional, .object members =>
    (missing? (.record required optional) (.object members)).isNone
  | .tagged .., .array _ => true
  | .tagged tag content contents, .object members =>
    (missing? (.tagged tag content contents) (.object members)).isNone
  | _, _ => false

end Shape

end Json

end EntityGraph
