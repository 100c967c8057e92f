import EntityGraph.Json.Basic
import EntityGraph.Plan.Basic

/-!
# Selections

A request is a list of selections. A selection names a field, gives it arguments and
selects below it. Two arguments are directives and not filters: one orders the rows by a
field, the other chooses how an association is joined. The field `__typename` stands for
the name of the entity and never for an attribute.
-/

namespace EntityGraph

/-- An argument as it is written. -/
inductive Literal where
  | string (s : String)
  | int (n : Int)
  | float (x : Float)
  | boolean (b : Bool)
  | null
  | enum (constant : String)
  | list (items : List Literal)
  | variable (name : String)

namespace Literal

mutual

/-- A literal as messages show it. -/
def describe : Literal → String
  | .string s => "String(" ++ Text.quoted s ++ ")"
  | .int n => "Int(" ++ toString n ++ ")"
  | .float x => "Float(" ++ Value.floatLayout.text x ++ ")"
  | .boolean b => "Boolean(" ++ toString b ++ ")"
  | .null => "Null"
  | .enum constant => "Enum(" ++ Text.quoted constant ++ ")"
  | .list items => "List([" ++ String.intercalate ", " (describeItems items) ++ "])"
  | .variable name => "Variable(" ++ Text.quoted name ++ ")"

/-- Literals as messages show them. -/
def describeItems : List Literal → List String
  | [] => []
  | item :: rest => describe item :: describeItems rest

end

/-- The name that a directive gives. -/
def directive? : Literal → Option String
  | .enum constant => some constant
  | _ => none

end Literal

/-- A named argument. -/
structure Argument where
  name : String
  value : Literal

/-- A selected field. -/
structure Selection where
  name : String
  /-- The key that the field is reported under, if it is not its name. -/
  key? : Option String
  arguments : List Argument
  selections : List Selection

/-- The argument that orders rows by a field. -/
def orderByName : String := "orderBy"

/-- The argument that chooses how an association is joined. -/
def joinTypeName : String := "joinType"

/-- The field that stands for the name of the entity. -/
def typenameName : String := "__typename"

/-- A directive that names none of its choices. -/
structure InvalidDirective where
  argument : String
  value : Literal
  choices : List String

/-- The direction that a directive names. -/
def Direction.ofName? : String → Option Direction
  | "ASC" => some .ascending
  | "DESC" => some .descending
  | _ => none

/-- The join type that a directive names. -/
def JoinType.ofName? (name : String) : Option JoinType :=
  JoinType.all.find? fun type => type.name = name

namespace Selection

/-- The key that the field is reported under. -/
def key (selection : Selection) : String :=
  selection.key?.getD selection.name

/-- Whether the field stands for the name of the entity. -/
def isTypename (selection : Selection) : Bool :=
  selection.name == typenameName

/-- Whether anything is selected below the field. -/
def hasSelections (selection : Selection) : Bool :=
  !selection.selections.isEmpty

/-- The selections below the field that name attributes. -/
def attributeSelections (selection : Selection) : List Selection :=
  selection.selections.filter fun child => !child.isTypename

/-- The first argument of a name. -/
def argument? (selection : Selection) (name : String) : Option Literal :=
  (selection.arguments.find? fun argument => argument.name == name).map Argument.value

/-- The arguments that filter: all but the directives. -/
def filters (selection : Selection) : List Argument :=
  selection.arguments.filter fun argument =>
    argument.name != orderByName && argument.name != joinTypeName

/-- Whether the field is filtered. -/
def hasFilters (selection : Selection) : Bool :=
  !selection.filters.isEmpty

/-- The choice that a directive makes. -/
def directive? {α : Type} (selection : Selection) (argument : String) (choices : List String)
    (ofName? : String → Option α) : Except InvalidDirective (Option α) :=
  match selection.argument? argument with
  | none => .ok none
  | some literal =>
    match literal.directive?.bind ofName? with
    | some choice => .ok (some choice)
    | none => .error ⟨argument, literal, choices⟩

/-- The direction in which the field orders rows, if it does. -/
def direction? (selection : Selection) : Except InvalidDirective (Option Direction) :=
  selection.directive? orderByName ["ASC", "DESC"] Direction.ofName?

/-- The join type that the field asks for, if it does. -/
def joinType? (selection : Selection) : Except InvalidDirective (Option JoinType) :=
  selection.directive? joinTypeName (JoinType.all.map JoinType.name) JoinType.ofName?

end Selection

/-- A request: the selected fields at the top, each of which names an entity, and the values of
the variables. -/
structure Request where
  fields : List Selection
  vars : Dict Json

end EntityGraph
