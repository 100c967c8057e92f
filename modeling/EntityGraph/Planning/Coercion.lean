import EntityGraph.Planning.Error

/-!
# Values of arguments

An argument names an attribute, and its value is made comparable with it. Text that is
compared with identifiers becomes an identifier, inside lists too, and a constant has to
belong to the enum type of the attribute. Everything else is taken as it is. Values of
variables are treated like the literals they stand in for.

Identifiers can be bound ahead of planning: text given for such an argument stands for the
bound identifier.
-/

namespace EntityGraph

namespace Model

/-- The entity of a name, which has to exist. -/
def lookupEntity (model : Model) (entity : String) : Except PlanningError Entity :=
  match model.entity? entity with
  | some info => .ok info
  | none => .error (.model (.entityNotFound entity))

/-- An attribute of an entity, which has to exist. -/
def lookupAttribute (model : Model) (entity attr : String) : Except PlanningError Attribute :=
  match model.attribute? entity attr with
  | some info => .ok info
  | none => .error (.model (.attributeNotFound entity attr))

/-- The relationship of an attribute, which has to be an association. -/
def lookupAssociation (model : Model) (entity attr : String) :
    Except PlanningError Relationship := do
  let info ← model.lookupAttribute entity attr
  match info.type.relationship? entity attr with
  | some relationship => return relationship
  | none => .error (.model (.notAnAssociation entity attr))

end Model

namespace Value

mutual

/-- A value made comparable with an attribute of a scalar type. -/
def coerce (scalar? : Option ScalarType) (argument : String) :
    Value → Except PlanningError Value
  | .string text =>
    if scalar? = some .uuid then
      match Uuid.ofText? text with
      | some id => .ok (.uuid id)
      | none => .error (.coercion (.invalidUuid argument text))
    else .ok (.string text)
  | .array items => do return .array (← coerceItems scalar? argument items)
  | value => .ok value

/-- Values made comparable with an attribute of a scalar type. -/
def coerceItems (scalar? : Option ScalarType) (argument : String) :
    List Value → Except PlanningError (List Value)
  | [] => .ok []
  | item :: rest => do
    let item ← coerce scalar? argument item
    let rest ← coerceItems scalar? argument rest
    return item :: rest

end

end Value

namespace Model

/-- A value made comparable with the attribute that an argument names. If there is no such
attribute the value stays as it is; the attribute is looked up again for the comparison. -/
def coerceValue (model : Model) (entity argument : String) (value : Value) :
    Except PlanningError Value :=
  match model.attribute? entity argument with
  | some info => value.coerce info.type.scalar? argument
  | none => .ok value

/-- The constant that an argument names, of the enum type of its attribute. -/
def coerceConstant (model : Model) (entity argument constant : String) :
    Except PlanningError Value :=
  match model.attribute? entity argument with
  | none => .error (.coercion (.enumAttributeNotFound entity argument))
  | some info =>
    match info.type.enum? with
    | none => .error (.coercion (.notAnEnum entity argument))
    | some enumType =>
      match model.enumType? enumType with
      | none => .error (.model (.enumTypeNotFound enumType))
      | some declared =>
        if declared.constants.contains constant then .ok (.enum enumType constant)
        else .error (.coercion (.unknownEnumConstant enumType constant))

end Model

/-- What the literals of a field may refer to. -/
structure ArgumentScope where
  /-- The entity whose attributes the arguments name. -/
  entity : String
  /-- The values of variables. -/
  vars : Dict Value
  /-- Values of arguments that are bound ahead of planning. -/
  bound : Dict Value

/-- The identifier that an argument is bound to. -/
def ArgumentScope.boundUuid? (scope : ArgumentScope) (argument : String) : Option Value :=
  match scope.bound.get? argument with
  | some (.uuid id) => some (.uuid id)
  | _ => none

namespace Literal

mutual

/-- The value of a literal, made comparable with the attribute that an argument names. -/
def coerce (model : Model) (scope : ArgumentScope) (argument : String) :
    Literal → Except PlanningError Value
  | .string text =>
    match scope.boundUuid? argument with
    | some bound => .ok bound
    | none => model.coerceValue scope.entity argument (.string text)
  | .variable name =>
    match scope.vars.get? name with
    | some value => model.coerceValue scope.entity argument value
    | none => .error (.coercion (.unboundVariable name))
  | .list items => do return .array (← coerceItems model scope argument items)
  | .enum constant => model.coerceConstant scope.entity argument constant
  | .int n => .ok (.int n)
  | .float x => .ok (.float x)
  | .boolean b => .ok (.bool b)
  | .null => .ok .null

/-- The values of literals. -/
def coerceItems (model : Model) (scope : ArgumentScope) (argument : String) :
    List Literal → Except PlanningError (List Value)
  | [] => .ok []
  | item :: rest => do
    let item ← coerce model scope argument item
    let rest ← coerceItems model scope argument rest
    return item :: rest

end

end Literal

end EntityGraph
