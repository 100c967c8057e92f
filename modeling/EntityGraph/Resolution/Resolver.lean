import EntityGraph.Plan.Sql
import EntityGraph.Request.Basic
import EntityGraph.Resolution.Fetching
import EntityGraph.Resolution.Response
import EntityGraph.Value.Codec

/-!
# Answering requests

Every root field names an entity and is resolved on its own; below it, each selected
association of an instance is fetched and resolved in turn. A field that violates its
cardinality becomes null and is reported with its path. Any other failure ends the request.

Explaining a request plans its root fields without executing anything.
-/

namespace EntityGraph

/-- The name of the entity at the top of a request. -/
def queryTypename : String := "Query"

/-- The values of the variables of a request. -/
def variableValues (vars : Dict Json) : Except PlanningError (Dict Value) := do
  let values ← vars.entries.mapM fun (name, json) =>
    match Value.ofJson json with
    | .ok value => .ok (name, value)
    | .error unsupported => .error (.coercion (.unsupportedJson unsupported))
  return Dict.ofList values

/-- The text that an argument gives directly or through a variable. -/
def Literal.text? (vars : Dict Value) : Literal → Option String
  | .string text => some text
  | .variable name =>
    match vars.get? name with
    | some (.string text) => some text
    | _ => none
  | _ => none

/-- The identifier that a filter of an entity compares with, if its attribute holds identifiers and
its text is one. -/
def Model.boundUuid? (model : Model) (entity : String) (vars : Dict Value)
    (filter : Argument) : Option Value := do
  let info ← model.attribute? entity filter.name
  if info.type.scalar? = some .uuid then
    let text ← filter.value.text? vars
    let id ← Uuid.ofText? text
    return .uuid id
  else none

/-- The arguments of a root field that can be bound ahead of planning. Of filters with one name
the last counts. -/
def Model.boundArguments (model : Model) (entity : String) (vars : Dict Value)
    (selection : Selection) : Dict Value :=
  Dict.ofList <| selection.filters.filterMap fun filter =>
    (model.boundUuid? entity vars filter).map (filter.name, ·)

namespace Resolver

/-- The value of an attribute that is not an association. -/
def attributeData (inst : Instance) (attr : String) : Json :=
  ((inst.value? attr).map Value.toJson).getD .null

mutual

/-- Resolve what is selected below a field on what the field was resolved to. -/
def resolveFetched (resolver : Resolver) (vars : Dict Value) (fetched : Fetched) :
    Selection → Trace Resolved
  | ⟨_, _, _, selections⟩ =>
    match fetched with
    | .list instances => do
      let items ← instances.mapM fun inst => resolver.resolveMembers vars inst selections
      return .list (items.map Resolved.object)
    | .object (some inst) => do
      return .object (← resolver.resolveMembers vars inst selections)
    | .object none => return .leaf .null

/-- Resolve selections on an instance. -/
def resolveMembers (resolver : Resolver) (vars : Dict Value) (inst : Instance) :
    List Selection → Trace (List (String × Resolved))
  | [] => return []
  | child :: rest => do
    let value ← do
      if child.isTypename then pure (.leaf (.string inst.ref.entity))
      else do
        let info ← Trace.planned <|
          resolver.planner.model.lookupAttribute inst.ref.entity child.name
        match info.type.relationship? inst.ref.entity child.name with
        | none => pure (.leaf (attributeData inst child.name))
        | some relationship => do
          let fetched ← Trace.orViolation <|
            resolver.fetchNested vars Dict.empty inst relationship.target child
          match fetched with
          | .ok fetched => resolver.resolveFetched vars fetched child
          | .error violation => pure (.violated violation)
    let others ← resolver.resolveMembers vars inst rest
    return (child.key, value) :: others

end

/-- Resolve a root field. -/
def resolveRoot (resolver : Resolver) (vars : Dict Value) (field : Selection) :
    Trace Resolved := do
  if field.isTypename then return .leaf (.string queryTypename)
  else
    let arguments := resolver.planner.model.boundArguments field.name vars field
    let fetched ← resolver.fetchRoot vars arguments field.name field
    resolver.resolveFetched vars fetched field

/-- Answer a request. -/
def answer (resolver : Resolver) (request : Request) : Trace Resolved := do
  let vars ← Trace.planned (variableValues request.vars)
  let members ← request.fields.mapM fun field => do
    return (field.key, ← resolver.resolveRoot vars field)
  return .object members

end Resolver

/-- The plan of every root field of a request, by the keys of the fields. -/
def Planner.explain (planner : Planner) (request : Request) :
    Except PlanningError (Dict Select) := do
  let vars ← variableValues request.vars
  let plans ← (request.fields.filter fun field => !field.isTypename).mapM fun field => do
    let arguments := planner.model.boundArguments field.name vars field
    return (field.key, ← planner.plan ⟨vars, arguments, none⟩ field.name field)
  return Dict.ofList plans

end EntityGraph
