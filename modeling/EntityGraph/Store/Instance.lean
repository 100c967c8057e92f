import EntityGraph.Value.Basic

/-!
# Instances

An instance carries the values of its attributes and whatever associations were fetched
with it. An association that was not fetched is simply absent.
-/

namespace EntityGraph

mutual

/-- A retrieved instance: what it is, and its fields in order. -/
structure Instance where
  ref : EntityRef
  fields : List (String × Field)

/-- What an instance holds under a name. -/
inductive Field where
  /-- The value of an attribute that is not an association. -/
  | value (value : Value)
  /-- The target of a fetched association with at most one target. -/
  | reference (target? : Option Instance)
  /-- The targets of a fetched association with many. -/
  | collection (targets : List Instance)

end

namespace Field

/-- Whether a field is a fetched association. -/
def isFetched : Field → Bool
  | value _ => false
  | reference _ | collection _ => true

end Field

/-- Give a field its content: in place of the one it may have had, and otherwise after the
other fields. -/
def setField (name : String) (field : Field) : List (String × Field) → List (String × Field)
  | [] => [(name, field)]
  | (other, old) :: rest =>
    if other = name then (name, field) :: rest else (other, old) :: setField name field rest

namespace Instance

/-- The field of a name. -/
def field? (inst : Instance) (name : String) : Option Field :=
  inst.fields.lookup name

/-- Whether an association was fetched with the instance. -/
def isLoaded (inst : Instance) (attr : String) : Bool :=
  (inst.field? attr).any Field.isFetched

/-- The value of an attribute that is not an association. -/
def value? (inst : Instance) (attr : String) : Option Value :=
  match inst.field? attr with
  | some (.value value) => some value
  | _ => none

/-- Add a fetched association. -/
def withField (inst : Instance) (name : String) (field : Field) : Instance :=
  { inst with fields := setField name field inst.fields }

end Instance

end EntityGraph
