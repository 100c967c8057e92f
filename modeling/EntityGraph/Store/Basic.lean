import EntityGraph.Store.Error
import EntityGraph.Store.Instance

/-!
# Stores

A store holds the instances of each entity of a model. A table keeps its rows in the order
in which they were loaded, and no two rows have one id. A row has the value of every
attribute, an association being one reference, a list of references, or null.

`navigate` is the only way along an attribute: it leads from an instance to the value of a
scalar, to the elements of a collection, or to the targets of an association.
-/

namespace EntityGraph

/-- The values of the attributes of one instance. -/
abbrev Row := Dict Value

/-- The rows of an entity in load order, each with its id. -/
structure Table where
  rows : List (String × Row)
  distinct : (rows.map Prod.fst).Nodup

namespace Table

/-- The table without rows. -/
def empty : Table := ⟨[], .nil⟩

/-- The ids of the rows in load order. -/
def ids (table : Table) : List String :=
  table.rows.map Prod.fst

/-- The row of an id. -/
def row? (table : Table) (id : String) : Option Row :=
  table.rows.lookup id

/-- The table with a further row, unless the id is taken. -/
def push? (table : Table) (id : String) (row : Row) : Option Table :=
  if taken : id ∈ table.ids then none
  else
    some ⟨table.rows ++ [(id, row)], by
      rw [List.map_append]
      refine List.nodup_append.2 ⟨table.distinct, by simp, ?_⟩
      intro other present new member
      simp only [List.map_cons, List.map_nil, List.mem_singleton] at member
      subst member
      exact fun same => taken (same ▸ present)⟩

/-- Change every row, given its id. -/
def map (change : String → Row → Row) (table : Table) : Table where
  rows := table.rows.map fun (id, row) => (id, change id row)
  distinct := by
    have same : (table.rows.map fun (id, row) => (id, change id row)).map Prod.fst =
        table.rows.map Prod.fst := by
      rw [List.map_map]
      rfl
    rw [same]
    exact table.distinct

end Table

/-- The instances of the entities of a model. -/
structure Store where
  model : Model
  tables : Dict Table

namespace Store

/-- The store of a model without instances. -/
def empty (model : Model) : Store where
  model := model
  tables := model.entities.map fun _ _ => Table.empty

/-- The table of an entity. -/
def table (store : Store) (entity : String) : Except ExecutionError Table :=
  match store.tables.get? entity with
  | some table => .ok table
  | none => .error (.entityNotStored entity)

/-- Whether there is an instance behind a reference. -/
def contains (store : Store) (ref : EntityRef) : Bool :=
  (store.tables.get? ref.entity).any fun table => (table.row? ref.id).isSome

/-- References to every instance of an entity, in load order. -/
def refs (store : Store) (entity : String) : Except ExecutionError (List EntityRef) := do
  let table ← store.table entity
  return table.ids.map fun id => ⟨entity, id⟩

/-- The row behind a reference. -/
def row (store : Store) (ref : EntityRef) : Except ExecutionError Row := do
  let table ← store.table ref.entity
  match table.row? ref.id with
  | some row => return row
  | none => .error (.invalidData ref.entity (.missingInstance ref.id))

/-- The value of an attribute of a bound instance. What is bound to null has no attributes, and
so each of them is null. -/
def attributeValue (store : Store) (binding : Value) (attr : String) :
    Except ExecutionError Value :=
  match binding with
  | .null => .ok .null
  | .entity ref => do
    let row ← store.row ref
    match row.get? attr with
    | some value => return value
    | none => .error (.attributeNotFound ref.entity attr)
  | other => .error (.notAnInstance other)

/-- Everything that an attribute of a bound instance leads to. -/
def navigate (store : Store) (binding : Value) (attr : String) :
    Except ExecutionError (List Value) := do
  return (← store.attributeValue binding attr).elements

/-- The relationship that an attribute describes, if it is an association. -/
def relationship? (store : Store) (entity attr : String) :
    Except ExecutionError (Option Relationship) :=
  match store.model.attribute? entity attr with
  | some info => .ok (info.type.relationship? entity attr)
  | none => .error (.attributeNotFound entity attr)

/-- The fields of an instance before anything is fetched: the attributes that are not
associations, in ascending order of name. -/
def plainFields (entity : Entity) (row : Row) : List (String × Field) :=
  (entity.attributes.entries.filter fun (_, info) => !info.type.isAssociation).map
    fun (attr, _) => (attr, .value ((row.get? attr).getD .null))

/-- The instance behind a reference, without associations. -/
def retrieve (store : Store) (ref : EntityRef) : Except ExecutionError Instance := do
  let row ← store.row ref
  match store.model.entity? ref.entity with
  | some entity => return ⟨ref, plainFields entity row⟩
  | none => .error (.entityNotStored ref.entity)

end Store

end EntityGraph
