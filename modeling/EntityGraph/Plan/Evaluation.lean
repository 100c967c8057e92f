import EntityGraph.Plan.Bindings
import EntityGraph.Sorting
import EntityGraph.Store.Basic
import EntityGraph.Value.Order

/-!
# Evaluating plans

A selection starts with a row for each instance of its entity. Every join replaces each
row by one row for each target that meets the join's condition. A left join keeps a row
without such a target and binds its alias to null; the other joins drop it, since a row
that no source leads to has no root to project. The filter is applied next, then the
ordering, and last the projected alias is read off.

Evaluation goes through rows and expressions from left to right and stops at the first
failure.
-/

namespace EntityGraph

/-- The order of two lists of keys, given the direction of each place. -/
def compareKeys (model : Model) : List Direction → List Value → List Value → Ordering
  | direction :: directions, left :: lefts, right :: rights =>
    let ordering := Value.compare model left right
    let directed := match direction with
      | .ascending => ordering
      | .descending => ordering.swap
    directed.then (compareKeys model directions lefts rights)
  | _, _, _ => .eq

/-- Sort rows by their keys. -/
def sortByKeys (model : Model) (directions : List Direction)
    (keyed : List (List Value × Bindings)) : List Bindings :=
  (sortStable
    (fun left right => compareKeys model directions left.1 right.1 = .lt) keyed).map Prod.snd

/-- The directions of an ordering. -/
def OrderTerm.directions (terms : List OrderTerm) : List Direction :=
  terms.map fun term => term.direction

mutual

/-- The value of an expression in a row. The right side of a conjunction counts only if the left
one holds, and a list is searched only up to the first equal item. -/
def Expr.evaluate (store : Store) (row : Bindings) : Expr → Except ExecutionError Value
  | .and left right => do
    let left ← left.evaluate store row
    if left.isTrue then return .bool (← right.evaluate store row).isTrue
    else return .bool false
  | .equals left right => do
    let left ← left.evaluate store row
    let right ← right.evaluate store row
    return .bool (left.equals right)
  | .isIn left items => do
    let left ← left.evaluate store row
    return .bool (← Expr.anyEquals store row left items)
  | .inSelect left select => do
    let left ← left.evaluate store row
    let projected ← select.run store
    return .bool (projected.any fun value => left.equals value)
  | .column table attr => do
    store.attributeValue (← row.get table) attr
  | .table table => row.get table
  | .value value => .ok value

/-- Whether a value equals that of one of several expressions. -/
def Expr.anyEquals (store : Store) (row : Bindings) (value : Value) :
    List Expr → Except ExecutionError Bool
  | [] => .ok false
  | item :: rest => do
    if value.equals (← item.evaluate store row) then return true
    else Expr.anyEquals store row value rest

/-- The rows that a join makes of rows that bind `source`. -/
def Join.expand (store : Store) (source : Alias) :
    Join → List Bindings → Except ExecutionError (List Bindings)
  | ⟨attr, target, _, type, on?, joins⟩, rows => do
    let expanded ← rows.mapM fun row => do
      let targets ← store.navigate (← row.get source) attr
      let candidates := targets.map (row.bind target)
      let found ← match on? with
        | none => pure candidates
        | some on => keep (fun candidate => on.evaluate store candidate) candidates
      return if found.isEmpty && type = .left then [row.bind target .null] else found
    Join.expandAll store target joins expanded.flatten

/-- The rows that joins make, one after the other. -/
def Join.expandAll (store : Store) (source : Alias) :
    List Join → List Bindings → Except ExecutionError (List Bindings)
  | [], rows => .ok rows
  | join :: rest, rows => do
    let rows ← join.expand store source rows
    Join.expandAll store source rest rows

/-- The keys of a row. -/
def OrderTerm.keys (store : Store) (row : Bindings) :
    List OrderTerm → Except ExecutionError (List Value)
  | [] => .ok []
  | ⟨key, _⟩ :: rest => do
    let key ← key.evaluate store row
    let keys ← OrderTerm.keys store row rest
    return key :: keys

/-- What a selection projects, in order. -/
def Select.run (store : Store) : Select → Except ExecutionError (List Value)
  | ⟨distinct, projected, entity, root, joins, filter, orderBy⟩ => do
    let refs ← store.refs entity
    let rows := refs.map fun ref => Bindings.bind [] root (.entity ref)
    let rows ← Join.expandAll store root joins rows
    let rows ← keep (fun row => filter.evaluate store row) rows
    let keyed ← rows.mapM fun row => do return (← OrderTerm.keys store row orderBy, row)
    let rows := sortByKeys store.model (OrderTerm.directions orderBy) keyed
    let values ← rows.mapM fun row => row.get projected
    return if distinct then firstAppearances values else values

end

end EntityGraph
