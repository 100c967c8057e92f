import EntityGraph.Value.Basic

/-!
# Query plans

A plan selects the instances of an entity. Joins follow attributes, not keys: a join names
the attribute it follows from the alias of the enclosing level, which is the root for the
joins of a selection and the target of the outer join for nested ones. A fetch is a join
whose targets are loaded onto the instances they are reached from.
-/

namespace EntityGraph

/-- A name given to what a level of a plan ranges over. The index tells aliases apart. -/
structure Alias where
  index : Nat
  name : String
deriving DecidableEq

/-- The text of an alias: its name, made unique by its index. -/
def Alias.text (name : Alias) : String :=
  name.name ++ "_" ++ toString name.index

/-- What happens to rows without a match. -/
inductive JoinType where
  | inner
  | left
  | right
deriving DecidableEq

namespace JoinType

/-- Every join type. -/
def all : List JoinType := [inner, left, right]

/-- The name of a join type. -/
def name : JoinType → String
  | inner => "INNER"
  | left => "LEFT"
  | right => "RIGHT"

end JoinType

/-- Whether the targets of a join are loaded or only serve conditions. -/
inductive JoinKind where
  | join
  | fetch
deriving DecidableEq

/-- The direction of an ordering. -/
inductive Direction where
  | ascending
  | descending
deriving DecidableEq

mutual

/-- An expression over the aliases of a plan. -/
inductive Expr where
  /-- Both conditions hold. -/
  | and (left right : Expr)
  /-- Both sides are equal. -/
  | equals (left right : Expr)
  /-- The left side equals one of several expressions. -/
  | isIn (left : Expr) (items : List Expr)
  /-- The left side equals something that a selection projects. -/
  | inSelect (left : Expr) (select : Select)
  /-- An attribute of what an alias is bound to. -/
  | column (table : Alias) (attr : String)
  /-- What an alias is bound to: an instance or an element of a collection. -/
  | table (table : Alias)
  /-- A literal value. -/
  | value (value : Value)

/-- A join that follows an attribute of the enclosing level. -/
structure Join where
  attr : String
  target : Alias
  kind : JoinKind
  type : JoinType
  /-- The condition on the target. -/
  on? : Option Expr
  /-- The joins from the target. -/
  joins : List Join

/-- An element of an ordering. -/
structure OrderTerm where
  key : Expr
  direction : Direction

/-- A selection of instances. -/
structure Select where
  /-- Whether equal results are dropped. -/
  distinct : Bool
  /-- The alias whose bindings are the result. -/
  projected : Alias
  entity : String
  root : Alias
  joins : List Join
  filter : Expr
  orderBy : List OrderTerm

end

namespace Expr

/-- The condition that always holds. -/
def true : Expr := .value (.bool Bool.true)

/-- Whether an expression is the literal that always holds. -/
def isTrue : Expr → Bool
  | .value (.bool Bool.true) => Bool.true
  | _ => Bool.false

/-- The left side equals one of several values. -/
def inValues (left : Expr) (values : List Value) : Expr :=
  .isIn left (values.map .value)

/-- Both conditions hold. A side that always holds is left out. -/
def both (left right : Expr) : Expr :=
  if left.isTrue then right else if right.isTrue then left else .and left right

/-- All conditions hold. -/
def conjunction (conditions : List Expr) : Expr :=
  conditions.foldl both Expr.true

end Expr

namespace Join

/-- A join along an attribute without a condition. -/
def plain (attr : String) (target : Alias) (type : JoinType) : Join :=
  ⟨attr, target, .join, type, none, []⟩

/-- Ask for a further condition on the target. -/
def andOn (join : Join) (condition : Expr) : Join :=
  { join with
    on? := some <| match join.on? with
      | none => condition
      | some present => present.both condition }

end Join

namespace Select

/-- All instances of an entity. -/
def everything (entity : String) (root : Alias) : Select :=
  ⟨false, root, entity, root, [], Expr.true, []⟩

end Select

end EntityGraph
