import EntityGraph.Plan.Basic

/-!
# Plans as query text

A plan is written as a list of tokens: fixed text, quoted identifiers, and parameters.
The text of the query shows the parameters as `$1`, `$2` and so on, in the order in which
they are met, and their values are listed beside it. Texts, doubles, identifiers, constants
and references are always parameters, so no such value becomes a part of the text.
-/

namespace EntityGraph

/-- A piece of a query. -/
inductive Token where
  /-- Text that is written as it is. -/
  | fixed (text : String)
  /-- A name, written between double quotes with inner quotes doubled. -/
  | identifier (name : String)
  /-- A value that is passed beside the text. -/
  | parameter (value : Value)

/-- An alias in a query. -/
def Alias.token (name : Alias) : Token :=
  .identifier name.text

/-- Lists of tokens separated by commas. -/
def separated : List (List Token) → List Token
  | [] => []
  | [only] => only
  | first :: rest => first ++ .fixed ", " :: separated rest

mutual

/-- A value in a query. -/
def Value.tokens : Value → List Token
  | .null => [.fixed "NULL"]
  | .bool true => [.fixed "true"]
  | .bool false => [.fixed "false"]
  | .int n => [.fixed (toString n)]
  | .array items => .fixed "ARRAY [" :: separated (Value.itemTokens items) ++ [.fixed "]"]
  | value => [.parameter value]

/-- Values in a query. -/
def Value.itemTokens : List Value → List (List Token)
  | [] => []
  | item :: rest => Value.tokens item :: Value.itemTokens rest

end

/-- The words of a join. -/
def JoinType.token : JoinType → Token
  | .inner => .fixed " INNER JOIN "
  | .left => .fixed " LEFT OUTER JOIN "
  | .right => .fixed " RIGHT OUTER JOIN "

/-- The word that marks a fetch. -/
def JoinKind.tokens : JoinKind → List Token
  | .join => []
  | .fetch => [.fixed "FETCH "]

/-- The word of a direction. -/
def Direction.token : Direction → Token
  | .ascending => .fixed " ASC"
  | .descending => .fixed " DESC"

mutual

/-- An expression in a query. -/
def Expr.tokens : Expr → List Token
  | .and left right =>
    .fixed "(" :: left.tokens ++ .fixed " AND " :: right.tokens ++ [.fixed ")"]
  | .equals left right =>
    .fixed "(" :: left.tokens ++ .fixed " = " :: right.tokens ++ [.fixed ")"]
  | .isIn left items =>
    .fixed "(" :: left.tokens ++ .fixed " IN " :: .fixed "(" :: separated (Expr.itemTokens items)
      ++ [.fixed ")", .fixed ")"]
  | .inSelect left select =>
    .fixed "(" :: left.tokens ++ .fixed " IN (" :: select.tokens ++ [.fixed "))"]
  | .column table attr => [table.token, .fixed ".", .identifier attr]
  | .table table => [table.token]
  | .value value => value.tokens

/-- Expressions in a query. -/
def Expr.itemTokens : List Expr → List (List Token)
  | [] => []
  | item :: rest => item.tokens :: Expr.itemTokens rest

/-- A join in a query, with the joins nested under it. It starts from the alias `source`. -/
def Join.tokens (source : Alias) : Join → List Token
  | ⟨attr, target, kind, type, on?, joins⟩ =>
    let condition := match on? with
      | none => []
      | some on => .fixed " ON " :: on.tokens
    type.token :: kind.tokens ++
      [source.token, .fixed ".", .identifier attr, .fixed " AS ", target.token]
      ++ condition ++ Join.listTokens target joins

/-- Joins in a query, all from the alias `source`. -/
def Join.listTokens (source : Alias) : List Join → List Token
  | [] => []
  | join :: rest => join.tokens source ++ Join.listTokens source rest

/-- An element of an ordering in a query. -/
def OrderTerm.tokens : OrderTerm → List Token
  | ⟨key, direction⟩ => key.tokens ++ [direction.token]

/-- Elements of an ordering in a query. -/
def OrderTerm.listTokens : List OrderTerm → List (List Token)
  | [] => []
  | term :: rest => term.tokens :: OrderTerm.listTokens rest

/-- A selection in a query. A condition that always holds and an empty ordering are left out. -/
def Select.tokens : Select → List Token
  | ⟨distinct, projected, entity, root, joins, filter, orderBy⟩ =>
    .fixed "SELECT " :: (if distinct then [.fixed "DISTINCT "] else []) ++
      [projected.token, .fixed " ", .fixed "FROM ", .identifier entity, .fixed " AS ", root.token]
      ++ Join.listTokens root joins
      ++ (if filter.isTrue then [] else .fixed " WHERE " :: filter.tokens)
      ++ (match orderBy with
        | [] => []
        | terms => .fixed " ORDER BY " :: separated (OrderTerm.listTokens terms))

end

/-- The text of an identifier. -/
def quotedIdentifier (name : String) : List Char :=
  '"' :: name.toList.flatMap (fun c => if c = '"' then ['"', '"'] else [c]) ++ ['"']

/-- The characters of tokens, the first parameter having the number `index`. -/
def Token.chars (index : Nat) : List Token → List Char
  | [] => []
  | .fixed text :: rest => text.toList ++ Token.chars index rest
  | .identifier name :: rest => quotedIdentifier name ++ Token.chars index rest
  | .parameter _ :: rest => '$' :: (toString index).toList ++ Token.chars (index + 1) rest

/-- The value of a parameter. -/
def Token.parameter? : Token → Option Value
  | .parameter value => some value
  | _ => none

/-- A query and the values of its parameters. -/
structure Sql where
  text : String
  parameters : List Value

/-- The query of a plan. -/
def Select.sql (select : Select) : Sql :=
  ⟨String.ofList (Token.chars 1 select.tokens), select.tokens.filterMap Token.parameter?⟩

end EntityGraph
