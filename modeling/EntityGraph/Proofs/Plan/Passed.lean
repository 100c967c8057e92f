import EntityGraph.Plan.Sql
import EntityGraph.Proofs.Plan.Scoping
import Mathlib.Data.List.Basic

/-!
# Values that are passed beside a query

Texts, doubles, identifiers, constants and references are passed beside the text of a query. The
values that a plan passes are listed part by part, as its parts stand in the query: the condition of
a join before the joins nested under it, the joins before the filter, and the ordering last. A plan
is blanked by putting one fixed text in the place of each of them, so two plans are alike when they
are blanked exactly if they differ in nothing but values that are passed.
-/

namespace EntityGraph

/-! ## Passed values -/

mutual

/-- The values that a value passes: those of its items, and otherwise itself, unless it is written
as it is. -/
def Value.passed : Value → List Value
  | .null | .bool _ | .int _ => []
  | .array items => Value.allPassed items
  | value => [value]

/-- The values that values pass. -/
def Value.allPassed : List Value → List Value
  | [] => []
  | item :: rest => item.passed ++ Value.allPassed rest

end

mutual

/-- The values that an expression passes. -/
def Expr.passed : Expr → List Value
  | .and left right | .equals left right => left.passed ++ right.passed
  | .isIn left items => left.passed ++ Expr.allPassed items
  | .inSelect left select => left.passed ++ select.passed
  | .column .. | .table _ => []
  | .value value => value.passed

/-- The values that expressions pass. -/
def Expr.allPassed : List Expr → List Value
  | [] => []
  | item :: rest => item.passed ++ Expr.allPassed rest

/-- The values that an expression passes, if there is one. -/
def Expr.passedIfAny : Option Expr → List Value
  | none => []
  | some condition => condition.passed

/-- The values that a join passes in its condition and in the joins below it. -/
def Join.passed : Join → List Value
  | ⟨_, _, _, _, on?, joins⟩ => Expr.passedIfAny on? ++ Join.allPassed joins

/-- The values that joins pass. -/
def Join.allPassed : List Join → List Value
  | [] => []
  | join :: rest => join.passed ++ Join.allPassed rest

/-- The values that the key of an ordering passes. -/
def OrderTerm.passed : OrderTerm → List Value
  | ⟨key, _⟩ => key.passed

/-- The values that the keys of an ordering pass. -/
def OrderTerm.allPassed : List OrderTerm → List Value
  | [] => []
  | term :: rest => term.passed ++ OrderTerm.allPassed rest

/-- The values that a selection passes. -/
def Select.passed : Select → List Value
  | ⟨_, _, _, _, joins, filter, orderBy⟩ =>
    Join.allPassed joins ++ filter.passed ++ OrderTerm.allPassed orderBy

end

/-! ## Blanked plans -/

mutual

/-- A value with a fixed text in the place of each value that it passes. -/
def Value.blanked : Value → Value
  | .null => .null
  | .bool b => .bool b
  | .int n => .int n
  | .array items => .array (Value.allBlanked items)
  | _ => .string ""

/-- Values with a fixed text in the place of each value that they pass. -/
def Value.allBlanked : List Value → List Value
  | [] => []
  | item :: rest => item.blanked :: Value.allBlanked rest

end

mutual

/-- An expression with a fixed text in the place of each value that it passes. -/
def Expr.blanked : Expr → Expr
  | .and left right => .and left.blanked right.blanked
  | .equals left right => .equals left.blanked right.blanked
  | .isIn left items => .isIn left.blanked (Expr.allBlanked items)
  | .inSelect left select => .inSelect left.blanked select.blanked
  | .column table attr => .column table attr
  | .table table => .table table
  | .value value => .value value.blanked

/-- Expressions with a fixed text in the place of each value that they pass. -/
def Expr.allBlanked : List Expr → List Expr
  | [] => []
  | item :: rest => item.blanked :: Expr.allBlanked rest

/-- An expression, if there is one, with a fixed text in the place of each value that it passes. -/
def Expr.blankedIfAny : Option Expr → Option Expr
  | none => none
  | some condition => some condition.blanked

/-- A join with a fixed text in the place of each value that it passes. -/
def Join.blanked : Join → Join
  | ⟨attr, target, kind, type, on?, joins⟩ =>
    ⟨attr, target, kind, type, Expr.blankedIfAny on?, Join.allBlanked joins⟩

/-- Joins with a fixed text in the place of each value that they pass. -/
def Join.allBlanked : List Join → List Join
  | [] => []
  | join :: rest => join.blanked :: Join.allBlanked rest

/-- An element of an ordering with a fixed text in the place of each value that it passes. -/
def OrderTerm.blanked : OrderTerm → OrderTerm
  | ⟨key, direction⟩ => ⟨key.blanked, direction⟩

/-- Elements of an ordering with a fixed text in the place of each value that they pass. -/
def OrderTerm.allBlanked : List OrderTerm → List OrderTerm
  | [] => []
  | term :: rest => term.blanked :: OrderTerm.allBlanked rest

/-- A selection with a fixed text in the place of each value that it passes. -/
def Select.blanked : Select → Select
  | ⟨distinct, projected, entity, root, joins, filter, orderBy⟩ =>
    ⟨distinct, projected, entity, root, Join.allBlanked joins, filter.blanked,
      OrderTerm.allBlanked orderBy⟩

end

/-! ## Tokens -/

theorem separated_cons_cons (first second : List Token) (rest : List (List Token)) :
    separated (first :: second :: rest) = first ++ .fixed ", " :: separated (second :: rest) :=
  rfl

namespace Token

/-- The values of the parameters among tokens. -/
def values (tokens : List Token) : List Value :=
  tokens.filterMap parameter?

@[simp] theorem values_nil : values [] = [] := rfl

@[simp] theorem values_fixed_cons (text : String) (rest : List Token) :
    values (.fixed text :: rest) = values rest := rfl

@[simp] theorem values_identifier_cons (name : String) (rest : List Token) :
    values (.identifier name :: rest) = values rest := rfl

@[simp] theorem values_parameter_cons (value : Value) (rest : List Token) :
    values (.parameter value :: rest) = value :: values rest := rfl

@[simp] theorem values_alias_cons (name : Alias) (rest : List Token) :
    values (name.token :: rest) = values rest := rfl

@[simp] theorem values_joinType_cons (type : JoinType) (rest : List Token) :
    values (type.token :: rest) = values rest := by
  cases type <;> rfl

@[simp] theorem values_joinKind (kind : JoinKind) : values kind.tokens = [] := by
  cases kind <;> rfl

@[simp] theorem values_direction_cons (direction : Direction) (rest : List Token) :
    values (direction.token :: rest) = values rest := by
  cases direction <;> rfl

@[simp] theorem values_append (tokens others : List Token) :
    values (tokens ++ others) = values tokens ++ values others :=
  List.filterMap_append

/-- Commas are no parameters. -/
@[simp] theorem values_separated (parts : List (List Token)) :
    values (separated parts) = parts.flatMap values := by
  induction parts with
  | nil => rfl
  | cons first rest inductionHypothesis =>
    cases rest with
    | nil => simp [separated]
    | cons second others =>
      rw [separated_cons_cons, values_append, values_fixed_cons, inductionHypothesis]
      exact List.flatMap_cons.symm

/-- A token with a fixed text in the place of the value of a parameter. -/
def blanked : Token → Token
  | .parameter _ => .parameter (.string "")
  | token => token

@[simp] theorem blanked_fixed (text : String) : blanked (.fixed text) = .fixed text := rfl

@[simp] theorem blanked_identifier (name : String) :
    blanked (.identifier name) = .identifier name := rfl

@[simp] theorem blanked_alias (name : Alias) : blanked name.token = name.token := rfl

@[simp] theorem blanked_joinType (type : JoinType) : blanked type.token = type.token := by
  cases type <;> rfl

@[simp] theorem map_blanked_joinKind (kind : JoinKind) :
    kind.tokens.map blanked = kind.tokens := by
  cases kind <;> rfl

@[simp] theorem blanked_direction (direction : Direction) :
    blanked direction.token = direction.token := by
  cases direction <;> rfl

/-- Commas are blanked to commas. -/
@[simp] theorem map_blanked_separated (parts : List (List Token)) :
    (separated parts).map blanked = separated (parts.map (List.map blanked)) := by
  induction parts with
  | nil => rfl
  | cons first rest inductionHypothesis =>
    cases rest with
    | nil => rfl
    | cons second others =>
      rw [separated_cons_cons, List.map_append, List.map_cons, inductionHypothesis]
      rfl

/-- What a parameter is passed for does not show in the text. -/
theorem chars_map_blanked (index : Nat) (tokens : List Token) :
    chars index (tokens.map blanked) = chars index tokens := by
  induction tokens generalizing index with
  | nil => rfl
  | cons token rest inductionHypothesis =>
    cases token <;> simp [blanked, chars, inductionHypothesis]

end Token

/-! ## Parameters of plans -/

mutual

/-- The parameters of a value are the values that it passes. -/
theorem Value.values_tokens : (value : Value) → Token.values value.tokens = value.passed
  | .array items => by
    simp [Value.tokens, Value.passed, Value.flatMap_values_itemTokens items]
  | .null | .bool true | .bool false | .int _ | .float _ | .string _ | .uuid _ | .enum ..
  | .entity _ => rfl

theorem Value.flatMap_values_itemTokens : (items : List Value) →
    (Value.itemTokens items).flatMap Token.values = Value.allPassed items
  | [] => rfl
  | item :: rest => by
    rw [Value.itemTokens, List.flatMap_cons, item.values_tokens,
      Value.flatMap_values_itemTokens rest, Value.allPassed]

end

mutual

/-- The parameters of an expression are the values that it passes. -/
theorem Expr.values_tokens : (expr : Expr) → Token.values expr.tokens = expr.passed
  | .and left right | .equals left right => by
    simp [Expr.tokens, Expr.passed, left.values_tokens, right.values_tokens]
  | .isIn left items => by
    simp [Expr.tokens, Expr.passed, left.values_tokens, Expr.flatMap_values_itemTokens items]
  | .inSelect left select => by
    simp [Expr.tokens, Expr.passed, left.values_tokens, select.values_tokens]
  | .column .. | .table _ => rfl
  | .value value => value.values_tokens

theorem Expr.flatMap_values_itemTokens : (items : List Expr) →
    (Expr.itemTokens items).flatMap Token.values = Expr.allPassed items
  | [] => rfl
  | item :: rest => by
    rw [Expr.itemTokens, List.flatMap_cons, item.values_tokens,
      Expr.flatMap_values_itemTokens rest, Expr.allPassed]

/-- The parameters of joins are the values that they pass. -/
theorem Join.values_listTokens (source : Alias) : (joins : List Join) →
    Token.values (Join.listTokens source joins) = Join.allPassed joins
  | [] => rfl
  | ⟨attr, target, kind, type, none, joins⟩ :: rest => by
    simp [Join.listTokens, Join.tokens, Join.allPassed, Join.passed, Expr.passedIfAny,
      Join.values_listTokens target joins, Join.values_listTokens source rest]
  | ⟨attr, target, kind, type, some on, joins⟩ :: rest => by
    simp [Join.listTokens, Join.tokens, Join.allPassed, Join.passed, Expr.passedIfAny,
      on.values_tokens, Join.values_listTokens target joins, Join.values_listTokens source rest]

theorem OrderTerm.flatMap_values_listTokens : (terms : List OrderTerm) →
    (OrderTerm.listTokens terms).flatMap Token.values = OrderTerm.allPassed terms
  | [] => rfl
  | ⟨key, direction⟩ :: rest => by
    simp [OrderTerm.listTokens, OrderTerm.tokens, OrderTerm.allPassed, OrderTerm.passed,
      key.values_tokens, OrderTerm.flatMap_values_listTokens rest]

/-- The parameters of a selection are the values that it passes. -/
theorem Select.values_tokens : (select : Select) → Token.values select.tokens = select.passed
  | ⟨distinct, projected, entity, root, joins, filter, orderBy⟩ => by
    have marked : Token.values (if distinct then [.fixed "DISTINCT "] else []) = [] := by
      cases distinct <;> rfl
    have filtered : Token.values (if filter.isTrue then [] else .fixed " WHERE " :: filter.tokens) =
        filter.passed := by
      rw [← filter.values_tokens]
      split
      · next always => rw [Expr.eq_true_of_isTrue always]; rfl
      · rfl
    have ordered := OrderTerm.flatMap_values_listTokens orderBy
    cases orderBy <;>
      simp [Select.tokens, Select.passed, marked, filtered, Join.values_listTokens root joins,
        ordered, OrderTerm.allPassed]

end

/-! ## Tokens of blanked plans -/

mutual

/-- Blanking a value blanks its tokens. -/
theorem Value.tokens_blanked : (value : Value) →
    value.blanked.tokens = value.tokens.map Token.blanked
  | .array items => by
    simp [Value.blanked, Value.tokens, Value.itemTokens_allBlanked items]
  | .null | .bool true | .bool false | .int _ | .float _ | .string _ | .uuid _ | .enum ..
  | .entity _ => rfl

theorem Value.itemTokens_allBlanked : (items : List Value) →
    Value.itemTokens (Value.allBlanked items) =
      (Value.itemTokens items).map (List.map Token.blanked)
  | [] => rfl
  | item :: rest => by
    rw [Value.allBlanked, Value.itemTokens, Value.itemTokens, List.map_cons, item.tokens_blanked,
      Value.itemTokens_allBlanked rest]

end

/-- The literal that always holds is neither blanked nor made by blanking. -/
theorem Expr.isTrue_blanked (expr : Expr) : expr.blanked.isTrue = expr.isTrue := by
  cases expr with
  | value value => cases value <;> rfl
  | _ => rfl

mutual

/-- Blanking an expression blanks its tokens. -/
theorem Expr.tokens_blanked : (expr : Expr) →
    expr.blanked.tokens = expr.tokens.map Token.blanked
  | .and left right | .equals left right => by
    simp [Expr.blanked, Expr.tokens, left.tokens_blanked, right.tokens_blanked]
  | .isIn left items => by
    simp [Expr.blanked, Expr.tokens, left.tokens_blanked, Expr.itemTokens_allBlanked items]
  | .inSelect left select => by
    simp [Expr.blanked, Expr.tokens, left.tokens_blanked, select.tokens_blanked]
  | .column .. | .table _ => rfl
  | .value value => value.tokens_blanked

theorem Expr.itemTokens_allBlanked : (items : List Expr) →
    Expr.itemTokens (Expr.allBlanked items) = (Expr.itemTokens items).map (List.map Token.blanked)
  | [] => rfl
  | item :: rest => by
    rw [Expr.allBlanked, Expr.itemTokens, Expr.itemTokens, List.map_cons, item.tokens_blanked,
      Expr.itemTokens_allBlanked rest]

/-- Blanking joins blanks their tokens. -/
theorem Join.listTokens_allBlanked (source : Alias) : (joins : List Join) →
    Join.listTokens source (Join.allBlanked joins) =
      (Join.listTokens source joins).map Token.blanked
  | [] => rfl
  | ⟨attr, target, kind, type, none, joins⟩ :: rest => by
    simp [Join.allBlanked, Join.blanked, Expr.blankedIfAny, Join.listTokens, Join.tokens,
      Join.listTokens_allBlanked target joins, Join.listTokens_allBlanked source rest]
  | ⟨attr, target, kind, type, some on, joins⟩ :: rest => by
    simp [Join.allBlanked, Join.blanked, Expr.blankedIfAny, Join.listTokens, Join.tokens,
      on.tokens_blanked, Join.listTokens_allBlanked target joins,
      Join.listTokens_allBlanked source rest]

theorem OrderTerm.listTokens_allBlanked : (terms : List OrderTerm) →
    OrderTerm.listTokens (OrderTerm.allBlanked terms) =
      (OrderTerm.listTokens terms).map (List.map Token.blanked)
  | [] => rfl
  | ⟨key, direction⟩ :: rest => by
    simp [OrderTerm.allBlanked, OrderTerm.blanked, OrderTerm.listTokens, OrderTerm.tokens,
      key.tokens_blanked, OrderTerm.listTokens_allBlanked rest]

/-- Blanking a selection blanks its tokens. -/
theorem Select.tokens_blanked : (select : Select) →
    select.blanked.tokens = select.tokens.map Token.blanked
  | ⟨distinct, projected, entity, root, joins, filter, orderBy⟩ => by
    have marked : (if distinct then [.fixed "DISTINCT "] else []).map Token.blanked =
        if distinct then [.fixed "DISTINCT "] else [] := by
      cases distinct <;> rfl
    have filtered : (if filter.isTrue then [] else .fixed " WHERE " :: filter.tokens).map
        Token.blanked = if filter.isTrue then [] else .fixed " WHERE " :: filter.blanked.tokens := by
      rw [filter.tokens_blanked]
      split <;> rfl
    have ordered := OrderTerm.listTokens_allBlanked orderBy
    cases orderBy with
    | nil =>
      simp [Select.blanked, Select.tokens, OrderTerm.allBlanked, marked, filtered,
        filter.isTrue_blanked, Join.listTokens_allBlanked root joins]
    | cons term others =>
      rw [OrderTerm.allBlanked] at ordered
      simp [Select.blanked, Select.tokens, OrderTerm.allBlanked, marked, filtered,
        filter.isTrue_blanked, Join.listTokens_allBlanked root joins, ordered]

end

end EntityGraph
