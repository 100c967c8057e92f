import EntityGraph.Proofs.Plan.Reading

/-!
# Reading expressions

The first symbol of an expression tells what it is: a parenthesis opens an expression with two
sides, a name is an alias, and anything else is a value. Behind the left side stands the operator.
An expression with two sides is read back if its sides are.
-/

namespace EntityGraph

open EntityGraph.Symbol

/-- A selection begins as no expression does. -/
theorem Select.exists_symbols_eq (select : Select) :
    ∃ rest, select.symbols = .char 'S' :: rest := by
  obtain ⟨distinct, projected, entity, root, joins, filter, orderBy⟩ := select
  rw [← List.append_nil (symbols _), symbols_append]
  exact ⟨_, rfl⟩

namespace Expr

/-- The symbol that an expression begins with. -/
def initial : Expr → Symbol
  | .and .. | .equals .. | .isIn .. | .inSelect .. => .char '('
  | .column name _ | .table name => .quoted name.text
  | .value literal => literal.initial

/-- What stands between the two sides of an expression. -/
def operators : List String :=
  [" AND ", " = ", " IN ("]

/-- The left side of an expression with two sides, its operator, and the symbols behind it. -/
def sides? : Expr → Option (Expr × String × List Symbol)
  | .and left right => some (left, " AND ", right.symbols ++ text ")")
  | .equals left right => some (left, " = ", right.symbols ++ text ")")
  | .isIn left items => some (left, " IN (", listed (items.map symbols) ++ text "))")
  | .inSelect left select => some (left, " IN (", select.symbols ++ text "))")
  | .column .. | .table _ | .value _ => none

section Sides

variable {expr left : Expr} {operator : String} {behind : List Symbol}

theorem symbols_append_of_sides (sides : expr.sides? = some (left, operator, behind))
    (rest : List Symbol) :
    expr.symbols ++ rest =
      text "(" ++ (left.symbols ++ (text operator ++ (behind ++ rest))) := by
  cases expr <;> cases sides
  · simp only [symbols_and_append, List.append_assoc]
  · simp only [symbols_equals_append, List.append_assoc]
  · simp only [symbols_isIn_append, List.append_assoc]
  · simp only [symbols_inSelect_append, List.append_assoc]

theorem mem_operators_of_sides (sides : expr.sides? = some (left, operator, behind)) :
    operator ∈ operators := by
  cases expr <;> cases sides <;> decide

theorem initial_of_sides (sides : expr.sides? = some (left, operator, behind)) :
    expr.initial = .char '(' := by
  cases expr <;> cases sides <;> rfl

/-- What begins with a parenthesis has two sides. -/
theorem exists_sides_of_initial (start : expr.initial = .char '(') :
    ∃ left operator behind, expr.sides? = some (left, operator, behind) := by
  cases expr with
  | column _ _ => cases start
  | table _ => cases start
  | value literal => exact absurd start literal.initial_ne.1
  | _ => exact ⟨_, _, _, rfl⟩

/-- No operator is the beginning of another. -/
theorem operator_eq_of_append_eq {operator other : String} (member : operator ∈ operators)
    (memberToo : other ∈ operators) {rest further : List Symbol}
    (same : text operator ++ rest = text other ++ further) :
    operator = other ∧ rest = further := by
  have apart : ∀ operator ∈ operators, ∀ other ∈ operators, operator = other ∨
      ¬ operator.toList <+: other.toList ∧ ¬ other.toList <+: operator.toList := by decide
  rcases apart operator member other memberToo with rfl | apart
  · exact ⟨rfl, List.append_cancel_left same⟩
  · exact absurd same (text_append_ne apart)

theorem closes_operator_append (member : operator ∈ operators) (rest : List Symbol) :
    Closes (text operator ++ rest) := by
  have blank : ∀ operator ∈ operators, operator.toList.head? = some ' ' := by decide
  exact closes_text_append (blank operator member) rest

end Sides

theorem exists_symbols_eq (expr : Expr) : ∃ rest, expr.symbols = expr.initial :: rest := by
  have ofSides {left : Expr} {operator : String} {behind : List Symbol}
      (sides : expr.sides? = some (left, operator, behind)) :
      ∃ rest, expr.symbols = expr.initial :: rest := by
    have written := symbols_append_of_sides sides []
    rw [List.append_nil] at written
    exact ⟨_, by rw [written, initial_of_sides sides]; rfl⟩
  cases expr with
  | value literal =>
    obtain ⟨rest, begins⟩ := literal.exists_symbols_eq
    exact ⟨rest, by rw [symbols, tokens]; exact begins⟩
  | column name attr => exact ⟨_, by rw [symbols, tokens]; rfl⟩
  | table name => exact ⟨_, by rw [symbols, tokens]; rfl⟩
  | _ => exact ofSides rfl

theorem opens_initial (expr : Expr) : expr.initial.Opens := by
  cases expr with
  | value literal => exact literal.opens_initial
  | column _ _ => exact trivial
  | table _ => exact trivial
  | _ => simp [initial, Opens]

theorem exists_opens (expr : Expr) :
    ∃ first others, expr.symbols = first :: others ∧ first.Opens := by
  obtain ⟨others, begins⟩ := exists_symbols_eq expr
  exact ⟨_, others, begins, opens_initial expr⟩

/-- An expression with two sides is read back if its left side is, and what is behind the operator
tells it from all others with this left side and this operator. -/
theorem readable_of_sides {expr left : Expr} {operator : String} {behind : List Symbol}
    (sides : expr.sides? = some (left, operator, behind))
    (leftReadable : Readable Closes symbols left)
    (told : ∀ {other : Expr} {behindToo rest further : List Symbol},
      other.sides? = some (left, operator, behindToo) → behind ++ rest = behindToo ++ further →
        expr = other ∧ rest = further) :
    Readable Closes symbols expr := by
  intro other rest further _ _ same
  have start := (initial_eq_of_append_eq exists_symbols_eq same).symm.trans (initial_of_sides sides)
  obtain ⟨leftToo, operatorToo, behindToo, sidesToo⟩ := exists_sides_of_initial start
  have member := mem_operators_of_sides sides
  have memberToo := mem_operators_of_sides sidesToo
  rw [symbols_append_of_sides sides, symbols_append_of_sides sidesToo] at same
  obtain ⟨rfl, operated⟩ := leftReadable (closes_operator_append member _)
    (closes_operator_append memberToo _) (List.append_cancel_left same)
  obtain ⟨rfl, remaining⟩ := operator_eq_of_append_eq member memberToo operated
  exact told sidesToo remaining

theorem readable_and {left right : Expr} (leftReadable : Readable Closes symbols left)
    (rightReadable : Readable Closes symbols right) :
    Readable Closes symbols (.and left right) := by
  refine readable_of_sides rfl leftReadable fun {other _ rest further} sides same => ?_
  cases other with
  | and left' right' =>
    cases sides
    obtain ⟨rfl, rests⟩ := rightReadable.closed (fun _ => by simp [text, Closes]) same
    exact ⟨rfl, rests⟩
  | _ => simp [sides?] at sides

theorem readable_equals {left right : Expr} (leftReadable : Readable Closes symbols left)
    (rightReadable : Readable Closes symbols right) :
    Readable Closes symbols (.equals left right) := by
  refine readable_of_sides rfl leftReadable fun {other _ rest further} sides same => ?_
  cases other with
  | equals left' right' =>
    cases sides
    obtain ⟨rfl, rests⟩ := rightReadable.closed (fun _ => by simp [text, Closes]) same
    exact ⟨rfl, rests⟩
  | _ => simp [sides?] at sides

/-- A list of expressions does not begin like a selection. -/
theorem listed_append_ne (items : List Expr) (select : Select) (rest further : List Symbol) :
    listed (items.map symbols) ++ (text "))" ++ rest) ≠ select.symbols ++ further := by
  obtain ⟨others, begins⟩ := select.exists_symbols_eq
  rw [begins]
  cases items with
  | nil => simp [listed, text]
  | cons item items =>
    obtain ⟨first, _, itemBegins, opens⟩ := exists_opens item
    intro same
    simp only [List.map_cons, listed, itemBegins, List.cons_append] at same
    rw [(List.cons.inj same).1] at opens
    simp [Opens] at opens

theorem readable_isIn {left : Expr} {items : List Expr}
    (leftReadable : Readable Closes symbols left)
    (itemsReadable : ∀ item ∈ items, Readable Closes symbols item) :
    Readable Closes symbols (.isIn left items) := by
  refine readable_of_sides rfl leftReadable fun {other _ rest further} sides same => ?_
  cases other with
  | isIn left' others =>
    cases sides
    obtain ⟨rfl, rests⟩ := (readable_listed exists_opens itemsReadable).closed
      (fun _ => by simp [text, ClosesList]) same
    exact ⟨rfl, rests⟩
  | inSelect left' select =>
    cases sides
    rw [List.append_assoc, List.append_assoc] at same
    exact (listed_append_ne _ _ _ _ same).elim
  | _ => simp [sides?] at sides

theorem readable_inSelect {left : Expr} {select : Select}
    (leftReadable : Readable Closes symbols left)
    (selectReadable : Readable ClosesList Select.symbols select) :
    Readable Closes symbols (.inSelect left select) := by
  refine readable_of_sides rfl leftReadable fun {other _ rest further} sides same => ?_
  cases other with
  | inSelect left' select' =>
    cases sides
    obtain ⟨rfl, rests⟩ := selectReadable.closed (fun _ => by simp [text, ClosesList]) same
    exact ⟨rfl, rests⟩
  | isIn left' items =>
    cases sides
    rw [List.append_assoc, List.append_assoc] at same
    exact (listed_append_ne _ _ _ _ same.symm).elim
  | _ => simp [sides?] at sides

theorem readable_column (name : Alias) (attr : String) :
    Readable Closes symbols (.column name attr) := by
  intro other rest further ends endsToo same
  have start := initial_eq_of_append_eq exists_symbols_eq same
  cases other with
  | column name' attr' =>
    rw [symbols_column_append, symbols_column_append] at same
    obtain ⟨names, remaining⟩ := List.cons.inj same
    obtain ⟨attrs, rests⟩ := List.cons.inj (List.append_cancel_left remaining)
    obtain rfl := Alias.text_injective (Symbol.quoted.inj names)
    obtain rfl := Symbol.quoted.inj attrs
    exact ⟨rfl, rests⟩
  | table name' =>
    rw [symbols_column_append, symbols_table_append] at same
    obtain ⟨_, rfl⟩ := List.cons.inj same
    simp [text, Closes] at endsToo
  | value literal => exact absurd start.symm (literal.initial_ne.2 _)
  | _ => cases start

theorem readable_table (name : Alias) : Readable Closes symbols (.table name) := by
  intro other rest further ends endsToo same
  have start := initial_eq_of_append_eq exists_symbols_eq same
  cases other with
  | table name' =>
    rw [symbols_table_append, symbols_table_append] at same
    obtain ⟨names, rests⟩ := List.cons.inj same
    obtain rfl := Alias.text_injective (Symbol.quoted.inj names)
    exact ⟨rfl, rests⟩
  | column name' attr' =>
    rw [symbols_column_append, symbols_table_append] at same
    obtain ⟨_, rfl⟩ := List.cons.inj same
    simp [text, Closes] at ends
  | value literal => exact absurd start.symm (literal.initial_ne.2 _)
  | _ => cases start

theorem readable_value (literal : Value) : Readable Closes symbols (.value literal) := by
  intro other rest further ends endsToo same
  have start := initial_eq_of_append_eq exists_symbols_eq same
  cases other with
  | value literal' =>
    obtain ⟨rfl, rests⟩ := literal.readable ends endsToo same
    exact ⟨rfl, rests⟩
  | column _ _ => exact absurd start (literal.initial_ne.2 _)
  | table _ => exact absurd start (literal.initial_ne.2 _)
  | _ => exact absurd start literal.initial_ne.1

end Expr

end EntityGraph
