import EntityGraph.Planning.Conditions

/-!
# Aliases of a plan

A plan introduces aliases and refers to them. Which alias a reference means depends on its index
alone, so a plan makes sense only if the indices differ and every reference is to an alias that
is bound where the reference stands. This module says which aliases the parts of a plan introduce
and refer to, and when a plan is well scoped.

A selection inside an expression has aliases of its own. What an expression mentions leaves them
out; what it refers to includes them.
-/

namespace EntityGraph

/-! ## Introduced and referred to -/

mutual

/-- The aliases that the selections inside an expression introduce. -/
def Expr.introduced : Expr → List Alias
  | .and left right | .equals left right => left.introduced ++ right.introduced
  | .isIn left items => left.introduced ++ Expr.allIntroduced items
  | .inSelect left select => left.introduced ++ select.introduced
  | .column .. | .table _ | .value _ => []

/-- The aliases that the selections inside expressions introduce. -/
def Expr.allIntroduced : List Expr → List Alias
  | [] => []
  | item :: rest => item.introduced ++ Expr.allIntroduced rest

/-- The aliases that the selections inside an expression introduce, if there is one. -/
def Expr.introducedIfAny : Option Expr → List Alias
  | none => []
  | some condition => condition.introduced

/-- The aliases that a join introduces: its target, those in its condition and those of the joins
below it. -/
def Join.introduced : Join → List Alias
  | ⟨_, target, _, _, on?, joins⟩ =>
    target :: Expr.introducedIfAny on? ++ Join.allIntroduced joins

/-- The aliases that joins introduce. -/
def Join.allIntroduced : List Join → List Alias
  | [] => []
  | join :: rest => join.introduced ++ Join.allIntroduced rest

/-- The aliases that the key of an ordering introduces. -/
def OrderTerm.introduced : OrderTerm → List Alias
  | ⟨key, _⟩ => key.introduced

/-- The aliases that the keys of an ordering introduce. -/
def OrderTerm.allIntroduced : List OrderTerm → List Alias
  | [] => []
  | term :: rest => term.introduced ++ OrderTerm.allIntroduced rest

/-- The aliases that a selection introduces, at any depth. -/
def Select.introduced : Select → List Alias
  | ⟨_, _, _, root, joins, filter, orderBy⟩ =>
    root :: Join.allIntroduced joins ++ filter.introduced ++ OrderTerm.allIntroduced orderBy

end

mutual

/-- The aliases that an expression refers to, selections inside it included. -/
def Expr.references : Expr → List Alias
  | .and left right | .equals left right => left.references ++ right.references
  | .isIn left items => left.references ++ Expr.allReferences items
  | .inSelect left select => left.references ++ select.references
  | .column name _ => [name]
  | .table name => [name]
  | .value _ => []

/-- The aliases that expressions refer to. -/
def Expr.allReferences : List Expr → List Alias
  | [] => []
  | item :: rest => item.references ++ Expr.allReferences rest

/-- The aliases that an expression refers to, if there is one. -/
def Expr.referencesIfAny : Option Expr → List Alias
  | none => []
  | some condition => condition.references

/-- The aliases that the conditions of a join and of the joins below it refer to. -/
def Join.references : Join → List Alias
  | ⟨_, _, _, _, on?, joins⟩ => Expr.referencesIfAny on? ++ Join.allReferences joins

/-- The aliases that the conditions of joins refer to. -/
def Join.allReferences : List Join → List Alias
  | [] => []
  | join :: rest => join.references ++ Join.allReferences rest

/-- The aliases that the key of an ordering refers to. -/
def OrderTerm.references : OrderTerm → List Alias
  | ⟨key, _⟩ => key.references

/-- The aliases that the keys of an ordering refer to. -/
def OrderTerm.allReferences : List OrderTerm → List Alias
  | [] => []
  | term :: rest => term.references ++ OrderTerm.allReferences rest

/-- The aliases that a selection refers to, at any depth. -/
def Select.references : Select → List Alias
  | ⟨_, projected, _, _, joins, filter, orderBy⟩ =>
    projected :: Join.allReferences joins ++ filter.references ++
      OrderTerm.allReferences orderBy

end

mutual

/-- The aliases that an expression refers to outside of the selections inside it. -/
def Expr.mentioned : Expr → List Alias
  | .and left right | .equals left right => left.mentioned ++ right.mentioned
  | .isIn left items => left.mentioned ++ Expr.allMentioned items
  | .inSelect left _ => left.mentioned
  | .column name _ => [name]
  | .table name => [name]
  | .value _ => []

/-- The aliases that expressions refer to outside of the selections inside them. -/
def Expr.allMentioned : List Expr → List Alias
  | [] => []
  | item :: rest => item.mentioned ++ Expr.allMentioned rest

end

mutual

/-- The selections inside an expression. -/
def Expr.selects : Expr → List Select
  | .and left right | .equals left right => left.selects ++ right.selects
  | .isIn left items => left.selects ++ Expr.allSelects items
  | .inSelect left select => left.selects ++ [select]
  | .column .. | .table _ | .value _ => []

/-- The selections inside expressions. -/
def Expr.allSelects : List Expr → List Select
  | [] => []
  | item :: rest => item.selects ++ Expr.allSelects rest

end

mutual

/-- The targets of fetches that are reached through fetches alone. -/
def Join.fetched : Join → List Alias
  | ⟨_, target, kind, _, _, joins⟩ =>
    match kind with
    | .fetch => target :: Join.allFetched joins
    | .join => []

/-- The targets of fetches, among joins, that are reached through fetches alone. -/
def Join.allFetched : List Join → List Alias
  | [] => []
  | join :: rest => join.fetched ++ Join.allFetched rest

end

mutual

/-- Whether the condition of a join refers to its target alone, and so on for the joins below. -/
def Join.Scoped : Join → Prop
  | ⟨_, target, _, _, on?, joins⟩ =>
    (∀ on ∈ on?, ∀ name ∈ on.references, name = target) ∧ Join.AllScoped joins

/-- Whether the conditions of joins refer to their targets alone. -/
def Join.AllScoped : List Join → Prop
  | [] => True
  | join :: rest => join.Scoped ∧ Join.AllScoped rest

end

/-- A plan whose aliases can be told apart and whose references are all to aliases that are bound
where they stand. `elements` are the aliases of the joins that filters of the root need. -/
structure Select.WellScoped (select : Select) (elements : List Alias) : Prop where
  distinct : (select.introduced.map Alias.index).Nodup
  projected : select.projected = select.root
  joins : ∃ selected, select.joins =
    selected ++ elements.map fun element => .plain element.name element .left
  conditions : Join.AllScoped select.joins
  filter : ∀ name ∈ select.filter.mentioned, name = select.root ∨ name ∈ elements
  inner : ∀ inner ∈ select.filter.selects, ∃ first second, inner.introduced = [first, second] ∧
    ∀ name ∈ inner.references, name = first ∨ name = second
  ordering : ∀ term ∈ select.orderBy, ∃ name attr, term.key = .column name attr ∧
    (name = select.root ∨ name ∈ Join.allFetched select.joins)

/-! ## Conditions -/

namespace Expr

/-- The literal that always holds is the only one of its kind. -/
theorem eq_true_of_isTrue {condition : Expr} (literal : condition.isTrue) :
    condition = Expr.true := by
  unfold isTrue at literal
  split at literal
  · rfl
  · cases literal

/-- What is collected from expressions side by side and item by item, and not from literals. -/
structure Collects {α : Type} (collect : Expr → List α) (collectAll : List Expr → List α) :
    Prop where
  and : ∀ left right, collect (.and left right) = collect left ++ collect right
  equals : ∀ left right, collect (.equals left right) = collect left ++ collect right
  isIn : ∀ left items, collect (.isIn left items) = collect left ++ collectAll items
  value : ∀ value, collect (.value value) = []
  nil : collectAll [] = []
  cons : ∀ item rest, collectAll (item :: rest) = collect item ++ collectAll rest

theorem collects_introduced : Collects introduced allIntroduced := by
  constructor <;> intros <;> first | rw [introduced] | rw [allIntroduced]

theorem collects_references : Collects references allReferences := by
  constructor <;> intros <;> first | rw [references] | rw [allReferences]

theorem collects_mentioned : Collects mentioned allMentioned := by
  constructor <;> intros <;> first | rw [mentioned] | rw [allMentioned]

theorem collects_selects : Collects selects allSelects := by
  constructor <;> intros <;> first | rw [selects] | rw [allSelects]

namespace Collects

variable {α : Type} {collect : Expr → List α} {collectAll : List Expr → List α}

/-- A conjunction leaves out literals only, so all that its conditions give is collected. -/
theorem conjunction (collects : Collects collect collectAll) (conditions : List Expr) :
    collect (.conjunction conditions) = conditions.flatMap collect := by
  have literal : collect Expr.true = [] := collects.value _
  have ofBoth (left right : Expr) : collect (both left right) = collect left ++ collect right := by
    rw [both]
    split
    · next isTrue => rw [eq_true_of_isTrue isTrue, literal, List.nil_append]
    · split
      · next isTrue => rw [eq_true_of_isTrue isTrue, literal, List.append_nil]
      · exact collects.and left right
  have general (start : Expr) :
      collect (conditions.foldl both start) = collect start ++ conditions.flatMap collect := by
    induction conditions generalizing start with
    | nil => simp
    | cons condition rest inductionHypothesis =>
      rw [List.foldl_cons, inductionHypothesis, ofBoth, List.flatMap_cons, List.append_assoc]
  rw [Expr.conjunction, general, literal, List.nil_append]

/-- From a comparison with a value, only what its path gives is collected. -/
theorem comparison (collects : Collects collect collectAll) (path : Expr)
    (cardinality : Cardinality) (value : Value) :
    collect (comparison path cardinality value) = collect path := by
  have literals (values : List Value) : collectAll (values.map .value) = [] := by
    induction values with
    | nil => exact collects.nil
    | cons first rest inductionHypothesis =>
      rw [List.map_cons, collects.cons, collects.value, inductionHypothesis, List.nil_append]
  have ofValues (values : List Value) : collect (inValues path values) = collect path := by
    rw [inValues, collects.isIn, literals, List.append_nil]
  unfold EntityGraph.comparison
  split
  · exact ofValues _
  · exact ofValues _
  · rw [collects.equals, collects.value, List.append_nil]

end Collects

end Expr

/-! ## Lists of joins -/

namespace Join

theorem allIntroduced_append (joins others : List Join) :
    allIntroduced (joins ++ others) = allIntroduced joins ++ allIntroduced others := by
  induction joins with
  | nil => rfl
  | cons join rest inductionHypothesis =>
    rw [List.cons_append, allIntroduced, allIntroduced, inductionHypothesis, List.append_assoc]

theorem allFetched_append (joins others : List Join) :
    allFetched (joins ++ others) = allFetched joins ++ allFetched others := by
  induction joins with
  | nil => rfl
  | cons join rest inductionHypothesis =>
    rw [List.cons_append, allFetched, allFetched, inductionHypothesis, List.append_assoc]

theorem allScoped_append (joins others : List Join) :
    AllScoped (joins ++ others) ↔ AllScoped joins ∧ AllScoped others := by
  induction joins with
  | nil => simp [AllScoped]
  | cons join rest inductionHypothesis =>
    rw [List.cons_append, AllScoped, AllScoped, inductionHypothesis, and_assoc]

/-- Joins without conditions introduce their targets. -/
theorem allIntroduced_plain (elements : List Alias) (type : JoinType) :
    allIntroduced (elements.map fun element => plain element.name element type) = elements := by
  induction elements with
  | nil => rfl
  | cons element rest inductionHypothesis =>
    rw [List.map_cons, allIntroduced, inductionHypothesis]
    simp [plain, introduced, allIntroduced, Expr.introducedIfAny]

/-- Joins without conditions are scoped. -/
theorem allScoped_plain (elements : List Alias) (type : JoinType) :
    AllScoped (elements.map fun element => plain element.name element type) := by
  induction elements with
  | nil => simp [AllScoped]
  | cons element rest inductionHypothesis =>
    rw [List.map_cons, AllScoped]
    exact ⟨by simp [plain, Scoped, AllScoped], inductionHypothesis⟩

end Join

end EntityGraph
