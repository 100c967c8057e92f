import EntityGraph.Planning.Conditions
import EntityGraph.Proofs.Plan.Expansion
import EntityGraph.Proofs.Value.Equality

/-!
# What filters ask for

A binding meets a filter if something that the attribute leads to equals the value of the
filter or, if that value is a list, one of its items. The conditions that filters put on
the target of a join come out true exactly for the targets that meet every filter.
-/

namespace EntityGraph

/-- Whether something that an attribute leads to equals a value or one of its items. -/
def Store.Meets (store : Store) (binding : Value) (attr : String) (value : Value) : Prop :=
  ∃ element ∈ store.targets binding attr,
    element.equals value = true ∨
      ∃ items, value = .array items ∧ ∃ item ∈ items, element.equals item = true

/-- Whether a binding meets every one of several filters. -/
def Model.Admits (model : Model) (store : Store) (scope : ArgumentScope)
    (filters : List Argument) (binding : Value) : Prop :=
  ∀ filter ∈ filters, ∃ value,
    filter.value.coerce model scope filter.name = .ok value ∧
      store.Meets binding filter.name value

/-- Without filters there is nothing to meet. -/
theorem Model.admits_nil (model : Model) (store : Store) (scope : ArgumentScope)
    (binding : Value) : model.Admits store scope [] binding :=
  fun _ impossible => by cases impossible

/-- A binding meets the first of several filters and the filters behind it. -/
theorem Model.admits_cons_iff {model : Model} {store : Store} {scope : ArgumentScope}
    {filter : Argument} {rest : List Argument} {binding value : Value}
    (coerced : filter.value.coerce model scope filter.name = .ok value) :
    model.Admits store scope (filter :: rest) binding ↔
      store.Meets binding filter.name value ∧ model.Admits store scope rest binding := by
  rw [Admits, List.forall_mem_cons, coerced]
  simp [Admits]

/-- To equal an item of a list is to equal the list. -/
theorem Store.meets_iff {store : Store} {binding : Value} {attr : String} {value : Value} :
    store.Meets binding attr value ↔
      ∃ element ∈ store.targets binding attr, element.equals value = true := by
  constructor
  · rintro ⟨element, member, equal | ⟨items, rfl, item, present, equal⟩⟩
    · exact ⟨element, member, equal⟩
    · refine ⟨element, member, ?_⟩
      rw [Value.equals_array_right, List.any_eq_true]
      exact ⟨item, present, equal⟩
  · rintro ⟨element, member, equal⟩
    exact ⟨element, member, .inl equal⟩

/-- A filter is met exactly if the value of the attribute equals its value. -/
theorem Store.meets_iff_attributeValue {store : Store} {binding : Value} {attr : String}
    {value : Value} :
    store.Meets binding attr value ↔
      ∃ found, store.attributeValue binding attr = .ok found ∧ found.equals value = true := by
  rw [Store.meets_iff, Store.targets_eq]
  cases store.attributeValue binding attr with
  | error error => simp [Except.toOption]
  | ok found =>
    have whole : (∃ element ∈ found.elements, element.equals value = true) ↔
        found.equals value = true := by
      rw [found.equals_eq_any_elements, List.any_eq_true]
    simpa [Except.toOption] using whole

namespace Expr

/-- Both conditions have to come out true. -/
@[simp] theorem holds_and (store : Store) (row : Bindings) (left right : Expr) :
    (and left right).holds store row = (left.holds store row && right.holds store row) := by
  simp only [Expr.holds, evaluate]
  cases left.evaluate store row with
  | error error => rfl
  | ok value =>
    cases leftTrue : value.isTrue with
    | false => simp [bind, Except.bind, leftTrue, pure, Except.pure]
    | true =>
      cases right.evaluate store row with
      | error error => simp [bind, Except.bind, leftTrue]
      | ok other => simp [bind, Except.bind, leftTrue, pure, Except.pure]

@[simp] theorem holds_true (store : Store) (row : Bindings) : Expr.true.holds store row :=
  rfl

/-- The literal that always holds does. -/
theorem holds_of_isTrue {condition : Expr} (literal : condition.isTrue) (store : Store)
    (row : Bindings) : condition.holds store row := by
  unfold isTrue at literal
  split at literal
  · rfl
  · cases literal

@[simp] theorem holds_both (store : Store) (row : Bindings) (left right : Expr) :
    (both left right).holds store row = (left.holds store row && right.holds store row) := by
  rw [both]
  split
  · next leftTrue => rw [holds_of_isTrue leftTrue, Bool.true_and]
  · split
    · next rightTrue => rw [holds_of_isTrue rightTrue, Bool.and_true]
    · exact holds_and store row left right

/-- A conjunction holds if all of its conditions do. -/
@[simp] theorem holds_conjunction (store : Store) (row : Bindings) (conditions : List Expr) :
    (conjunction conditions).holds store row =
      conditions.all fun condition => condition.holds store row := by
  have general (start : Expr) : (conditions.foldl both start).holds store row =
      (start.holds store row && conditions.all fun condition => condition.holds store row) := by
    induction conditions generalizing start with
    | nil => simp
    | cons condition rest inductionHypothesis =>
      rw [List.foldl_cons, inductionHypothesis, holds_both, List.all_cons, Bool.and_assoc]
  rw [conjunction, general, holds_true, Bool.true_and]

/-- Searching a list of literals compares a value with the list. -/
theorem anyEquals_values (store : Store) (row : Bindings) (found : Value)
    (values : List Value) :
    anyEquals store row found (values.map .value) = .ok (found.equals (.array values)) := by
  rw [Value.equals_array_right]
  induction values with
  | nil => rfl
  | cons value rest inductionHypothesis =>
    rw [List.map_cons, anyEquals, List.any_cons, inductionHypothesis]
    cases equal : found.equals value <;>
      simp [evaluate, bind, Except.bind, pure, Except.pure, equal]

/-- However a path is compared with a value, what the path evaluates to has to equal it. -/
theorem holds_comparison (store : Store) (row : Bindings) (path : Expr)
    (cardinality : Cardinality) (value : Value) :
    (comparison path cardinality value).holds store row ↔
      ∃ found, path.evaluate store row = .ok found ∧ found.equals value := by
  have membership (values : List Value) : (path.inValues values).holds store row ↔
      ∃ found, path.evaluate store row = .ok found ∧ found.equals (.array values) := by
    simp only [Expr.holds, inValues, evaluate]
    cases path.evaluate store row with
    | error error => simp [bind, Except.bind]
    | ok found => simp [bind, Except.bind, anyEquals_values, pure, Except.pure]
  unfold comparison
  split
  · exact membership _
  · simp only [membership, Value.equals_array_right, List.any_cons, List.any_nil, Bool.or_false]
  · simp only [Expr.holds, evaluate]
    cases path.evaluate store row with
    | error error => simp [bind, Except.bind]
    | ok found => simp [bind, Except.bind, pure, Except.pure]

/-- Comparing an attribute of an alias asks its binding to meet the value. -/
theorem holds_comparison_column {store : Store} {row : Bindings} {name : Alias}
    {binding : Value} (bound : row.lookup name.index = some binding) (attr : String)
    (cardinality : Cardinality) (value : Value) :
    (comparison (.column name attr) cardinality value).holds store row ↔
      store.Meets binding attr value := by
  have got : row.get name = .ok binding := by
    rw [Bindings.get, bound]
  rw [holds_comparison, Store.meets_iff_attributeValue]
  simp only [evaluate, got]
  rfl

/-- Comparing what an alias is bound to asks the binding itself to equal the value. -/
theorem holds_comparison_table {store : Store} {row : Bindings} {name : Alias}
    {binding : Value} (bound : row.lookup name.index = some binding)
    (cardinality : Cardinality) (value : Value) :
    (comparison (.table name) cardinality value).holds store row ↔ binding.equals value := by
  have got : row.get name = .ok binding := by
    rw [Bindings.get, bound]
  rw [holds_comparison]
  simp [evaluate, got]

end Expr

/-- The operands of a filter are its attribute and its value. -/
theorem Model.filterOperands_eq_ok_iff {model : Model} {scope : ArgumentScope}
    {filter : Argument} {info : Attribute} {value : Value} :
    model.filterOperands scope filter = .ok (info, value) ↔
      filter.value.coerce model scope filter.name = .ok value ∧
        model.attribute? scope.entity filter.name = some info := by
  simp only [filterOperands, bind_eq_ok_iff, lookupAttribute, pure, Except.pure, Except.ok.injEq,
    Prod.mk.injEq]
  constructor
  · rintro ⟨_, coerced, _, looked, rfl, rfl⟩
    refine ⟨coerced, ?_⟩
    split at looked
    · cases looked
      assumption
    · cases looked
  · rintro ⟨coerced, found⟩
    exact ⟨value, coerced, info, by rw [found], rfl, rfl⟩

/-- The condition of a join holds for the targets that meet its filters. -/
theorem Model.holdsIfAny_joinCondition {model : Model} {store : Store} {scope : ArgumentScope}
    {target : Alias} {filters : List Argument} {on? : Option Expr}
    (planned : model.joinCondition? scope target filters = .ok on?) {row : Bindings}
    {binding : Value} (bound : row.lookup target.index = some binding) :
    Expr.holdsIfAny store row on? = true ↔ model.Admits store scope filters binding := by
  simp only [joinCondition?, bind_eq_ok_iff] at planned
  obtain ⟨conditions, compared, same⟩ := planned
  have whole : Expr.holdsIfAny store row on? =
      conditions.all fun condition => condition.holds store row := by
    cases same
    cases conditions with
    | nil => rfl
    | cons first rest => exact Expr.holds_conjunction store row (first :: rest)
  rw [whole, List.all_eq_true]
  rw [mapM_eq_ok_iff] at compared
  clear same whole
  induction compared with
  | nil => simp [Admits]
  | cons first _ inductionHypothesis =>
    obtain ⟨⟨info, value⟩, operands, same⟩ := bind_eq_ok_iff.1 first
    cases same
    have coerced := (filterOperands_eq_ok_iff.1 operands).1
    rw [List.forall_mem_cons, Expr.holds_comparison_column bound, admits_cons_iff coerced]
    exact and_congr Iff.rfl inductionHypothesis

end EntityGraph
