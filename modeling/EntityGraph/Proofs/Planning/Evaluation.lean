import EntityGraph.Proofs.Planning.Conditions
import EntityGraph.Proofs.Store.WellTyped

/-!
# When evaluation does not fail

In a well typed store, what an alias of an entity is bound to can be asked for every
attribute of the entity. From there the evaluation of conditions and the expansion of joins
succeed as soon as their parts do.
-/

namespace EntityGraph

/-- Whether a row binds an alias to an instance of an entity or to null. -/
def Store.BindsIn (store : Store) (row : Bindings) (name : Alias) (entity : String) : Prop :=
  ∃ binding, row.lookup name.index = some binding ∧ store.Binds entity binding

namespace Store.BindsIn

variable {store : Store} {row other : Bindings} {name : Alias} {entity attr : String}

/-- Rows that agree on an alias bind it alike. -/
theorem of_lookup_eq (binds : store.BindsIn row name entity)
    (same : other.lookup name.index = row.lookup name.index) : store.BindsIn other name entity := by
  rwa [BindsIn, same]

/-- What an alias is bound to last is what it is bound to. -/
theorem bind_self {binding : Value} (binds : store.Binds entity binding) :
    store.BindsIn (row.bind name binding) name entity :=
  ⟨binding, Bindings.lookup_bind_self row name binding, binds⟩

/-- An alias that is bound has a value. -/
theorem get_eq (binds : store.BindsIn row name entity) : row.get name = .ok (row.value name) := by
  obtain ⟨binding, bound, _⟩ := binds
  rw [Bindings.get, Bindings.value, bound]
  rfl

/-- What an alias is bound to is an instance of its entity or null. -/
theorem binds_value (binds : store.BindsIn row name entity) :
    store.Binds entity (row.value name) := by
  obtain ⟨binding, bound, bindsEntity⟩ := binds
  rwa [Bindings.value, bound]

/-- A column of an alias has a value of its type, or null. -/
theorem exists_evaluate_column (binds : store.BindsIn row name entity) (typed : store.WellTyped)
    {info : Attribute} (known : store.model.attribute? entity attr = some info) :
    ∃ value, (Expr.column name attr).evaluate store row = .ok value ∧
      (value = .null ∨ value.Fits store.Stored info.type) := by
  obtain ⟨value, held, fits⟩ := typed.exists_value_of_binds binds.binds_value known
  refine ⟨value, ?_, fits⟩
  rw [Expr.evaluate, binds.get_eq]
  exact held

/-- What a join leads an alias to is an instance of the target. -/
theorem binds_target (binds : store.BindsIn row name entity) (typed : store.WellTyped)
    {info : Attribute} (known : store.model.attribute? entity attr = some info)
    {relationship : Relationship}
    (related : info.type.relationship? entity attr = some relationship) {target : Value}
    (member : target ∈ store.targets (row.value name) attr) :
    store.Binds relationship.target target :=
  .inr (typed.exists_ref_of_target binds.binds_value known related member)

/-- A match binds the target of a join to an instance of the target or to null. -/
theorem matched {target : Alias} {type : JoinType} {on? : Option Expr} {found : Bindings}
    (binds : store.BindsIn row name entity) (typed : store.WellTyped) {info : Attribute}
    (known : store.model.attribute? entity attr = some info) {relationship : Relationship}
    (related : info.type.relationship? entity attr = some relationship)
    (member : found ∈ Join.matchedRows store name attr target type on? row) :
    store.BindsIn found target relationship.target := by
  rcases Join.mem_matchedRows_iff.1 member with ⟨value, present, _, rfl⟩ | ⟨_, rfl, _⟩
  · exact bind_self (binds.binds_target typed known related present)
  · exact bind_self (.inl rfl)

end Store.BindsIn

namespace Expr

variable {store : Store} {row : Bindings}

/-- A comparison has a value if its path does. -/
theorem exists_evaluate_comparison {path : Expr} {found : Value}
    (evaluated : path.evaluate store row = .ok found) (cardinality : Cardinality)
    (value : Value) :
    ∃ result, (comparison path cardinality value).evaluate store row = .ok result := by
  have membership (values : List Value) :
      ∃ result, (path.inValues values).evaluate store row = .ok result := by
    refine ⟨.bool (found.equals (.array values)), ?_⟩
    simp only [inValues, evaluate, bind_eq_ok_iff]
    exact ⟨found, evaluated, _, anyEquals_values store row found values, rfl⟩
  unfold comparison
  split
  · exact membership _
  · exact membership _
  · refine ⟨.bool (found.equals value), ?_⟩
    simp only [evaluate, bind_eq_ok_iff]
    exact ⟨found, evaluated, value, rfl, rfl⟩

/-- Two conditions have a value together if each has one. -/
theorem exists_evaluate_both {left right : Expr}
    (first : ∃ value, left.evaluate store row = .ok value)
    (second : ∃ value, right.evaluate store row = .ok value) :
    ∃ value, (both left right).evaluate store row = .ok value := by
  obtain ⟨leftValue, leftEvaluated⟩ := first
  obtain ⟨rightValue, rightEvaluated⟩ := second
  unfold both
  split
  · exact ⟨rightValue, rightEvaluated⟩
  · split
    · exact ⟨leftValue, leftEvaluated⟩
    · simp only [evaluate, leftEvaluated, rightEvaluated, bind, Except.bind, pure, Except.pure]
      cases leftValue.isTrue <;> simp

/-- A conjunction has a value if each of its conditions does. -/
theorem exists_evaluate_conjunction {conditions : List Expr}
    (each : ∀ condition ∈ conditions, ∃ value, condition.evaluate store row = .ok value) :
    ∃ value, (conjunction conditions).evaluate store row = .ok value := by
  have general : ∀ start : Expr, (∃ value, start.evaluate store row = .ok value) →
      ∃ value, (conditions.foldl both start).evaluate store row = .ok value := by
    induction conditions with
    | nil => exact fun start evaluated => evaluated
    | cons condition rest inductionHypothesis =>
      rw [List.forall_mem_cons] at each
      exact fun start evaluated =>
        inductionHypothesis each.2 _ (exists_evaluate_both evaluated each.1)
  exact general _ ⟨.bool Bool.true, rfl⟩

end Expr

namespace Join

variable {store : Store} {source target : Alias} {attr : String} {kind : JoinKind}
  {type : JoinType} {on? : Option Expr} {joins rest : List Join}

/-- A row can be matched if its source can be followed and the condition of the join has a value
for every target. -/
theorem exists_matchRow (typed : store.WellTyped) {row : Bindings} {entity : String}
    (binds : store.BindsIn row source entity) {info : Attribute}
    (known : store.model.attribute? entity attr = some info)
    (conditions : ∀ value ∈ store.targets (row.value source) attr, ∀ on ∈ on?,
      ∃ result, on.evaluate store (row.bind target value) = .ok result) :
    ∃ matched, matchRow store source attr target type on? row = .ok matched := by
  have kept : ∃ found, Expr.keepIfAny store on?
      ((store.targets (row.value source) attr).map (row.bind target)) = .ok found := by
    cases on? with
    | none => exact ⟨_, rfl⟩
    | some on =>
      refine exists_keep fun candidate member => ?_
      obtain ⟨value, present, rfl⟩ := List.mem_map.1 member
      exact conditions value present on rfl
  obtain ⟨found, kept⟩ := kept
  simp only [matchRow, bind_eq_ok_iff]
  exact ⟨_, _, binds.get_eq, _, typed.navigate_of_binds binds.binds_value known, found, kept, rfl⟩

/-- Rows can be expanded along joins if each can be matched, and the matches can be expanded along
the joins from the target and what becomes of them along the joins beside it. -/
theorem exists_expandAll_cons {rows : List Bindings}
    (matching : ∀ row ∈ rows, ∃ matched,
      matchRow store source attr target type on? row = .ok matched)
    (below : ∀ found : List Bindings,
      (∀ matched ∈ found, ∃ row ∈ rows,
        matched ∈ matchedRows store source attr target type on? row) →
        ∃ expanded, expandAll store target joins found = .ok expanded)
    (beside : ∀ found : List Bindings,
      (∀ joined ∈ found, ∃ row ∈ rows,
        ∃ matched ∈ matchedRows store source attr target type on? row,
          joined ∈ allRows store target joins matched) →
        ∃ expanded, expandAll store source rest found = .ok expanded) :
    ∃ expanded, expandAll store source (⟨attr, target, kind, type, on?, joins⟩ :: rest) rows =
      .ok expanded := by
  obtain ⟨matched, steps⟩ := exists_mapM_eq_ok matching
  have origin {found : Bindings} (member : found ∈ matched.flatten) :
      ∃ row ∈ rows, found ∈ matchedRows store source attr target type on? row := by
    obtain ⟨several, inside, present⟩ := List.mem_flatten.1 member
    obtain ⟨row, among, step⟩ := exists_of_mem_mapM steps inside
    rw [← matchedRows_eq_of_matchRow step] at present
    exact ⟨row, among, present⟩
  obtain ⟨nested, expandedBelow⟩ := below matched.flatten fun _ => origin
  obtain ⟨expanded, expandedBeside⟩ := beside nested fun joined member => by
    rw [eq_flatMap_of_expandAll expandedBelow, List.mem_flatMap] at member
    obtain ⟨found, present, inside⟩ := member
    obtain ⟨row, among, fromRow⟩ := origin present
    exact ⟨row, among, found, fromRow, inside⟩
  refine ⟨expanded, ?_⟩
  simp only [expandAll, expand_eq, bind_eq_ok_iff]
  exact ⟨nested, ⟨matched, steps, expandedBelow⟩, expandedBeside⟩

/-- Joins can be expanded in two parts. -/
theorem exists_expandAll_append {rows middle : List Bindings} {joins others : List Join}
    (first : expandAll store source joins rows = .ok middle)
    (second : ∃ expanded, expandAll store source others middle = .ok expanded) :
    ∃ expanded, expandAll store source (joins ++ others) rows = .ok expanded := by
  obtain ⟨expanded, done⟩ := second
  exact ⟨expanded, by rw [expandAll_append, first]; exact done⟩

end Join

end EntityGraph
