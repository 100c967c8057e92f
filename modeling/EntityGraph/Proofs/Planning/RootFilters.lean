import EntityGraph.Proofs.Planning.Conditions

/-!
# Filters of the root

Filters of the root become conditions on the rows of a plan, and those of an attribute with
many values join its elements first. The joins only add rows: of the rows made of a binding,
one meets all conditions exactly if the binding meets every filter.
-/

namespace EntityGraph

namespace Model

variable {model : Model} {scope : ArgumentScope} {root : Alias} {next : Nat}
  {filters : List Argument} {filtered : RootConditions}

/-- What a filter adds to what the filters behind it add. -/
theorem rootConditions_cons_eq_ok_iff {filter : Argument} {rest : List Argument} :
    model.rootConditions scope root next (filter :: rest) = .ok filtered ↔
      ∃ info value others, model.filterOperands scope filter = .ok (info, value) ∧
        ((info.type.cardinality = .singular ∧
          model.rootConditions scope root next rest = .ok others ∧
          filtered = ⟨others.joins,
            comparison (.column root filter.name) .singular value :: others.conditions,
            others.next⟩) ∨
        (info.type.cardinality = .plural ∧
          model.rootConditions scope root (next + 1) rest = .ok others ∧
          filtered = ⟨.plain filter.name ⟨next, filter.name⟩ .left :: others.joins,
            comparison (.table ⟨next, filter.name⟩) .plural value :: others.conditions,
            others.next⟩)) := by
  simp only [rootConditions, bind_eq_ok_iff, Prod.exists]
  constructor
  · rintro ⟨info, value, operands, planned⟩
    cases cardinality : info.type.cardinality with
    | singular =>
      simp only [cardinality, bind_eq_ok_iff] at planned
      obtain ⟨others, remaining, same⟩ := planned
      cases same
      exact ⟨info, value, others, operands, .inl ⟨cardinality, remaining, rfl⟩⟩
    | plural =>
      simp only [cardinality, bind_eq_ok_iff] at planned
      obtain ⟨others, remaining, same⟩ := planned
      cases same
      exact ⟨info, value, others, operands, .inr ⟨cardinality, remaining, rfl⟩⟩
  · rintro ⟨info, value, others, operands, ⟨cardinality, remaining, rfl⟩ |
      ⟨cardinality, remaining, rfl⟩⟩
    all_goals
      refine ⟨info, value, operands, ?_⟩
      simp only [cardinality, bind_eq_ok_iff]
      exact ⟨others, remaining, rfl⟩

/-- The joins of filters leave the aliases of lower indices alone. -/
theorem lookup_eq_of_rootConditions
    (planned : model.rootConditions scope root next filters = .ok filtered) {store : Store}
    {row joined : Bindings} (member : joined ∈ Join.allRows store root filtered.joins row)
    {index : Nat} (older : index < next) : joined.lookup index = row.lookup index := by
  induction filters generalizing next filtered row with
  | nil =>
    cases planned
    rw [Join.allRows, List.mem_singleton] at member
    rw [member]
  | cons filter rest inductionHypothesis =>
    obtain ⟨info, value, others, _, ⟨_, remaining, rfl⟩ | ⟨_, remaining, rfl⟩⟩ :=
      rootConditions_cons_eq_ok_iff.1 planned
    · exact inductionHypothesis remaining member older
    · obtain ⟨matched, matching, nested, memberNested, memberJoined⟩ :=
        Join.mem_allRows_cons_iff.1 member
      rw [Join.allRows, List.mem_singleton] at memberNested
      subst memberNested
      rw [inductionHypothesis remaining memberJoined (Nat.lt_succ_of_lt older)]
      exact Join.lookup_of_matched matching (Nat.ne_of_lt older)

section Steps

variable {store : Store} {row : Bindings} {binding value : Value} {attr : String}
  {others : RootConditions}

/-- A condition that holds on all rows or on none can be tested before the rows are listed. -/
theorem exists_filtered_cons_iff {rows : List Bindings} {condition : Expr}
    {conditions : List Expr} {met : Prop}
    (fixed : ∀ joined ∈ rows, condition.holds store joined = true ↔ met) :
    (∃ joined ∈ rows, ∀ each ∈ condition :: conditions, each.holds store joined = true) ↔
      met ∧ ∃ joined ∈ rows, ∀ each ∈ conditions, each.holds store joined = true := by
  simp only [List.forall_mem_cons]
  constructor
  · rintro ⟨joined, member, held, rest⟩
    exact ⟨(fixed joined member).1 held, joined, member, rest⟩
  · rintro ⟨held, joined, member, rest⟩
    exact ⟨joined, member, (fixed joined member).2 held, rest⟩

/-- A filter of an attribute with one value is a condition on the binding of the root. -/
theorem exists_filtered_column_iff
    (remaining : model.rootConditions scope root next filters = .ok others)
    (below : root.index < next) (bound : row.lookup root.index = some binding) :
    (∃ joined ∈ Join.allRows store root others.joins row,
      ∀ condition ∈ comparison (.column root attr) .singular value :: others.conditions,
        condition.holds store joined = true) ↔
    store.Meets binding attr value ∧
      ∃ joined ∈ Join.allRows store root others.joins row,
        ∀ condition ∈ others.conditions, condition.holds store joined = true := by
  refine exists_filtered_cons_iff fun joined member => ?_
  refine Expr.holds_comparison_column ?_ attr .singular value
  rw [lookup_eq_of_rootConditions remaining member below, bound]

/-- A filter of an attribute with many values asks for one of them, whichever rows are made
of it. -/
theorem exists_filtered_table_iff
    (remaining : model.rootConditions scope root (next + 1) filters = .ok others)
    (below : root.index < next) (bound : row.lookup root.index = some binding) {admitted : Prop}
    (rest : ∀ {extended : Bindings}, extended.lookup root.index = some binding →
      ((∃ joined ∈ Join.allRows store root others.joins extended,
        ∀ condition ∈ others.conditions, condition.holds store joined = true) ↔ admitted)) :
    (∃ joined ∈ Join.allRows store root (.plain attr ⟨next, attr⟩ .left :: others.joins) row,
      ∀ condition ∈ comparison (.table ⟨next, attr⟩) .plural value :: others.conditions,
        condition.holds store joined = true) ↔
    store.Meets binding attr value ∧ admitted := by
  have started : row.value root = binding := by
    rw [Bindings.value, bound]
    rfl
  have ofElement (element : Value) :
      (∃ joined ∈ Join.allRows store root others.joins (row.bind ⟨next, attr⟩ element),
        ∀ condition ∈ comparison (.table ⟨next, attr⟩) .plural value :: others.conditions,
          condition.holds store joined = true) ↔
      element.equals value = true ∧ admitted := by
    have boundStill : (row.bind ⟨next, attr⟩ element).lookup root.index = some binding := by
      rw [Bindings.lookup_bind_of_ne (Nat.ne_of_lt below), bound]
    rw [← rest boundStill]
    refine exists_filtered_cons_iff fun joined member => ?_
    refine Expr.holds_comparison_table ?_ .plural value
    rw [lookup_eq_of_rootConditions remaining member (Nat.lt_succ_self next)]
    exact Bindings.lookup_bind_self row ⟨next, attr⟩ element
  rw [Store.meets_iff, Join.exists_mem_allRows_plain_iff, Join.exists_matched_iff, started]
  simp only [ofElement]
  constructor
  · rintro (⟨element, present, _, equal, admitted⟩ | ⟨_, _, impossible, _⟩)
    · exact ⟨⟨element, present, equal⟩, admitted⟩
    · simp at impossible
  · rintro ⟨⟨element, present, equal⟩, admitted⟩
    exact .inl ⟨element, present, rfl, equal, admitted⟩

end Steps

/-- Some row of a binding meets the conditions of the filters exactly if the binding meets the
filters. -/
theorem exists_filtered_iff
    (planned : model.rootConditions scope root next filters = .ok filtered)
    (below : root.index < next) {store : Store} {row : Bindings} {binding : Value}
    (bound : row.lookup root.index = some binding) :
    (∃ joined ∈ Join.allRows store root filtered.joins row,
      ∀ condition ∈ filtered.conditions, condition.holds store joined = true) ↔
    model.Admits store scope filters binding := by
  induction filters generalizing next filtered row with
  | nil =>
    cases planned
    simp [Join.allRows, Admits]
  | cons filter rest inductionHypothesis =>
    obtain ⟨info, value, others, operands, ⟨_, remaining, rfl⟩ | ⟨_, remaining, rfl⟩⟩ :=
      rootConditions_cons_eq_ok_iff.1 planned
    all_goals rw [admits_cons_iff (filterOperands_eq_ok_iff.1 operands).1]
    · rw [← inductionHypothesis remaining below bound]
      exact exists_filtered_column_iff remaining below bound
    · exact exists_filtered_table_iff remaining below bound
        fun bound => inductionHypothesis remaining (Nat.lt_succ_of_lt below) bound

end Model

end EntityGraph
