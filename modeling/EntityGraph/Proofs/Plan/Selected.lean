import EntityGraph.Proofs.Plan.Expansion
import EntityGraph.Proofs.Sorting

/-!
# What a selection projects

A selection that does not fail projects its rows: the rows of all instances of its entity
that pass the filter, sorted by their keys. Sorting and dropping repetitions decide where a
value stands, but not whether it is there.
-/

namespace EntityGraph

/-- The keys of a row, none if one of them has no value. -/
def OrderTerm.keysIn (store : Store) (terms : List OrderTerm) (row : Bindings) : List Value :=
  (OrderTerm.keys store row terms).toOption.getD []

/-- Rows in the order of their keys. -/
def OrderTerm.sorted (store : Store) (terms : List OrderTerm) (rows : List Bindings) :
    List Bindings :=
  sortByKeys store.model (OrderTerm.directions terms)
    (rows.map fun row => (OrderTerm.keysIn store terms row, row))

/-- Sorting rows permutes them. -/
theorem OrderTerm.sorted_perm (store : Store) (terms : List OrderTerm) (rows : List Bindings) :
    (OrderTerm.sorted store terms rows).Perm rows := by
  rw [OrderTerm.sorted, sortByKeys]
  have permuted := (sortStable_perm
    (fun left right => decide (compareKeys store.model (OrderTerm.directions terms)
      left.1 right.1 = .lt))
    (rows.map fun row => (OrderTerm.keysIn store terms row, row))).map Prod.snd
  rwa [List.map_map, show Prod.snd ∘ (fun row => (OrderTerm.keysIn store terms row, row)) = id
    from rfl, List.map_id] at permuted

/-- Rows without keys stay in place. -/
theorem OrderTerm.sorted_nil (store : Store) (rows : List Bindings) :
    OrderTerm.sorted store [] rows = rows := by
  rw [sorted, sortByKeys, sortStable_eq_self, List.map_map]
  · exact List.map_id rows
  · intro left right
    simp [directions, compareKeys]

/-- The keys that are read of rows are their keys. -/
theorem OrderTerm.eq_map_keysIn {store : Store} {terms : List OrderTerm} {rows : List Bindings}
    {keyed : List (List Value × Bindings)}
    (read : (rows.mapM fun row => do return (← OrderTerm.keys store row terms, row)) =
      .ok keyed) :
    keyed = rows.map fun row => (OrderTerm.keysIn store terms row, row) := by
  refine eq_map_of_mapM (fun row entry step => ?_) read
  obtain ⟨keys, evaluated, same⟩ := bind_eq_ok_iff.1 step
  cases same
  simp [OrderTerm.keysIn, evaluated, Except.toOption]

namespace Select

/-- The rows of a selection from the given instances, before they are sorted. -/
def rows (store : Store) (select : Select) (refs : List EntityRef) : List Bindings :=
  (refs.flatMap fun ref =>
    Join.allRows store select.root select.joins
      (Bindings.bind [] select.root (.entity ref))).filter
    fun row => select.filter.holds store row

/-- What a selection makes of its rows. -/
def project (store : Store) (select : Select) (rows : List Bindings) : List Value :=
  let values := (OrderTerm.sorted store select.orderBy rows).map fun row =>
    row.value select.projected
  if select.distinct then firstAppearances values else values

/-- The rows that a selection projects when it does not fail. -/
theorem eq_project_of_run {store : Store} {select : Select} {values : List Value}
    (done : select.run store = .ok values) :
    ∃ refs, store.refs select.entity = .ok refs ∧
      values = select.project store (select.rows store refs) := by
  obtain ⟨distinct, projected, entity, root, joins, filter, orderBy⟩ := select
  simp only [Select.run, bind_eq_ok_iff] at done
  obtain ⟨refs, listed, joined, expanded, kept, filtered, keyed, keys, found, read, same⟩ := done
  refine ⟨refs, listed, ?_⟩
  have keptEq : kept = Select.rows store ⟨distinct, projected, entity, root, joins, filter,
      orderBy⟩ refs := by
    rw [eq_filter_of_keep filtered, Join.eq_flatMap_of_expandAll expanded, List.flatMap_map]
    rfl
  have foundEq : found = (OrderTerm.sorted store orderBy kept).map fun row =>
      row.value projected := by
    rw [OrderTerm.sorted, ← OrderTerm.eq_map_keysIn keys]
    exact eq_map_of_mapM (fun _ _ => Bindings.value_eq_of_get) read
  rw [project, ← keptEq, ← foundEq]
  cases same
  rfl

/-- A selection does not fail if its entity can be listed, its joins can be expanded, and its
conditions, its keys and what it projects have values. -/
theorem exists_run {store : Store} {select : Select} {refs : List EntityRef}
    (listed : store.refs select.entity = .ok refs)
    (expandable : ∃ expanded, Join.expandAll store select.root select.joins
      (refs.map fun ref => Bindings.bind [] select.root (.entity ref)) = .ok expanded)
    (conditions : ∀ ref ∈ refs, ∀ row ∈ Join.allRows store select.root select.joins
      (Bindings.bind [] select.root (.entity ref)),
      ∃ value, select.filter.evaluate store row = .ok value)
    (keyed : ∀ row ∈ select.rows store refs,
      ∃ keys, OrderTerm.keys store row select.orderBy = .ok keys)
    (projects : ∀ row ∈ select.rows store refs, ∃ value, row.get select.projected = .ok value) :
    ∃ values, select.run store = .ok values := by
  obtain ⟨distinct, projected, entity, root, joins, filter, orderBy⟩ := select
  obtain ⟨expanded, expands⟩ := expandable
  have expandedEq := Join.eq_flatMap_of_expandAll expands
  rw [List.flatMap_map] at expandedEq
  obtain ⟨kept, keeps⟩ : ∃ kept, keep (fun row => filter.evaluate store row) expanded =
      .ok kept := by
    refine exists_keep fun row member => ?_
    rw [expandedEq, List.mem_flatMap] at member
    obtain ⟨ref, present, joined⟩ := member
    exact conditions ref present row joined
  have keptEq : kept = rows store ⟨distinct, projected, entity, root, joins, filter, orderBy⟩
      refs := by
    rw [eq_filter_of_keep keeps, expandedEq]
    rfl
  obtain ⟨pairs, keys⟩ : ∃ pairs, kept.mapM (fun row => do
      return (← OrderTerm.keys store row orderBy, row)) = .ok pairs := by
    refine exists_mapM_eq_ok fun row member => ?_
    obtain ⟨key, evaluated⟩ := keyed row (keptEq ▸ member)
    exact ⟨(key, row), bind_eq_ok_iff.2 ⟨key, evaluated, rfl⟩⟩
  obtain ⟨values, read⟩ : ∃ values, (sortByKeys store.model (OrderTerm.directions orderBy)
      pairs).mapM (fun row => row.get projected) = .ok values := by
    refine exists_mapM_eq_ok fun row member => ?_
    rw [OrderTerm.eq_map_keysIn keys] at member
    exact projects row (keptEq ▸ (OrderTerm.sorted_perm store orderBy kept).mem_iff.1 member)
  refine ⟨if distinct then firstAppearances values else values, ?_⟩
  simp only [Select.run, bind_eq_ok_iff]
  exact ⟨refs, listed, expanded, expands, kept, keeps, pairs, keys, values, read, rfl⟩

end Select

end EntityGraph
