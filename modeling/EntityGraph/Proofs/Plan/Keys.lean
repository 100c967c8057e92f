import EntityGraph.Proofs.Plan.Selected
import EntityGraph.Proofs.Store.WellTyped
import EntityGraph.Proofs.Value.Order

/-!
# Keys of one type

The keys of a plan come from attributes that are not associations, so a place of the
ordering holds values of one type in every row. Such rows are totally ordered up to ties,
and sorting them is the same before and after some of them are left out.
-/

namespace EntityGraph

namespace OrderTerm

variable {store : Store} {terms : List OrderTerm} {types : List AttributeType}

/-- Whether the keys of a row have values of the given types, or null. -/
def KeysFit (store : Store) (terms : List OrderTerm) (types : List AttributeType)
    (row : Bindings) : Prop :=
  ∃ keys, OrderTerm.keys store row terms = .ok keys ∧
    List.Forall₂ (fun value type => value = .null ∨ value.Fits store.Stored type) keys types

/-- The key of each term decides about the keys of a row. -/
theorem keysFit_of_forall₂ {row : Bindings}
    (each : List.Forall₂ (fun (term : OrderTerm) type => ∃ value,
      term.key.evaluate store row = .ok value ∧
        (value = .null ∨ value.Fits store.Stored type)) terms types) :
    KeysFit store terms types row := by
  induction each with
  | nil => exact ⟨[], rfl, .nil⟩
  | @cons term type rest types first _ inductionHypothesis =>
    obtain ⟨value, evaluated, fits⟩ := first
    obtain ⟨keys, others, fit⟩ := inductionHypothesis
    obtain ⟨key, direction⟩ := term
    refine ⟨value :: keys, ?_, .cons fits fit⟩
    simp only [OrderTerm.keys, bind_eq_ok_iff]
    exact ⟨value, evaluated, keys, others, rfl⟩

/-- If each term has values of one type in some rows, so do the keys of the rows. -/
theorem exists_types {rows : Bindings → Prop}
    (each : ∀ term ∈ terms, ∃ type : AttributeType, type.isAssociation = false ∧
      ∀ row, rows row → ∃ value, term.key.evaluate store row = .ok value ∧
        (value = .null ∨ value.Fits store.Stored type)) :
    ∃ types : List AttributeType, (∀ type ∈ types, type.isAssociation = false) ∧
      ∀ row, rows row → KeysFit store terms types row := by
  have pairs : ∃ types : List AttributeType, (∀ type ∈ types, type.isAssociation = false) ∧
      ∀ row, rows row → List.Forall₂ (fun (term : OrderTerm) type => ∃ value,
        term.key.evaluate store row = .ok value ∧
          (value = .null ∨ value.Fits store.Stored type)) terms types := by
    induction terms with
    | nil => exact ⟨[], by simp, fun _ _ => .nil⟩
    | cons term rest inductionHypothesis =>
      rw [List.forall_mem_cons] at each
      obtain ⟨type, plain, fits⟩ := each.1
      obtain ⟨types, plainRest, fitRest⟩ := inductionHypothesis each.2
      exact ⟨type :: types, List.forall_mem_cons.2 ⟨plain, plainRest⟩,
        fun row member => .cons (fits row member) (fitRest row member)⟩
  obtain ⟨types, plain, fit⟩ := pairs
  exact ⟨types, plain, fun row member => keysFit_of_forall₂ (fit row member)⟩

/-- The keys that fit are the keys of the row. -/
theorem forall₂_keysIn {row : Bindings} (fits : KeysFit store terms types row) :
    List.Forall₂ (fun value type => value = .null ∨ value.Fits store.Stored type)
      (keysIn store terms row) types := by
  obtain ⟨keys, evaluated, fit⟩ := fits
  rwa [keysIn, evaluated]

/-- Rows with keys of the same types are compared by a strict weak order. -/
theorem strictWeakOn_keyed (store : Store) (directions : List Direction)
    (plain : ∀ type ∈ types, type.isAssociation = false) :
    StrictWeakOn
      (fun left right : List Value × Bindings =>
        decide (compareKeys store.model directions left.1 right.1 = .lt))
      fun entry => List.Forall₂
        (fun value type => value = .null ∨ value.Fits store.Stored type) entry.1 types :=
  have order := (totalOn_compareKeys store.model store.Stored directions plain).strictWeakOn
  ⟨order.asymmetric, order.incomparable⟩

/-- Rows with keys that fit are given keys that fit. -/
theorem forall₂_of_mem_keyed {rows : List Bindings}
    (fits : ∀ row ∈ rows, KeysFit store terms types row) :
    ∀ entry ∈ rows.map fun row => (keysIn store terms row, row), List.Forall₂
      (fun value type => value = .null ∨ value.Fits store.Stored type) entry.1 types := by
  rw [List.forall_mem_map]
  exact fun row member => forall₂_keysIn (fits row member)

/-- Rows with keys of the same types can be sorted before or after a filter. -/
theorem sorted_filter (plain : ∀ type ∈ types, type.isAssociation = false)
    {rows : List Bindings} (fits : ∀ row ∈ rows, KeysFit store terms types row)
    (keeps : Bindings → Bool) :
    sorted store terms (rows.filter keeps) = (sorted store terms rows).filter keeps := by
  have filtered := (strictWeakOn_keyed store (directions terms) plain).sortStable_filter
    (fun entry => keeps entry.2) (forall₂_of_mem_keyed fits)
  rw [List.filter_map] at filtered
  rw [sorted, sorted, sortByKeys, sortByKeys, List.filter_map]
  exact congrArg (List.map Prod.snd) filtered

end OrderTerm

end EntityGraph
