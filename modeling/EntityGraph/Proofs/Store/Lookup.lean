import EntityGraph.Proofs.Dict
import EntityGraph.Proofs.Outcome
import EntityGraph.Store.Basic

/-!
# What a store contains

An instance is contained in a store if its id has a row. The ids of a table, the references
of an entity and the rows behind references all speak of the same instances.
-/

namespace EntityGraph

/-- The ids of a table are those that have a row. -/
theorem Table.row?_isSome_iff {table : Table} {id : String} :
    (table.row? id).isSome ↔ id ∈ table.ids := by
  rw [Option.isSome_iff_exists]
  simp only [Table.row?, Table.ids, List.mem_map, lookup_eq_some_iff_mem table.distinct]
  constructor
  · rintro ⟨row, member⟩
    exact ⟨(id, row), member, rfl⟩
  · rintro ⟨⟨_, row⟩, member, rfl⟩
    exact ⟨row, member⟩

namespace Store

variable {store : Store} {ref : EntityRef}

/-- An attribute relates an entity as its declaration says. -/
theorem relationship?_eq_ok_iff {entity attr : String} {related? : Option Relationship} :
    store.relationship? entity attr = .ok related? ↔
      ∃ info, store.model.attribute? entity attr = some info ∧
        info.type.relationship? entity attr = related? := by
  unfold Store.relationship?
  cases store.model.attribute? entity attr <;> simp

/-- A table is found if its entity has one. -/
theorem table_eq_ok_iff {entity : String} {table : Table} :
    store.table entity = .ok table ↔ store.tables.get? entity = some table := by
  unfold Store.table
  cases store.tables.get? entity <;> simp

/-- A row is found if its entity has a table with the row. -/
theorem row_eq_ok_iff {row : Row} :
    store.row ref = .ok row ↔
      ∃ table, store.tables.get? ref.entity = some table ∧ table.row? ref.id = some row := by
  simp only [Store.row, bind_eq_ok_iff, table_eq_ok_iff]
  refine exists_congr fun table => and_congr_right fun _ => ?_
  cases table.row? ref.id <;> simp [pure, Except.pure]

/-- What is contained has a row. -/
theorem contains_iff : store.contains ref = true ↔ ∃ row, store.row ref = .ok row := by
  simp only [contains, row_eq_ok_iff]
  cases store.tables.get? ref.entity with
  | none => simp
  | some table => simp [Option.isSome_iff_exists]

/-- The references of an entity are those of its instances. -/
theorem mem_refs_iff {entity : String} {refs : List EntityRef}
    (listed : store.refs entity = .ok refs) :
    ref ∈ refs ↔ ref.entity = entity ∧ store.contains ref = true := by
  simp only [Store.refs, bind_eq_ok_iff, table_eq_ok_iff] at listed
  obtain ⟨table, found, same⟩ := listed
  cases same
  obtain ⟨owner, id⟩ := ref
  simp only [List.mem_map, EntityRef.mk.injEq]
  constructor
  · rintro ⟨_, member, rfl, rfl⟩
    refine ⟨rfl, ?_⟩
    simp [contains, found, Table.row?_isSome_iff, member]
  · rintro ⟨rfl, present⟩
    simp only [contains, found, Option.any_some, Table.row?_isSome_iff] at present
    exact ⟨id, present, rfl, rfl⟩

/-- No instance is listed twice. -/
theorem nodup_refs {entity : String} {refs : List EntityRef}
    (listed : store.refs entity = .ok refs) : refs.Nodup := by
  obtain ⟨table, _, same⟩ := bind_eq_ok_iff.1 listed
  cases same
  refine List.pairwise_map.2 (table.distinct.imp fun different equal => ?_)
  exact different (congrArg EntityRef.id equal)

/-- Everything that an attribute of a bound value leads to, nothing if it cannot be followed. -/
def targets (store : Store) (binding : Value) (attr : String) : List Value :=
  (store.navigate binding attr).toOption.getD []

theorem targets_eq_of_navigate {store : Store} {binding : Value} {attr : String}
    {targets : List Value} (navigated : store.navigate binding attr = .ok targets) :
    store.targets binding attr = targets := by
  simp [Store.targets, navigated, Except.toOption]

/-- What is bound to null leads nowhere. -/
@[simp] theorem targets_null (store : Store) (attr : String) :
    store.targets .null attr = [] :=
  rfl

/-- The targets of an attribute are the elements of its value. -/
theorem targets_eq (store : Store) (binding : Value) (attr : String) :
    store.targets binding attr =
      (store.attributeValue binding attr).toOption.elim [] Value.elements := by
  rw [Store.targets, navigate]
  cases store.attributeValue binding attr <;> rfl

end Store

end EntityGraph
