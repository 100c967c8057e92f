import EntityGraph.Proofs.Model.Consistency
import EntityGraph.Proofs.Store.Mirror

/-!
# What a mapped side lists

All mapped attributes are filled in at once, from the references that the records gave. So
a mapped attribute lists the instances that lead to its own along the owner, in load order
and each as often as it does, as long as the owner holds references of its own. An owner
that is itself mapped held none when the other side was filled in, and then nothing is
listed, whatever the owner leads to in the end.
-/

namespace EntityGraph

namespace Store

variable {store raw : Store} {ref source : EntityRef} {target owner attr : String}

/-- The instances of an entity that lead to an instance along an attribute, in load order and each
as often as it leads there. -/
def leadingTo (store : Store) (entity attr : String) (ref : EntityRef) : List Value :=
  ((store.refs entity).toOption.getD []).flatMap fun other =>
    List.replicate
      ((store.targets (.entity other) attr).countP fun value => value.same (.entity ref))
      (.entity other)

/-- Nothing leads to an instance exactly if it is nowhere a target. -/
theorem leadingTo_eq_nil_iff {others : List EntityRef}
    (listed : store.refs target = .ok others) :
    store.leadingTo target owner ref = [] ↔
      ∀ other ∈ others, (.entity ref : Value) ∉ store.targets (.entity other) owner := by
  have found : (store.refs target).toOption.getD [] = others := by rw [listed]; rfl
  rw [leadingTo, found, List.flatMap_eq_nil_iff]
  refine forall₂_congr fun other _ => ?_
  rw [List.replicate_eq_nil_iff, List.countP_eq_zero]
  simp only [Value.same_entity_iff]
  exact ⟨fun none member => none _ member rfl, fun absent value member same =>
    absent (same ▸ member)⟩

/-- Filling in the mapped attributes leaves the instances and their order alone. -/
theorem refs_withMapped (raw : Store) (entity : String) :
    raw.withMapped.refs entity = raw.refs entity := by
  unfold refs table
  rw [withMapped, Dict.get?_map]
  cases raw.tables.get? entity with
  | none => rfl
  | some table =>
    simp only [Option.map_some, bind, Except.bind, pure, Except.pure]
    cases raw.model.entity? entity with
    | none => rfl
    | some info =>
      simp only [Table.ids, Table.map, List.map_map]
      rfl

/-- The instances that refer to an instance in an attribute that is not mapped are those that lead
there. -/
theorem referrers_eq_leadingTo (decoded : raw.Decoded)
    (direct : raw.model.ownerOf? target owner = none) :
    raw.referrers target owner ref = raw.withMapped.leadingTo target owner ref := by
  rw [leadingTo, refs_withMapped, referrers, refs, table]
  cases held : raw.tables.get? target with
  | none => rfl
  | some table =>
    simp only [bind, Except.bind, pure, Except.pure, Except.toOption, Option.getD_some, Table.ids,
      List.flatMap_map]
    refine List.flatMap_congr fun entry member => ?_
    have found : raw.row ⟨target, entry.1⟩ = .ok entry.2 :=
      row_eq_ok_iff.2 ⟨table, held, (lookup_eq_some_iff_mem table.distinct).2 member⟩
    rw [targets_direct decoded found direct, List.map_const', List.countP_eq_length_filter]

/-- What a mapped attribute leads to is led back along its owner. -/
theorem mem_targets_owner_of_mapped {model : Model} (obtained : Obtained model store)
    {targetRef : EntityRef} (sourceStored : store.Stored source)
    (targetStored : store.Stored targetRef)
    (mapped : model.ownerOf? source.entity attr = some (targetRef.entity, owner))
    (leads : (.entity targetRef : Value) ∈ store.targets (.entity source) attr) :
    (.entity source : Value) ∈ store.targets (.entity targetRef) owner := by
  obtain ⟨raw, rfl, decoded, rfl, _⟩ := exists_decoded obtained
  rw [Stored, contains_withMapped] at sourceStored targetStored
  obtain ⟨row, found⟩ := contains_iff.1 targetStored
  rw [targets_mapped decoded sourceStored mapped] at leads
  cases again : raw.model.ownerOf? targetRef.entity owner with
  | none =>
    obtain ⟨id, other, same, present, inside⟩ := mem_referrers_iff.1 leads
    obtain ⟨entity, id⟩ := targetRef
    cases same
    rw [found] at present
    cases present
    rwa [targets_direct decoded found again]
  | some further =>
    rw [referrers_eq_nil decoded (by rw [again]; rfl)] at leads
    cases leads

/-- A mapped attribute lists what leads to its instance along the owner, exactly if the owner is
not mapped itself or nothing leads there. -/
theorem mapped_side_mirrors_owner_iff {model : Model} {store : Store} {source : EntityRef}
    {attr target owner : String} (consistent : model.Consistent)
    (obtained : Obtained model store) (stored : store.contains source = true)
    (mapped : model.ownerOf? source.entity attr = some (target, owner)) :
    ∃ others targets, store.refs target = .ok others ∧
      store.navigate (.entity source) attr = .ok targets ∧
      (targets = store.leadingTo target owner source ↔
        model.ownerOf? target owner = none ∨
          ∀ other ∈ others, (.entity source : Value) ∉ store.targets (.entity other) owner) := by
  have typed := obtained.wellTyped
  obtain ⟨kind, description?, known⟩ := Model.ownerOf?_eq_some_iff.1 mapped
  obtain ⟨relationship, related, rfl⟩ :=
    AttributeType.exists_relationship? source.entity attr target kind (some owner)
  obtain ⟨info, declared⟩ := consistent.exists_target known related
  rw [← obtained.model_eq] at known declared
  obtain ⟨others, listed⟩ := typed.exists_refs declared
  refine ⟨others, _, listed, typed.navigate_of_binds (.inr ⟨source, rfl, rfl, stored⟩) known, ?_⟩
  rw [← leadingTo_eq_nil_iff listed]
  obtain ⟨raw, rfl, decoded, rfl, _⟩ := exists_decoded obtained
  rw [targets_mapped decoded ((contains_withMapped raw source).1 stored) mapped]
  cases again : raw.model.ownerOf? relationship.target owner with
  | none => simp [referrers_eq_leadingTo decoded again]
  | some further =>
    rw [referrers_eq_nil decoded (by rw [again]; rfl)]
    exact ⟨fun nothing => .inr nothing.symm,
      fun either => (either.resolve_left (by simp)).symm⟩

/-- An author is listed with the two books that lead to the author. -/
theorem books_mirror_their_authors :
    Store.library.contains ⟨"Author", "a"⟩ = true ∧
      Model.library.ownerOf? "Author" "books" = some ("Book", "author") ∧
      ∃ others targets, Store.library.refs "Book" = .ok others ∧
        Store.library.navigate (.entity ⟨"Author", "a"⟩) "books" = .ok targets ∧
        (targets = Store.library.leadingTo "Book" "author" ⟨"Author", "a"⟩ ↔
          Model.library.ownerOf? "Book" "author" = none ∨
            ∀ other ∈ others, (.entity ⟨"Author", "a"⟩ : Value) ∉
              Store.library.targets (.entity other) "author") := by
  have present : Store.library.contains ⟨"Author", "a"⟩ = true := by decide +kernel
  have mapped : Model.library.ownerOf? "Author" "books" = some ("Book", "author") := by
    decide +kernel
  exact ⟨present, mapped,
    mapped_side_mirrors_owner_iff consistent_library obtained_library present mapped⟩

end Store

/-! ## A chain of mapped sides -/

/-- Authors and their books, whose association is held by the authors. The books are mapped by it,
and the authors have another side that is mapped by the books. -/
def Model.credits : Model where
  entities := Dict.ofList [
    ("Author", ⟨"id", Dict.ofList [
      ("id", ⟨.basic .text, none⟩),
      ("books", ⟨.association "Book" .oneToMany (some "author"), none⟩),
      ("wrote", ⟨.association "Book" .oneToMany none, none⟩)], none⟩),
    ("Book", ⟨"id", Dict.ofList [
      ("id", ⟨.basic .text, none⟩),
      ("author", ⟨.association "Author" .manyToOne (some "wrote"), none⟩)], none⟩)]
  enumTypes := Dict.empty

/-- The records of an author of one book. -/
def creditsJson : Json :=
  .object [
    ("Author", .array [.object [("id", .string "a"), ("wrote", .array [.string "1"])]]),
    ("Book", .array [.object [("id", .string "1")]])]

/-- The store of the author and the book. -/
def Store.credits : Store :=
  (Store.ofJson Model.credits creditsJson).toOption.getD (Store.empty Model.credits)

/-- A consistent model may chain mapped sides: the book leads to its author, but the side of the
author that the book maps lists nothing. -/
theorem chained_side_misses_its_mirror :
    Model.credits.Consistent ∧
      Store.load Model.credits (String.ofList creditsJson.compactChars) = .ok Store.credits ∧
      Model.credits.ownerOf? "Author" "books" = some ("Book", "author") ∧
      Store.credits.navigate (.entity ⟨"Book", "1"⟩) "author" =
        .ok [.entity ⟨"Author", "a"⟩] ∧
      Store.credits.navigate (.entity ⟨"Author", "a"⟩) "books" = .ok [] ∧
      Store.credits.leadingTo "Book" "author" ⟨"Author", "a"⟩ = [.entity ⟨"Book", "1"⟩] := by
  have read : Json.readText (.map (.list (.map .any))) creditsJson.compactChars =
      .ok creditsJson := by
    cbv
  refine ⟨by decide +kernel, ?_, by decide +kernel, by rfl, by rfl, by rfl⟩
  rw [Store.load_ofList read]
  exact eq_ok_of_isOk (by decide +kernel)

end EntityGraph
