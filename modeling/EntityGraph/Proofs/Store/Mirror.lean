import EntityGraph.Json.Printer
import EntityGraph.Proofs.Store.Obtained

/-!
# The two sides of a mapped association

An attribute that is mapped holds the instances that refer to its owner. In a store of a
model both sides can be followed, and they agree: an instance leads to a target along the
mapped side exactly if the target leads back along the owner. This needs that no attribute is
filled in from one that is itself filled in.
-/

namespace EntityGraph

/-- The attribute that an attribute is filled in from, with its entity, if it is mapped. -/
def Model.ownerOf? (model : Model) (entity attr : String) : Option (String × String) :=
  (model.attribute? entity attr).bind fun info =>
    match info.type with
    | .association target _ (some owner) => some (target, owner)
    | _ => none

/-- Whether no mapped attribute has a mapped owner, except that mapped attributes may stand in for
each other forever: what the owner of an owner is filled in from is then mapped as well, and no
side of such a chain holds a reference. -/
def Model.Unchained (model : Model) : Prop :=
  ∀ entity ∈ model.entities.entries, ∀ attr ∈ entity.2.attributes.entries,
    ∀ owner ∈ model.ownerOf? entity.1 attr.1, ∀ further ∈ model.ownerOf? owner.1 owner.2,
      (model.ownerOf? further.1 further.2).isSome = true

instance (model : Model) : Decidable model.Unchained := by
  unfold Model.Unchained
  infer_instance

namespace Model

variable {model : Model} {entity attr target owner : String}

/-- A mapped attribute is an association that names its owner. -/
theorem ownerOf?_eq_some_iff :
    model.ownerOf? entity attr = some (target, owner) ↔
      ∃ kind description?, model.attribute? entity attr =
        some ⟨.association target kind (some owner), description?⟩ := by
  simp only [ownerOf?, Option.bind_eq_some_iff]
  constructor
  · rintro ⟨⟨type, description?⟩, known, same⟩
    dsimp only at same
    split at same
    · cases same
      exact ⟨_, _, known⟩
    · cases same
  · rintro ⟨kind, description?, known⟩
    exact ⟨_, known, rfl⟩

/-- A mapped owner is filled in from a mapped attribute. -/
theorem Unchained.isSome_ownerOf? (unchained : model.Unchained)
    (mapped : model.ownerOf? entity attr = some (target, owner)) {further : String × String}
    (again : model.ownerOf? target owner = some further) :
    (model.ownerOf? further.1 further.2).isSome = true := by
  obtain ⟨kind, description?, known⟩ := ownerOf?_eq_some_iff.1 mapped
  obtain ⟨info, declared, held⟩ := Option.bind_eq_some_iff.1 known
  exact unchained _ (Dict.get?_eq_some_iff.1 declared) _ (Dict.get?_eq_some_iff.1 held) _ mapped _
    again

end Model

namespace Store

variable {store raw : Store} {ref : EntityRef} {attr : String}

/-- An attribute of an instance leads to what its row holds. -/
theorem targets_of_row {row : Row} (found : store.row ref = .ok row) :
    store.targets (.entity ref) attr = ((row.get? attr).getD .null).elements := by
  rw [targets_eq, attributeValue, found]
  cases held : row.get? attr with
  | none => simp [bind, Except.bind, Except.toOption, held, Value.elements]
  | some value => simp [bind, Except.bind, Except.toOption, held, pure, Except.pure]

/-- An attribute that is not mapped leads where the record says. -/
theorem targets_direct (decoded : raw.Decoded) {row : Row} (found : raw.row ref = .ok row)
    (direct : raw.model.ownerOf? ref.entity attr = none) :
    raw.withMapped.targets (.entity ref) attr = ((row.get? attr).getD .null).elements := by
  rw [targets_of_row ((row_withMapped raw ref).2 ⟨row, found, rfl⟩)]
  obtain ⟨entity, declared, _⟩ := decoded.rows ref row found
  have absent : attr ∉ (raw.mappedValues entity ref).reverse.map Prod.fst := by
    intro member
    obtain ⟨⟨other, value⟩, inside, rfl⟩ := List.mem_map.1 member
    obtain ⟨target, kind, owner, description?, mapped, _⟩ :=
      mem_mappedValues_iff.1 (List.mem_reverse.1 inside)
    have known : raw.model.attribute? ref.entity other =
        some ⟨.association target kind (some owner), description?⟩ := by
      rw [Model.attribute?, declared, Option.bind_some, mapped]
    rw [Model.ownerOf?_eq_some_iff.2 ⟨kind, description?, known⟩] at direct
    cases direct
  rw [get?_filled declared, lookup_eq_none_of_not_mem absent]
  rfl

/-- A mapped attribute leads to the referrers of its instance. -/
theorem targets_mapped (decoded : raw.Decoded) (present : raw.contains ref = true)
    {target owner : String} (mapped : raw.model.ownerOf? ref.entity attr = some (target, owner)) :
    raw.withMapped.targets (.entity ref) attr = raw.referrers target owner ref := by
  obtain ⟨row, found⟩ := contains_iff.1 present
  obtain ⟨entity, declared, _⟩ := decoded.rows ref row found
  obtain ⟨kind, description?, known⟩ := Model.ownerOf?_eq_some_iff.1 mapped
  rw [Model.attribute?, declared, Option.bind_some] at known
  rw [targets_of_row ((row_withMapped raw ref).2 ⟨row, found, rfl⟩),
    get?_filled_mapped declared known, Option.getD_some, elements_mappedValue_referrers]

/-- Nothing refers to an instance in an attribute that is itself mapped. -/
theorem referrers_eq_nil (decoded : raw.Decoded) {target owner : String}
    (mapped : (raw.model.ownerOf? target owner).isSome = true) :
    raw.referrers target owner ref = [] := by
  rw [List.eq_nil_iff_forall_not_mem]
  intro value member
  obtain ⟨id, row, _, found, inside⟩ := mem_referrers_iff.1 member
  obtain ⟨entity, declared, gives⟩ := decoded.rows _ row found
  obtain ⟨⟨_, _⟩, held⟩ := Option.isSome_iff_exists.1 mapped
  obtain ⟨kind, description?, known⟩ := Model.ownerOf?_eq_some_iff.1 held
  rw [Model.attribute?, declared, Option.bind_some] at known
  rw [gives.mapped owner _ known rfl] at inside
  cases inside

/-- An instance leads to a target along a mapped attribute exactly if the target leads back along
its owner. -/
theorem mem_targets_mapped_iff {model : Model} (obtained : Obtained model store)
    (unchained : model.Unchained) {source target : EntityRef} (sourceStored : store.Stored source)
    (targetStored : store.Stored target) {attr owner : String}
    (mapped : model.ownerOf? source.entity attr = some (target.entity, owner)) :
    (.entity target : Value) ∈ store.targets (.entity source) attr ↔
      (.entity source : Value) ∈ store.targets (.entity target) owner := by
  obtain ⟨raw, rfl, decoded, rfl, _⟩ := exists_decoded obtained
  rw [Stored, contains_withMapped] at sourceStored targetStored
  obtain ⟨row, found⟩ := contains_iff.1 targetStored
  rw [targets_mapped decoded sourceStored mapped]
  cases again : raw.model.ownerOf? target.entity owner with
  | none =>
    rw [targets_direct decoded found again, mem_referrers_iff]
    constructor
    · rintro ⟨id, other, same, present, inside⟩
      obtain ⟨entity, id⟩ := target
      cases same
      rw [found] at present
      cases present
      exact inside
    · intro inside
      exact ⟨target.id, row, rfl, found, inside⟩
  | some further =>
    rw [targets_mapped decoded targetStored again,
      referrers_eq_nil decoded (unchained.isSome_ownerOf? mapped again),
      referrers_eq_nil decoded (by rw [again]; rfl)]
    simp

end Store

/-! ## Authors and books -/

/-- Authors and their books, whose association is held by the books. -/
def Model.library : Model where
  entities := Dict.ofList [
    ("Author", ⟨"id", Dict.ofList [
      ("id", ⟨.basic .text, none⟩),
      ("books", ⟨.association "Book" .oneToMany (some "author"), none⟩)], none⟩),
    ("Book", ⟨"id", Dict.ofList [
      ("id", ⟨.basic .text, none⟩),
      ("title", ⟨.basic .text, none⟩),
      ("author", ⟨.association "Author" .manyToOne none, none⟩)], none⟩)]
  enumTypes := Dict.empty

/-- The records of two authors and two books of one of them. -/
def libraryJson : Json :=
  .object [
    ("Author", .array [.object [("id", .string "a")], .object [("id", .string "b")]]),
    ("Book", .array [
      .object [("id", .string "1"), ("title", .string "x"), ("author", .string "a")],
      .object [("id", .string "2"), ("title", .string "y"), ("author", .string "a")]])]

/-- The store of the authors and their books. -/
def Store.library : Store :=
  (Store.ofJson Model.library libraryJson).toOption.getD (Store.empty Model.library)

theorem consistent_library : Model.library.Consistent := by
  decide +kernel

theorem unchained_library : Model.library.Unchained := by
  decide +kernel

theorem obtained_library : Store.Obtained Model.library Store.library := by
  have read : Json.readText (.map (.list (.map .any))) libraryJson.compactChars =
      .ok libraryJson := by
    cbv
  have loaded : Store.load Model.library (String.ofList libraryJson.compactChars) =
      .ok Store.library := by
    rw [Store.load_ofList read]
    exact eq_ok_of_isOk (by decide +kernel)
  exact .loaded loaded

end EntityGraph
