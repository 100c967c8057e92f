/-!
# Dictionaries

A `Dict` maps names to values. Its entries stand in strictly ascending order of
name (the order of their UTF-8 bytes), so two dictionaries with the same entries
are equal and every walk over one visits its names in the same order.
-/

namespace EntityGraph

universe u v

/-- Insert an entry into an ascending list in one pass. An entry of the same name
is replaced. -/
def insertEntry {α : Type u} (name : String) (value : α) :
    List (String × α) → List (String × α)
  | [] => [(name, value)]
  | (other, old) :: rest =>
    if name < other then (name, value) :: (other, old) :: rest
    else if name = other then (name, value) :: rest
    else (other, old) :: insertEntry name value rest

/-- Every entry after an insertion is the inserted one or was there before. -/
theorem mem_insertEntry {α : Type u} {name : String} {value : α} {entry : String × α}
    {entries : List (String × α)} (member : entry ∈ insertEntry name value entries) :
    entry = (name, value) ∨ entry ∈ entries := by
  induction entries with
  | nil => simpa [insertEntry] using member
  | cons head rest ih =>
    obtain ⟨other, old⟩ := head
    simp only [insertEntry] at member
    split at member
    · simpa using member
    · split at member
      · simp only [List.mem_cons] at member ⊢
        exact member.imp_right Or.inr
      · simp only [List.mem_cons] at member ⊢
        rcases member with rfl | member
        · exact .inr (.inl rfl)
        · exact (ih member).imp_right Or.inr

/-- Insertion keeps a list of entries ascending. -/
theorem pairwise_insertEntry {α : Type u} (name : String) (value : α)
    {entries : List (String × α)}
    (ascending : entries.Pairwise fun left right => left.1 < right.1) :
    (insertEntry name value entries).Pairwise fun left right => left.1 < right.1 := by
  induction entries with
  | nil => simp [insertEntry]
  | cons head rest ih =>
    obtain ⟨other, old⟩ := head
    obtain ⟨below, tail⟩ := List.pairwise_cons.1 ascending
    simp only [insertEntry]
    split
    · next less =>
      refine List.pairwise_cons.2 ⟨fun entry member => ?_, ascending⟩
      rcases List.mem_cons.1 member with rfl | member
      · exact less
      · exact String.lt_trans less (below entry member)
    · split
      · next _ same =>
        subst same
        exact List.pairwise_cons.2 ⟨below, tail⟩
      · next notLess different =>
        refine List.pairwise_cons.2 ⟨fun entry member => ?_, ih tail⟩
        rcases mem_insertEntry member with rfl | member
        · rcases String.le_total name other with le | le
          · exact absurd (String.le_antisymm le (String.not_lt.1 notLess)) different
          · exact Decidable.byContradiction fun notGreater =>
              different (String.le_antisymm (String.not_lt.1 notGreater) le)
        · exact below entry member

/-- A finite map from names to values, its entries in strictly ascending order of
name. -/
structure Dict (α : Type u) where
  entries : List (String × α)
  ascending : entries.Pairwise fun left right => left.1 < right.1
deriving DecidableEq

namespace Dict

/-- The dictionary without entries. -/
def empty {α : Type u} : Dict α := ⟨[], .nil⟩

instance {α : Type u} : Inhabited (Dict α) := ⟨empty⟩

/-- The value of a name, if it has one. -/
def get? {α : Type u} (dict : Dict α) (name : String) : Option α :=
  dict.entries.lookup name

/-- Whether a name has a value. -/
def contains {α : Type u} (dict : Dict α) (name : String) : Bool :=
  (dict.get? name).isSome

/-- Give a name a value, in place of the one it may have had. -/
def insert {α : Type u} (dict : Dict α) (name : String) (value : α) : Dict α :=
  ⟨insertEntry name value dict.entries, pairwise_insertEntry name value dict.ascending⟩

/-- The dictionary of a list of entries. Of two entries with one name the later
counts. -/
def ofList {α : Type u} (entries : List (String × α)) : Dict α :=
  entries.foldl (fun dict entry => dict.insert entry.1 entry.2) empty

/-- The names, in ascending order. -/
def names {α : Type u} (dict : Dict α) : List String :=
  dict.entries.map Prod.fst

/-- The values, in ascending order of their names. -/
def values {α : Type u} (dict : Dict α) : List α :=
  dict.entries.map Prod.snd

/-- Change every value, given its name. -/
def map {α : Type u} {β : Type v} (change : String → α → β) (dict : Dict α) : Dict β where
  entries := dict.entries.map fun entry => (entry.1, change entry.1 entry.2)
  ascending := List.pairwise_map.2 dict.ascending

end Dict

end EntityGraph
