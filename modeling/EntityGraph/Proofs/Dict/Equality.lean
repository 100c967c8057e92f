import EntityGraph.Proofs.Dict
import Mathlib.Data.List.Sort

/-!
# Equality of dictionaries

The entries of a dictionary ascend, so they are known once it is known what every name leads
to. Two dictionaries that answer alike are therefore equal, and a dictionary that is made of
a list commutes with whatever changes the list name by name.
-/

namespace EntityGraph

universe u v

namespace Dict

variable {α : Type u} {β : Type v}

/-- Dictionaries that answer alike for every name are equal. -/
theorem ext_get? {left right : Dict α} (same : ∀ name, left.get? name = right.get? name) :
    left = right := by
  let before (entry other : String × α) : Prop := entry.1 < other.1
  have irreflexive : Std.Irrefl before := ⟨fun entry => String.lt_irrefl entry.1⟩
  have antisymmetric : Std.Antisymm before :=
    ⟨fun _ _ less greater => absurd (String.lt_trans less greater) (String.lt_irrefl _)⟩
  have members (entry : String × α) : entry ∈ left.entries ↔ entry ∈ right.entries := by
    obtain ⟨name, value⟩ := entry
    rw [← get?_eq_some_iff, ← get?_eq_some_iff, same]
  have equal : left.entries = right.entries :=
    List.Pairwise.eq_of_mem_iff (r := before) left.ascending right.ascending members
  cases left
  cases right
  cases equal
  rfl

/-- Changing the values keeps the names. -/
theorem names_map (change : String → α → β) (dict : Dict α) :
    (dict.map change).names = dict.names := by
  simp only [names, map, List.map_map]
  rfl

/-- Dictionaries that answer for the same names have the same names. -/
theorem names_eq_of_isSome_get? {left : Dict α} {right : Dict β}
    (same : ∀ name, (left.get? name).isSome = (right.get? name).isSome) :
    left.names = right.names := by
  have blank : left.map (fun _ _ => ()) = right.map fun _ _ => () := by
    refine ext_get? fun name => ?_
    rw [get?_map, get?_map]
    have alike := same name
    cases first : left.get? name <;> cases second : right.get? name <;>
      simp [first, second] at alike ⊢
  rw [← names_map (fun _ _ => ()) left, ← names_map (fun _ _ => ()) right, blank]

/-- A dictionary is made of its own entries. -/
theorem ofList_entries (dict : Dict α) : ofList dict.entries = dict := by
  refine ext_get? fun name => Option.ext fun value => ?_
  rw [get?_ofList_eq_some_iff dict.distinct, get?_eq_some_iff]

/-- The dictionary of a list with changed values is the changed dictionary. -/
theorem ofList_map (change : String → α → β) (entries : List (String × α)) :
    ofList (entries.map fun entry => (entry.1, change entry.1 entry.2)) =
      (ofList entries).map change := by
  refine ext_get? fun name => ?_
  rw [get?_map, get?_ofList, get?_ofList, ← List.map_reverse, lookup_map]

/-- What a name leads to in the dictionary of two lists one after the other. -/
theorem get?_ofList_append (first second : List (String × α)) (name : String) :
    (ofList (first ++ second)).get? name =
      ((ofList second).get? name).or ((ofList first).get? name) := by
  rw [get?_ofList, get?_ofList, get?_ofList, List.reverse_append, List.lookup_append]

/-- The part of a dictionary that has the names to keep. -/
def restrict (keep : String → Bool) (dict : Dict α) : Dict α where
  entries := dict.entries.filter fun entry => keep entry.1
  ascending := dict.ascending.filter _

/-- What a name leads to in a part of a dictionary. -/
theorem get?_restrict (keep : String → Bool) (dict : Dict α) (name : String) :
    (dict.restrict keep).get? name = if keep name then dict.get? name else none :=
  lookup_filter keep dict.entries name

/-- The dictionary of a part of a list is that part of its dictionary. -/
theorem ofList_filter (keep : String → Bool) (entries : List (String × α)) :
    ofList (entries.filter fun entry => keep entry.1) = (ofList entries).restrict keep := by
  refine ext_get? fun name => ?_
  rw [get?_restrict, get?_ofList, get?_ofList, ← List.filter_reverse, lookup_filter]

/-- The order of a list without repeated names does not matter for its dictionary. -/
theorem ofList_eq_of_perm {entries others : List (String × α)}
    (distinct : (entries.map Prod.fst).Nodup) (same : others.Perm entries) :
    ofList others = ofList entries := by
  have distinctToo : (others.map Prod.fst).Nodup := (same.map Prod.fst).nodup_iff.2 distinct
  apply ext_get?
  intro name
  apply Option.ext
  intro value
  rw [get?_ofList_eq_some_iff distinctToo, get?_ofList_eq_some_iff distinct, same.mem_iff]

end Dict

end EntityGraph
