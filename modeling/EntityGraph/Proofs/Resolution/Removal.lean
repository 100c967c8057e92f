import EntityGraph.Proofs.Dict.Equality
import EntityGraph.Proofs.Request.Removal
import EntityGraph.Resolution.Resolver

/-!
# Removing keys from a response

A removal takes out of a response what it takes out of the request: from every object the
keys that it removes there, and of the errors those at or below a removed key. Places in a
list count as nothing on the way to a key, since a selection is resolved on every item.
-/

namespace EntityGraph

namespace Json

mutual

/-- What a removal leaves of a JSON value. -/
def without (removal : Removal) : Json → Json
  | .array items => .array (itemsWithout removal items)
  | .object members => .object (membersWithout removal members)
  | other => other

/-- What a removal leaves of each item of a list. -/
def itemsWithout (removal : Removal) : List Json → List Json
  | [] => []
  | item :: rest => item.without removal :: itemsWithout removal rest

/-- What a removal leaves of the members of an object. -/
def membersWithout (removal : Removal) : List (String × Json) → List (String × Json)
  | [] => []
  | (key, value) :: rest =>
    if removal.removes key then membersWithout removal rest
    else (key, value.without (removal.below key)) :: membersWithout removal rest

end

variable {removal : Removal}

/-- Every item of a list is reduced by itself. -/
theorem itemsWithout_eq_map (items : List Json) :
    itemsWithout removal items = items.map (without removal) := by
  induction items with
  | nil => rfl
  | cons item rest inductionHypothesis => rw [itemsWithout, inductionHypothesis, List.map_cons]

/-- Members under a removed key go, the others are reduced by what is removed below their key. -/
theorem membersWithout_eq (members : List (String × Json)) :
    membersWithout removal members =
      (members.filter fun member => !removal.removes member.1).map fun member =>
        (member.1, member.2.without (removal.below member.1)) := by
  induction members with
  | nil => rfl
  | cons member rest inductionHypothesis =>
    rw [membersWithout, inductionHypothesis]
    cases removed : removal.removes member.1 <;> simp [removed]

/-- An object with distinct keys is reduced to the object of its reduced members. -/
theorem without_ofDict (entries : List (String × Json)) :
    (ofDict (Dict.ofList entries)).without removal =
      ofDict (Dict.ofList (membersWithout removal entries)) := by
  rw [membersWithout_eq,
    Dict.ofList_map (fun key (value : Json) => value.without (removal.below key)),
    Dict.ofList_filter (fun key => !removal.removes key), ofDict, ofDict, without,
    membersWithout_eq]
  rfl

end Json

/-- The value of an attribute has no objects, so a removal leaves it as it is. -/
theorem Value.without_toJson (removal : Removal) (value : Value) :
    value.toJson.without removal = value.toJson := by
  induction value using Value.toJson.induct
    (motive_2 := fun items =>
      Json.itemsWithout removal (Value.itemsToJson items) = Value.itemsToJson items) with
  | _ => simp_all [Value.toJson, Value.itemsToJson, Json.without, Json.itemsWithout]

/-- Whether a path leads to a removed key or below one. -/
def Removal.covers (removal : Removal) : List PathSegment → Bool
  | [] => false
  | .key key :: path => removal.removes key || covers (removal.below key) path
  | .index _ :: path => removal.covers path

namespace Resolved

variable {removal : Removal}

/-- What a removal leaves of a resolved part. -/
def without (removal : Removal) (resolved : Resolved) : Resolved where
  data := resolved.data.without removal
  errors := resolved.errors.filter fun error => !removal.covers error.path

/-- What a removal leaves of the resolved members of an object. -/
def membersWithout (removal : Removal) (members : List (String × Resolved)) :
    List (String × Resolved) :=
  (members.filter fun member => !removal.removes member.1).map fun member =>
    (member.1, member.2.without (removal.below member.1))

/-- A member under a removed key is gone. -/
theorem membersWithout_cons_of_removed {key : String} {value : Resolved}
    {rest : List (String × Resolved)} (removed : removal.removes key = true) :
    membersWithout removal ((key, value) :: rest) = membersWithout removal rest := by
  rw [membersWithout, List.filter_cons_of_neg (by simp [removed]), membersWithout]

/-- A member under another key stays, reduced by what is removed below the key. -/
theorem membersWithout_cons_of_kept {key : String} {value : Resolved}
    {rest : List (String × Resolved)} (kept : removal.removes key = false) :
    membersWithout removal ((key, value) :: rest) =
      (key, value.without (removal.below key)) :: membersWithout removal rest := by
  rw [membersWithout, List.filter_cons_of_pos (by simp [kept]), List.map_cons, membersWithout]

/-- A violation is reported at the field itself, whatever is removed below it. -/
theorem without_violated (violation : CardinalityViolation) :
    (violated violation).without removal = violated violation :=
  rfl

/-- The errors of the items of a list are reduced item by item. -/
theorem filter_itemErrors (items : List Resolved) (index : Nat) :
    (itemErrors index items).filter (fun error => !removal.covers error.path) =
      itemErrors index (items.map (without removal)) := by
  induction items generalizing index with
  | nil => rfl
  | cons item rest inductionHypothesis =>
    rw [itemErrors, List.filter_append, inductionHypothesis, List.map_cons, itemErrors,
      List.filter_map]
    rfl

/-- A list is reduced item by item. -/
theorem without_list (items : List Resolved) :
    (list items).without removal = list (items.map (without removal)) := by
  rw [without, list, list, filter_itemErrors, Json.without, Json.itemsWithout_eq_map,
    List.map_map, List.map_map]
  rfl

/-- The errors below a key that is not removed are those that are not covered there. -/
theorem filter_under_key {key : String} (kept : removal.removes key = false)
    (errors : List FieldError) :
    (errors.map (FieldError.under (.key key))).filter (fun error => !removal.covers error.path) =
      (errors.filter fun error => !(removal.below key).covers error.path).map
        (FieldError.under (.key key)) := by
  rw [List.filter_map]
  congr 1
  refine List.filter_congr fun error _ => ?_
  simp [FieldError.under, Removal.covers, kept]

/-- The errors of the members of an object are reduced member by member. -/
theorem filter_memberErrors (members : List (String × Resolved)) :
    (members.flatMap fun (key, value) => value.errors.map (FieldError.under (.key key))).filter
        (fun error => !removal.covers error.path) =
      (membersWithout removal members).flatMap fun (key, value) =>
        value.errors.map (FieldError.under (.key key)) := by
  induction members with
  | nil => rfl
  | cons member rest inductionHypothesis =>
    obtain ⟨key, value⟩ := member
    rw [List.flatMap_cons, List.filter_append, inductionHypothesis]
    cases removed : removal.removes key with
    | true =>
      have none : (value.errors.map (FieldError.under (.key key))).filter
          (fun error => !removal.covers error.path) = [] := by
        rw [List.filter_eq_nil_iff]
        intro error member
        obtain ⟨inner, _, rfl⟩ := List.mem_map.1 member
        simp [FieldError.under, Removal.covers, removed]
      rw [none, membersWithout_cons_of_removed removed, List.nil_append]
    | false =>
      rw [filter_under_key removed, membersWithout_cons_of_kept removed, List.flatMap_cons]
      rfl

/-- An object is reduced member by member. -/
theorem without_object (members : List (String × Resolved)) :
    (object members).without removal = object (membersWithout removal members) := by
  rw [without, object, object, filter_memberErrors, Json.without_ofDict, Json.membersWithout_eq,
    membersWithout, List.filter_map, List.map_map, List.map_map]
  rfl

end Resolved

end EntityGraph
