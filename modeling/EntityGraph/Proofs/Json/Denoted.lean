import EntityGraph.Json.Record
import EntityGraph.Proofs.Dict.Equality

/-!
# What a JSON value denotes

A text may name a member of an object several times, and then the last one counts. What is found in
the value that is denoted is found by looking up the last member and going on in it.
-/

namespace EntityGraph

namespace Json

theorem canonicalItems_eq (items : List Json) : canonicalItems items = items.map canonical := by
  induction items with
  | nil => rfl
  | cons item rest inductionHypothesis => rw [canonicalItems, inductionHypothesis, List.map_cons]

theorem canonicalMembers_eq (members : List (String × Json)) :
    canonicalMembers members = members.map fun (name, value) => (name, value.canonical) := by
  induction members with
  | nil => rfl
  | cons member rest inductionHypothesis =>
    rw [canonicalMembers, inductionHypothesis, List.map_cons]

/-- A dictionary of the members of an object. Any other value has none. -/
def memberDict (json : Json) : Dict Json :=
  Dict.ofList json.members

/-- The members that a value denotes are what its members denote. -/
theorem memberDict_canonical (json : Json) :
    json.canonical.memberDict = json.memberDict.map fun _ value => value.canonical := by
  let change (_ : String) (value : Json) : Json := value.canonical
  have denoted (entries : List (String × Json)) :
      (object entries).canonical = ofDict ((Dict.ofList entries).map change) := by
    rw [canonical, canonicalMembers_eq, ← Dict.ofList_map change]
    rfl
  cases json with
  | object entries =>
    rw [denoted]
    exact Dict.ofList_entries _
  | _ => rfl

/-- In what a value denotes, a name has one member at most. -/
theorem member?_canonical (json : Json) (name : String) :
    json.canonical.member? name = (json.memberDict.get? name).map canonical := by
  have single : json.canonical.member? name = json.canonical.memberDict.get? name := by
    cases json with
    | object entries =>
      rw [memberDict, canonical, members, Dict.ofList_entries]
      rfl
    | _ => rfl
  rw [single, memberDict_canonical, Dict.get?_map]

/-- The items that a value denotes are what its items denote. -/
theorem items_canonical (json : Json) : json.canonical.items = json.items.map canonical := by
  cases json with
  | array list => rw [canonical, canonicalItems_eq]; rfl
  | _ => rfl

end Json

end EntityGraph
