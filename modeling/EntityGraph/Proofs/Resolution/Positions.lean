import EntityGraph.Proofs.Dict
import EntityGraph.Proofs.Outcome
import EntityGraph.Request.Basic
import EntityGraph.Resolution.Response

/-!
# Positions in a response

A resolved part of a request keeps its place: the data of the whole has the data of the part
behind the path to it, and the errors of the part are errors of the whole with this path in
front. Of members with one key only the last is shown, so the keys of an object have to be
different for this.
-/

namespace EntityGraph

/-! ## Paths into a value -/

namespace Json

/-- Whether a value is an object. -/
def isObject : Json → Bool
  | .object _ => true
  | _ => false

/-- What is behind one step into a value. -/
def step? (json : Json) : PathSegment → Option Json
  | .key name => json.member? name
  | .index n =>
    match json with
    | .array items => items[n]?
    | _ => none

/-- What is behind a path into a value. -/
def at? (json : Json) : List PathSegment → Option Json
  | [] => some json
  | segment :: path => (json.step? segment).bind fun part => part.at? path

/-- A path is followed part by part. -/
theorem at?_append (json : Json) (path further : List PathSegment) :
    json.at? (path ++ further) = (json.at? path).bind fun part => part.at? further := by
  induction path generalizing json with
  | nil => rfl
  | cons segment rest inductionHypothesis =>
    rw [List.cons_append, at?, at?, Option.bind_assoc]
    exact congrArg _ (funext inductionHypothesis)

/-- What is behind a path of one step is what is behind the step. -/
theorem at?_singleton (json : Json) (segment : PathSegment) :
    json.at? [segment] = json.step? segment :=
  Option.bind_fun_some _

end Json

/-! ## Parts of a response -/

namespace Resolved

variable {whole part inner : Resolved} {path further : List PathSegment}

/-- Whether a whole has a part behind a path, with its errors. -/
structure Has (whole : Resolved) (path : List PathSegment) (part : Resolved) : Prop where
  data : whole.data.at? path = some part.data
  errors : ∀ error ∈ part.errors, ⟨error.message, path ++ error.path⟩ ∈ whole.errors

/-- A part of a part is a part. -/
theorem Has.trans (outer : whole.Has path part) (deeper : part.Has further inner) :
    whole.Has (path ++ further) inner where
  data := by rw [Json.at?_append, outer.data, Option.bind_some, deeper.data]
  errors error member := by
    have moved := outer.errors _ (deeper.errors error member)
    rwa [← List.append_assoc] at moved

/-- An object has its members behind their keys. -/
theorem has_object {members : List (String × Resolved)} {key : String}
    (distinct : (members.map Prod.fst).Nodup) (member : (key, part) ∈ members) :
    (object members).Has [.key key] part where
  data := by
    have shown : (members.map fun entry => (entry.1, entry.2.data)).map Prod.fst =
        members.map Prod.fst := by
      rw [List.map_map]
      rfl
    rw [Json.at?_singleton]
    refine (Dict.get?_ofList_eq_some_iff (by rwa [shown])).2 ?_
    exact List.mem_map.2 ⟨(key, part), member, rfl⟩
  errors error inside :=
    List.mem_flatMap.2 ⟨(key, part), member, List.mem_map.2 ⟨error, inside, rfl⟩⟩

/-- The errors of an item are errors of its list. -/
theorem mem_itemErrors {items : List Resolved} {index : Nat} (present : items[index]? = some part)
    {error : FieldError} (inside : error ∈ part.errors) (start : Nat) :
    error.under (.index (start + index)) ∈ itemErrors start items := by
  induction items generalizing start index with
  | nil => cases present
  | cons first rest inductionHypothesis =>
    rw [itemErrors, List.mem_append]
    cases index with
    | zero =>
      cases present
      exact .inl (List.mem_map_of_mem inside)
    | succ index =>
      rw [Nat.add_succ, ← Nat.succ_add]
      exact .inr (inductionHypothesis present (start + 1))

/-- Behind an index a list has the data of the item at its place. -/
theorem at?_data_list (items : List Resolved) (index : Nat) :
    (list items).data.at? [.index index] = items[index]?.map data := by
  rw [Json.at?_singleton, list, Json.step?, List.getElem?_map]

/-- A list has its items behind their indices. -/
theorem has_list {items : List Resolved} {index : Nat} (present : items[index]? = some part) :
    (list items).Has [.index index] part where
  data := by
    rw [at?_data_list, present]
    rfl
  errors error inside := by
    have moved := mem_itemErrors present inside 0
    rwa [Nat.zero_add] at moved

end Resolved

/-! ## Members of a response -/

/-- Fields that are resolved to the members of an object give them their keys. -/
theorem keys_of_mapM {fields : List Selection}
    {step : Selection → Except RequestError Resolved} {members : List (String × Resolved)}
    (each : (fields.mapM fun field => do return (field.key, ← step field)) = .ok members) :
    members.map Prod.fst = fields.map Selection.key := by
  rw [mapM_eq_ok_iff] at each
  induction each with
  | nil => rfl
  | cons first _ inductionHypothesis =>
    obtain ⟨_, _, same⟩ := bind_eq_ok_iff.1 first
    cases same
    rw [List.map_cons, List.map_cons, inductionHypothesis]

/-- An object has what each of its fields was resolved to, if their keys are different. -/
theorem exists_has_of_mapM {fields : List Selection}
    {step : Selection → Except RequestError Resolved} {members : List (String × Resolved)}
    (each : (fields.mapM fun field => do return (field.key, ← step field)) = .ok members)
    (distinct : (fields.map Selection.key).Nodup) {field : Selection} (member : field ∈ fields) :
    ∃ value, step field = .ok value ∧
      (Resolved.object members).Has [.key field.key] value := by
  obtain ⟨_, present, keyed⟩ := exists_of_mem_of_mapM each member
  obtain ⟨value, resolved, same⟩ := bind_eq_ok_iff.1 keyed
  cases same
  rw [← keys_of_mapM each] at distinct
  exact ⟨value, resolved, Resolved.has_object distinct present⟩

end EntityGraph
