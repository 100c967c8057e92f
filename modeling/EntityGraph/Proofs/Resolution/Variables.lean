import EntityGraph.Proofs.Dict
import EntityGraph.Proofs.Outcome
import EntityGraph.Resolution.Resolver

/-!
# Variables that can be read

The JSON of a variable stands for a value unless it is an object or a list that holds one at some
depth. One such variable is enough for a request to be refused, whether the variable is used or not.
-/

namespace EntityGraph

namespace Json

mutual

/-- Whether a value is an object or a list that holds one. -/
def holdsObject : Json → Bool
  | .array items => someHoldsObject items
  | .object _ => true
  | _ => false

/-- Whether one of several values is an object or holds one. -/
def someHoldsObject : List Json → Bool
  | [] => false
  | item :: rest => item.holdsObject || someHoldsObject rest

end

end Json

namespace Json

mutual

/-- The first object in a value, in the order of the items of lists. -/
def firstObject? : Json → Option Json
  | .array items => firstObjectOf? items
  | .object members => some (.object members)
  | _ => none

/-- The first object in several values. -/
def firstObjectOf? : List Json → Option Json
  | [] => none
  | item :: rest => item.firstObject?.or (firstObjectOf? rest)

end

mutual

/-- There is a first object exactly if there is one at all. -/
theorem isSome_firstObject? : (json : Json) → json.firstObject?.isSome = json.holdsObject
  | .null | .bool _ | .number _ | .string _ | .object _ => rfl
  | .array items => by rw [firstObject?, holdsObject, isSome_firstObjectOf? items]

theorem isSome_firstObjectOf? :
    (items : List Json) → (firstObjectOf? items).isSome = someHoldsObject items
  | [] => rfl
  | item :: rest => by
    rw [firstObjectOf?, someHoldsObject, Option.isSome_or, isSome_firstObject? item,
      isSome_firstObjectOf? rest]

end

end Json

namespace Value

mutual

/-- A JSON value stands for no value exactly if an object is in it, and the first one is the reason
for it. -/
theorem ofJson_eq_error_iff {unsupported : Json} :
    (json : Json) → (ofJson json = .error unsupported ↔ json.firstObject? = some unsupported)
  | .null => by simp [ofJson, Json.firstObject?]
  | .bool _ => by simp [ofJson, Json.firstObject?]
  | .number n => by cases signed : n.signed? <;> simp [ofJson, signed, Json.firstObject?]
  | .string _ => by simp [ofJson, Json.firstObject?]
  | .array items => by
    rw [Json.firstObject?, ← ofJsonItems_eq_error_iff items, ofJson, bind_eq_error_iff]
    simp [pure, Except.pure]
  | .object _ => by simp [ofJson, Json.firstObject?]

/-- Several JSON values stand for no values exactly if an object is in one of them. -/
theorem ofJsonItems_eq_error_iff {unsupported : Json} :
    (items : List Json) →
      (ofJsonItems items = .error unsupported ↔ Json.firstObjectOf? items = some unsupported)
  | [] => by simp [ofJsonItems, Json.firstObjectOf?]
  | item :: rest => by
    have others : ofJsonItems rest = .error unsupported ↔
        Json.firstObjectOf? rest = some unsupported :=
      ofJsonItems_eq_error_iff rest
    rw [Json.firstObjectOf?, ofJsonItems, bind_eq_error_iff]
    cases first : ofJson item with
    | error other =>
      rw [(ofJson_eq_error_iff item).1 first]
      simp
    | ok value =>
      rw [eq_none_of_fails (fun _ => ofJson_eq_error_iff item) first, Option.none_or, ← others]
      simp [bind_eq_error_iff, pure, Except.pure]

end

/-- A JSON value stands for a value exactly if no object is in it. -/
theorem exists_ofJson_iff {json : Json} :
    (∃ value, ofJson json = .ok value) ↔ json.holdsObject = false := by
  rw [← json.isSome_firstObject?]
  cases read : ofJson json with
  | error unsupported => simp [(ofJson_eq_error_iff json).1 read]
  | ok value => simp [eq_none_of_fails (fun _ => ofJson_eq_error_iff json) read]

end Value

/-- The value of a variable, under its name. -/
def readVariable (entry : String × Json) : Except PlanningError (String × Value) :=
  match Value.ofJson entry.2 with
  | .ok value => .ok (entry.1, value)
  | .error unsupported => .error (.coercion (.unsupportedJson unsupported))

/-- A variable can be read exactly if no object is in it. -/
theorem exists_readVariable_iff {entry : String × Json} :
    (∃ named, readVariable entry = .ok named) ↔ entry.2.holdsObject = false := by
  rw [← Value.exists_ofJson_iff, readVariable]
  cases Value.ofJson entry.2 <;> simp

/-- A variable is refused exactly for the first object in it. -/
theorem readVariable_eq_error_iff (entry : String × Json) (refusal : PlanningError) :
    readVariable entry = .error refusal ↔
      entry.2.firstObject?.map (fun unsupported =>
        PlanningError.coercion (.unsupportedJson unsupported)) = some refusal := by
  simp only [Option.map_eq_some_iff, ← Value.ofJson_eq_error_iff, readVariable]
  cases Value.ofJson entry.2 <;> simp

/-- The variables of a request can be read exactly if no object is in any of them. -/
theorem exists_variableValues_iff {vars : Dict Json} :
    (∃ values, variableValues vars = .ok values) ↔
      ∀ name json, vars.get? name = some json → json.holdsObject = false := by
  have each : (∃ values, variableValues vars = .ok values) ↔
      ∃ values, vars.entries.mapM readVariable = .ok values := by
    constructor
    · rintro ⟨_, done⟩
      obtain ⟨values, each, _⟩ := bind_eq_ok_iff.1 done
      exact ⟨values, each⟩
    · rintro ⟨values, each⟩
      exact ⟨Dict.ofList values, bind_eq_ok_iff.2 ⟨values, each, rfl⟩⟩
  rw [each, exists_mapM_eq_ok_iff]
  simp only [exists_readVariable_iff, Dict.get?_eq_some_iff, Prod.forall]

/-- The variables of a request are refused exactly for the first object in them, in ascending order
of their names. -/
theorem variableValues_eq_error_iff {vars : Dict Json} {refusal : PlanningError} :
    variableValues vars = .error refusal ↔
      ∃ unsupported, vars.entries.findSome? (fun entry => entry.2.firstObject?) =
        some unsupported ∧ refusal = .coercion (.unsupportedJson unsupported) := by
  have each : variableValues vars = .error refusal ↔
      vars.entries.mapM readVariable = .error refusal := by
    refine bind_eq_error_iff.trans (or_iff_left ?_)
    rintro ⟨values, _, impossible⟩
    cases impossible
  have first : (vars.entries.findSome? fun entry => entry.2.firstObject?.map fun unsupported =>
      PlanningError.coercion (.unsupportedJson unsupported)) =
      (vars.entries.findSome? fun entry => entry.2.firstObject?).map fun unsupported =>
        PlanningError.coercion (.unsupportedJson unsupported) :=
    List.map_findSome?.symm
  rw [each, mapM_eq_error_iff readVariable_eq_error_iff, first, Option.map_eq_some_iff]
  simp only [eq_comm]

end EntityGraph
