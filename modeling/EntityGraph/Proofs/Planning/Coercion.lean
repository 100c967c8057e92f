import EntityGraph.Proofs.Planning.BoundArguments

/-!
# Coercing literals and values

An argument takes its value from a literal, item by item, or from a variable as a whole. The two
recursions agree: what a literal writes is coerced alike when a variable supplies it, up to the
first item that is refused. A value that has been coerced is coerced to itself, so it can be passed
on in a variable.
-/

namespace EntityGraph

namespace Literal

mutual

/-- The value that a literal writes as it stands. Constants and variables write none, inside lists
neither. -/
def untyped? : Literal → Option Value
  | .string text => some (.string text)
  | .int n => some (.int n)
  | .float x => some (.float x)
  | .boolean b => some (.bool b)
  | .null => some .null
  | .list items => (untypedItems? items).map .array
  | .enum _ | .variable _ => none

/-- The values that literals write as they stand, if each of them writes one. -/
def untypedItems? : List Literal → Option (List Value)
  | [] => some []
  | item :: rest => do
    let value ← untyped? item
    let values ← untypedItems? rest
    return value :: values

end

end Literal

/-! ## Values -/

namespace Value

variable {scalar? : Option ScalarType} {argument : String}

mutual

/-- A value that has been coerced is coerced to itself. -/
theorem coerce_of_coerce : (value : Value) → {coerced : Value} →
    value.coerce scalar? argument = .ok coerced → coerced.coerce scalar? argument = .ok coerced
  | .string text, coerced, done => by
    rw [coerce] at done
    split at done
    · -- A text that writes an identifier has become the identifier.
      split at done
      · cases done
        rfl
      · cases done
    · next other =>
      cases done
      rw [coerce, if_neg other]
  | .array items, coerced, done => by
    rw [coerce] at done
    obtain ⟨values, each, same⟩ := bind_eq_ok_iff.1 done
    cases same
    rw [coerce, coerceItems_of_coerceItems items each]
    rfl
  | .null, _, done | .bool _, _, done | .int _, _, done | .float _, _, done | .uuid _, _, done
  | .enum .., _, done | .entity _, _, done => by
    obtain rfl := Except.ok.inj done
    rfl

theorem coerceItems_of_coerceItems : (items : List Value) → {coerced : List Value} →
    coerceItems scalar? argument items = .ok coerced →
      coerceItems scalar? argument coerced = .ok coerced
  | [], coerced, done => by
    cases done
    rfl
  | item :: rest, coerced, done => by
    obtain ⟨first, found, remaining⟩ := bind_eq_ok_iff.1 done
    obtain ⟨others, foundOthers, same⟩ := bind_eq_ok_iff.1 remaining
    cases same
    rw [coerceItems, coerce_of_coerce item found, coerceItems_of_coerceItems rest foundOthers]
    rfl

end

end Value

namespace Model

variable {model : Model} {entity argument : String}

/-- A value that has been coerced for an argument is coerced to itself. -/
theorem coerceValue_of_coerceValue {value coerced : Value}
    (done : model.coerceValue entity argument value = .ok coerced) :
    model.coerceValue entity argument coerced = .ok coerced := by
  unfold coerceValue at done ⊢
  split at done
  · exact Value.coerce_of_coerce value done
  · rfl

/-- Neither a text nor a list is changed. -/
theorem coerceValue_eq_self {value : Value} (notText : ∀ text, value ≠ .string text)
    (notList : ∀ items, value ≠ .array items) :
    model.coerceValue entity argument value = .ok value := by
  unfold coerceValue
  split
  · cases value with
    | string text => exact absurd rfl (notText text)
    | array items => exact absurd rfl (notList items)
    | _ => rfl
  · rfl

/-- The items of a list are coerced for an argument one by one. -/
theorem coerceValue_array (items : List Value) :
    model.coerceValue entity argument (.array items) =
      return .array (← items.mapM (model.coerceValue entity argument)) := by
  have coerceItems_eq (scalar? : Option ScalarType) :
      Value.coerceItems scalar? argument items = items.mapM (Value.coerce scalar? argument) := by
    induction items with
    | nil => rfl
    | cons item rest inductionHypothesis =>
      rw [Value.coerceItems, inductionHypothesis, List.mapM_cons]
  unfold coerceValue
  split
  · rw [Value.coerce, coerceItems_eq]
  · have kept : items.mapM (Except.ok : Value → Except PlanningError Value) = .ok items := by
      rw [mapM_eq_ok_iff, List.forall₂_same]
      exact fun _ _ => rfl
    rw [kept]
    rfl

/-- A constant that an argument names is coerced to itself. -/
theorem coerceValue_of_coerceConstant {constant : String} {coerced : Value}
    (done : model.coerceConstant entity argument constant = .ok coerced) :
    model.coerceValue entity argument coerced = .ok coerced := by
  obtain ⟨enumType, rfl⟩ : ∃ enumType, coerced = .enum enumType constant := by
    unfold coerceConstant at done
    repeat' split at done
    all_goals cases done
    exact ⟨_, rfl⟩
  exact coerceValue_eq_self (by simp) (by simp)

end Model

/-! ## Literals -/

namespace Literal

variable {model : Model} {scope : ArgumentScope} {argument : String}

mutual

/-- The value of a literal is coerced to itself. -/
theorem coerceValue_of_coerce (unbound : scope.boundUuid? argument = none) :
    (literal : Literal) → {coerced : Value} → literal.coerce model scope argument = .ok coerced →
      model.coerceValue scope.entity argument coerced = .ok coerced
  | .string text, coerced, done => by
    rw [coerce, unbound] at done
    exact Model.coerceValue_of_coerceValue done
  | .variable name, coerced, done => by
    rw [coerce] at done
    split at done
    · exact Model.coerceValue_of_coerceValue done
    · cases done
  | .list items, coerced, done => by
    rw [coerce] at done
    obtain ⟨values, each, same⟩ := bind_eq_ok_iff.1 done
    cases same
    rw [Model.coerceValue_array, mapM_coerceValue_of_coerceItems unbound items each]
    rfl
  | .enum constant, coerced, done => by
    rw [coerce] at done
    exact Model.coerceValue_of_coerceConstant done
  | .int _, _, done | .float _, _, done | .boolean _, _, done | .null, _, done => by
    obtain rfl := Except.ok.inj done
    exact Model.coerceValue_eq_self (by simp) (by simp)

theorem mapM_coerceValue_of_coerceItems (unbound : scope.boundUuid? argument = none) :
    (items : List Literal) → {coerced : List Value} →
      coerceItems model scope argument items = .ok coerced →
        coerced.mapM (model.coerceValue scope.entity argument) = .ok coerced
  | [], coerced, done => by
    cases done
    rfl
  | item :: rest, coerced, done => by
    obtain ⟨first, found, remaining⟩ := bind_eq_ok_iff.1 done
    obtain ⟨others, foundOthers, same⟩ := bind_eq_ok_iff.1 remaining
    cases same
    rw [List.mapM_cons, coerceValue_of_coerce unbound item found,
      mapM_coerceValue_of_coerceItems unbound rest foundOthers]
    rfl

end

mutual

/-- What a literal writes as it stands is coerced as the literal is, and is refused as it is. -/
theorem coerceValue_of_untyped? (unbound : scope.boundUuid? argument = none) :
    (literal : Literal) → {value : Value} → literal.untyped? = some value →
      model.coerceValue scope.entity argument value = literal.coerce model scope argument
  | .string text, value, written => by
    obtain rfl := Option.some.inj written
    rw [coerce, unbound]
  | .list items, value, written => by
    obtain ⟨values, each, rfl⟩ := Option.map_eq_some_iff.1 written
    rw [Model.coerceValue_array, coerce, mapM_coerceValue_of_untypedItems? unbound items each]
  | .int _, _, written | .float _, _, written | .boolean _, _, written | .null, _, written => by
    obtain rfl := Option.some.inj written
    exact Model.coerceValue_eq_self (by simp) (by simp)

theorem mapM_coerceValue_of_untypedItems? (unbound : scope.boundUuid? argument = none) :
    (items : List Literal) → {values : List Value} → untypedItems? items = some values →
      values.mapM (model.coerceValue scope.entity argument) =
        coerceItems model scope argument items
  | [], values, written => by
    cases written
    rfl
  | item :: rest, values, written => by
    obtain ⟨first, writtenFirst, remaining⟩ := Option.bind_eq_some_iff.1 written
    obtain ⟨others, writtenOthers, same⟩ := Option.bind_eq_some_iff.1 remaining
    cases same
    rw [List.mapM_cons, coerceItems, coerceValue_of_untyped? unbound item writtenFirst,
      mapM_coerceValue_of_untypedItems? unbound rest writtenOthers]

end

/-- A variable is coerced as its value is. -/
theorem coerce_variable {vars : Dict Value} {name : String} {value : Value}
    (bound : vars.get? name = some value) :
    (Literal.variable name).coerce model { scope with vars := vars } argument =
      model.coerceValue scope.entity argument value := by
  rw [coerce, bound]

end Literal

/-- A value that is not bound ahead of planning is the same whether a literal or a variable supplies
it. The value of a literal is left as it is when a variable passes it on, and what a literal without
constants and variables writes is coerced alike from a variable: to the same value, or with the same
refusal. -/
theorem coercion_is_independent_of_supply {model : Model} {scope : ArgumentScope}
    {argument : String} (unbound : scope.bound.get? argument = none) (literal : Literal) :
    (∀ value, literal.coerce model scope argument = .ok value →
      ∀ vars name, Dict.get? vars name = some value →
        (Literal.variable name).coerce model { scope with vars := vars } argument = .ok value) ∧
    ∀ value, literal.untyped? = some value →
      ∀ vars name, Dict.get? vars name = some value →
        (Literal.variable name).coerce model { scope with vars := vars } argument =
          literal.coerce model scope argument := by
  have noUuid : scope.boundUuid? argument = none := by
    rw [ArgumentScope.boundUuid?, unbound]
  constructor
  · intro value coerced vars name bound
    rw [Literal.coerce_variable bound]
    exact literal.coerceValue_of_coerce noUuid coerced
  · intro value written vars name bound
    rw [Literal.coerce_variable bound]
    exact literal.coerceValue_of_untyped? noUuid written

/-! ## Tags in a variable -/

/-- Tags of devices as a request writes them. -/
def tagsLiteral : Literal :=
  .list [.string "0000000A-0000-0000-0000-000000000001",
    .list [.null, .string "{0000000a-0000-0000-0000-000000000002}"]]

/-- The texts of the tags. -/
def tagTexts : Value :=
  .array [.string "0000000A-0000-0000-0000-000000000001",
    .array [.null, .string "{0000000a-0000-0000-0000-000000000002}"]]

/-- The identifiers of the tags. -/
def tagIds : Value :=
  .array [.uuid ⟨0xa000000000000000000000001⟩, .array [.null, .uuid ⟨0xa000000000000000000000002⟩]]

theorem tags_are_independent_of_supply :
    (Dict.empty : Dict Value).get? "tag" = none ∧
      tagsLiteral.coerce Model.tagged ⟨"Device", Dict.empty, Dict.empty⟩ "tag" = .ok tagIds ∧
      tagsLiteral.untyped? = some tagTexts ∧
      (Literal.variable "tags").coerce Model.tagged
          ⟨"Device", Dict.ofList [("tags", tagIds)], Dict.empty⟩ "tag" = .ok tagIds ∧
      (Literal.variable "tags").coerce Model.tagged
          ⟨"Device", Dict.ofList [("tags", tagTexts)], Dict.empty⟩ "tag" = .ok tagIds := by
  have unbound : (Dict.empty : Dict Value).get? "tag" = none := rfl
  have coerced : tagsLiteral.coerce Model.tagged ⟨"Device", Dict.empty, Dict.empty⟩ "tag" =
      .ok tagIds := by
    rfl
  have written : tagsLiteral.untyped? = some tagTexts := rfl
  obtain ⟨again, alike⟩ := @coercion_is_independent_of_supply Model.tagged
    ⟨"Device", Dict.empty, Dict.empty⟩ "tag" unbound tagsLiteral
  exact ⟨unbound, coerced, written, again tagIds coerced (.ofList [("tags", tagIds)]) "tags" rfl,
    (alike tagTexts written (.ofList [("tags", tagTexts)]) "tags" rfl).trans coerced⟩

end EntityGraph
