import EntityGraph.Json.Reader
import EntityGraph.Proofs.Doubles.Finite
import EntityGraph.Proofs.Json.Denoted
import EntityGraph.Proofs.Outcome

/-!
# Doubles in JSON that was read

JSON text has no way to write a double that is not a finite number, and none arises while a text is
read: a number that is too large is refused. So every number in a value that was read is finite as
a double.
-/

namespace EntityGraph

/-- Whether a number of JSON is finite as a double. -/
def Number.Numeric (n : Number) : Prop :=
  n.toFloat.isFinite = true

/-- As a double, such a number is a number. -/
theorem Number.Numeric.toFloat {n : Number} (numeric : n.Numeric) : n.toFloat.isNaN = false :=
  (Doubles.isFinite_iff.1 numeric).1

namespace Json

/-- Whether every number in a JSON value is finite as a double. -/
inductive Numeric : Json → Prop where
  | null : Numeric .null
  | bool (b : Bool) : Numeric (.bool b)
  | number {n : Number} (numeric : n.Numeric) : Numeric (.number n)
  | string (s : String) : Numeric (.string s)
  | array {items : List Json} (each : ∀ item ∈ items, Numeric item) : Numeric (.array items)
  | object {members : List (String × Json)} (each : ∀ member ∈ members, Numeric member.2) :
    Numeric (.object members)

/-! ## Numbers -/

/-- What is refused gives no value. -/
theorem refuseNext_ne_ok {α : Type} {cursor : Cursor} {ended next : Cause} {result : α} :
    cursor.refuseNext ended next ≠ .ok result := by
  unfold Cursor.refuseNext
  split <;> exact fun impossible => by cases impossible

theorem refuseFurther_ne_ok {α : Type} {shape : Shape} {cursor : Cursor} {result : α} :
    refuseFurther shape cursor ≠ .ok result := by
  unfold refuseFurther
  split
  · dsimp only
    split
    · exact fun impossible => by cases impossible
    · exact refuseNext_ne_ok
    · exact fun impossible => by cases impossible
  · exact refuseNext_ne_ok

theorem numeric_of_finishFloat {negative : Bool} {significand : Nat} {exponent : Int}
    {cursor after : Cursor} {n : Number} (small : significand ≤ Number.greatestUnsigned)
    (done : finishFloat negative significand exponent cursor = .ok (n, after)) : n.Numeric := by
  unfold finishFloat at done
  split at done
  · next x read =>
    cases done
    exact Doubles.isFinite_of_read small read
  · cases done

theorem numeric_of_readExponent {negative : Bool} {significand : Nat} {start : Int}
    {cursor after : Cursor} {n : Number} (small : significand ≤ Number.greatestUnsigned)
    (done : readExponent negative significand start cursor = .ok (n, after)) : n.Numeric := by
  unfold readExponent at done
  split at done
  simp only at done
  split at done
  · exact absurd done refuseNext_ne_ok
  · split at done
    · exact numeric_of_finishFloat small done
    · split at done
      · cases done
      · cases done
        have zero : (0.0 : Float).isFinite = true := by decide +kernel
        cases negative with
        | false => exact zero
        | true => exact Doubles.isFinite_neg_float zero

theorem numeric_of_readScale {negative : Bool} {significand : Nat} {start : Int}
    {cursor after : Cursor} {n : Number} (small : significand ≤ Number.greatestUnsigned)
    (done : readScale negative significand start cursor = .ok (n, after)) : n.Numeric := by
  unfold readScale at done
  split at done
  · exact numeric_of_readExponent small done
  · exact numeric_of_readExponent small done
  · exact numeric_of_finishFloat small done

/-- The significand of a fraction fits 64 bits. -/
theorem fractionDigits_le {sum : Nat} (small : sum ≤ Number.greatestUnsigned) (taken : Nat)
    (digits : List Char) : (fractionDigits sum taken digits).1 ≤ Number.greatestUnsigned := by
  induction digits generalizing sum taken with
  | nil => exact small
  | cons digit digits inductionHypothesis =>
    simp only [fractionDigits]
    split
    · next fits => exact inductionHypothesis fits (taken + 1)
    · exact small

theorem numeric_of_readFraction {negative : Bool} {significand dropped : Nat}
    {cursor after : Cursor} {n : Number} (small : significand ≤ Number.greatestUnsigned)
    (done : readFraction negative significand dropped cursor = .ok (n, after)) : n.Numeric := by
  unfold readFraction at done
  split at done
  · exact absurd done refuseNext_ne_ok
  · exact numeric_of_readScale (fractionDigits_le small 0 _) done

/-- The significand of the digits before the point fits 64 bits. -/
theorem wholeDigits_le (digits : List Char) :
    (wholeDigits digits).1 ≤ Number.greatestUnsigned := by
  induction digits using List.reverseRecOn with
  | nil => exact Nat.zero_le _
  | append_singleton digits digit inductionHypothesis =>
    rw [wholeDigits, List.foldl_append]
    change (ite _ _ _ : Nat × Nat).1 ≤ _
    split
    · next fits => exact fits.2
    · exact inductionHypothesis

theorem numeric_wholeNumber (negative : Bool) {magnitude : Nat}
    (small : magnitude ≤ Number.greatestUnsigned) : (wholeNumber negative magnitude).Numeric := by
  unfold wholeNumber
  split
  · exact Doubles.isFinite_ofInt_float (by simpa using small)
  · split
    · exact Doubles.isFinite_neg_float (Doubles.isFinite_ofNat_float small)
    · exact Doubles.isFinite_ofInt_float (by simpa using small)

/-- A number is read as a number. -/
theorem numeric_of_readNumber {negative : Bool} {cursor after : Cursor} {n : Number}
    (done : readNumber negative cursor = .ok (n, after)) : n.Numeric := by
  unfold readNumber at done
  split at done
  · exact absurd done refuseNext_ne_ok
  · cases done
  · have small := wholeDigits_le (leadingDigits cursor.rest)
    simp only at done
    split at done
    · exact numeric_of_readFraction small done
    · exact numeric_of_readScale small done
    · exact numeric_of_readScale small done
    · split at done
      · cases done
        exact numeric_wholeNumber _ small
      · exact numeric_of_finishFloat small done

/-! ## Values -/

theorem numeric_of_scalar {shape : Shape} {value json : Json} {cursor after : Cursor}
    (numeric : value.Numeric) (done : scalar shape value cursor = .ok (json, after)) :
    json.Numeric := by
  unfold scalar at done
  split at done
  · cases done
    exact numeric
  · cases done

theorem numeric_of_readScalar {fuel : Nat} {shape : Shape} {cursor after : Cursor} {json : Json}
    (done : readScalar fuel shape cursor = .ok (json, after)) : json.Numeric := by
  unfold readScalar at done
  split at done
  · cases done
  · obtain ⟨_, _, done⟩ := bind_eq_ok_iff.1 done
    exact numeric_of_scalar .null done
  · obtain ⟨_, _, done⟩ := bind_eq_ok_iff.1 done
    exact numeric_of_scalar (.bool true) done
  · obtain ⟨_, _, done⟩ := bind_eq_ok_iff.1 done
    exact numeric_of_scalar (.bool false) done
  · obtain ⟨⟨chars, _⟩, _, done⟩ := bind_eq_ok_iff.1 done
    exact numeric_of_scalar (.string _) done
  · obtain ⟨⟨n, _⟩, read, done⟩ := bind_eq_ok_iff.1 done
    exact numeric_of_scalar (.number (numeric_of_readNumber read)) done
  · split at done
    · obtain ⟨⟨n, _⟩, read, done⟩ := bind_eq_ok_iff.1 done
      exact numeric_of_scalar (.number (numeric_of_readNumber read)) done
    · exact absurd done refuseNext_ne_ok

theorem numeric_of_readFlat {fuel : Nat} {shape : Shape} {cursor after : Cursor} {json : Json}
    (done : readFlat fuel shape cursor = .ok (json, after)) : json.Numeric := by
  unfold readFlat at done
  simp only at done
  split at done
  · cases done
  · cases done
  · exact numeric_of_readScalar done

theorem numeric_of_readChoice {fuel depth : Nat} {names : List String} {cursor after : Cursor}
    {json : Json} (done : readChoice fuel depth names cursor = .ok (json, after)) :
    json.Numeric := by
  unfold readChoice at done
  simp only at done
  split at done
  · exact numeric_of_readFlat done
  · exact absurd done refuseNext_ne_ok
  · split at done
    · cases done
    · simp only [bind_eq_ok_iff, Prod.exists] at done
      obtain ⟨chosen, middle, _, _, _, value, last, read, done⟩ := done
      split at done
      · cases done
        exact .object (by simpa using numeric_of_readFlat read)
      · cases done
      · cases done
  · cases done
  · cases done

theorem numeric_of_finished {shape : Shape} {value json : Json} {cursor after : Cursor}
    (numeric : value.Numeric) (done : finished shape value cursor = .ok (json, after)) :
    json.Numeric := by
  unfold finished at done
  split at done
  · cases done
  · split at done
    · cases done
      exact numeric
    · cases done

/-- Whether every number in what is read with some fuel is finite as a double. -/
structure ReadsNumeric (fuel : Nat) : Prop where
  value : ∀ {depth shape cursor json after},
    readValue fuel depth shape cursor = .ok (json, after) → json.Numeric
  items : ∀ {depth shape position cursor items after},
    readItems fuel depth shape position cursor = .ok (items, after) → ∀ item ∈ items, item.Numeric
  members : ∀ {depth shape earlier cursor members after},
    readMembers fuel depth shape earlier cursor = .ok (members, after) →
      ∀ member ∈ members, member.2.Numeric

namespace ReadsNumeric

variable {fuel depth : Nat} {shape : Shape} {cursor after : Cursor}

/-- A value is read as its items and members are. -/
theorem of_readValue (reads : ReadsNumeric fuel) {json : Json}
    (done : readValue (fuel + 1) depth shape cursor = .ok (json, after)) : json.Numeric := by
  unfold readValue at done
  rcases depth with _ | depth
  all_goals
    dsimp only at done
    split at done
  · obtain ⟨_, _, same⟩ := bind_eq_ok_iff.1 done
    cases same
    exact .null
  · exact numeric_of_readChoice done
  · split at done
    · cases done
    · exact absurd done refuseNext_ne_ok
  · split at done
    · cases done
    · exact absurd done refuseNext_ne_ok
  · exact numeric_of_readScalar done
  · obtain ⟨_, _, same⟩ := bind_eq_ok_iff.1 done
    cases same
    exact .null
  · exact numeric_of_readChoice done
  · split at done
    · cases done
    · obtain ⟨⟨found, _⟩, read, done⟩ := bind_eq_ok_iff.1 done
      exact numeric_of_finished (.array (reads.items read)) done
  · split at done
    · cases done
    · obtain ⟨⟨found, _⟩, read, done⟩ := bind_eq_ok_iff.1 done
      exact numeric_of_finished (.object (reads.members read)) done
  · exact numeric_of_readScalar done

/-- The items of an array are read one after the other. -/
theorem of_readItems (reads : ReadsNumeric fuel) {position : Nat} {items : List Json}
    (done : readItems (fuel + 1) depth shape position cursor = .ok (items, after)) :
    ∀ item ∈ items, item.Numeric := by
  unfold readItems at done
  dsimp only at done
  split at done
  · cases done
    exact fun _ impossible => by cases impossible
  · exact absurd done refuseFurther_ne_ok
  · simp only [bind_eq_ok_iff, Prod.exists] at done
    obtain ⟨_, _, first, _, readFirst, rest, _, readRest, same⟩ := done
    cases same
    exact List.forall_mem_cons.2 ⟨reads.value readFirst, reads.items readRest⟩

/-- The members of an object are read one after the other. -/
theorem of_readMembers (reads : ReadsNumeric fuel) {earlier : List String}
    {members : List (String × Json)}
    (done : readMembers (fuel + 1) depth shape earlier cursor = .ok (members, after)) :
    ∀ member ∈ members, member.2.Numeric := by
  unfold readMembers at done
  dsimp only at done
  split at done
  · cases done
  · cases done
    exact fun _ impossible => by cases impossible
  · simp only [bind_eq_ok_iff, Prod.exists] at done
    obtain ⟨_, _, name, _, _, done⟩ := done
    split at done
    · cases done
    · simp only [bind_eq_ok_iff, Prod.exists] at done
      obtain ⟨_, _, first, _, readFirst, rest, _, readRest, same⟩ := done
      cases same
      exact List.forall_mem_cons.2 ⟨reads.value readFirst, reads.members readRest⟩

end ReadsNumeric

/-- Whatever is read, every number in it is finite as a double. -/
theorem readsNumeric (fuel : Nat) : ReadsNumeric fuel := by
  induction fuel with
  | zero =>
    refine ⟨fun done => ?_, fun done => ?_, fun done => ?_⟩
    · unfold readValue at done
      cases done
    · unfold readItems at done
      cases done
    · unfold readMembers at done
      cases done
  | succ fuel inductionHypothesis =>
    exact ⟨inductionHypothesis.of_readValue, inductionHypothesis.of_readItems,
      inductionHypothesis.of_readMembers⟩

/-- Every number in a value that was read is finite as a double. -/
theorem numeric_of_readShaped {shape : Shape} {text : String} {json : Json}
    (done : readShaped shape text = .ok json) : json.Numeric := by
  unfold readShaped at done
  split at done
  · next found read =>
    cases done
    unfold readText at read
    simp only [bind_eq_ok_iff, Prod.exists] at read
    obtain ⟨value, after, readValue, finish⟩ := read
    split at finish
    · cases finish
      exact (readsNumeric _).value readValue
    · exact absurd finish refuseNext_ne_ok
  · cases done

/-! ## Parts of values -/

namespace Numeric

/-- The members of an object have no other numbers. -/
theorem of_mem_members {json value : Json} {name : String} (numeric : json.Numeric)
    (member : (name, value) ∈ json.members) : value.Numeric := by
  cases numeric with
  | object each => exact each _ member
  | _ => cases member

/-- Neither has the member of a name. -/
theorem of_member? {json value : Json} {name : String} (numeric : json.Numeric)
    (found : json.member? name = some value) : value.Numeric := by
  cases json with
  | object entries =>
    obtain ⟨before, after, split, _⟩ := List.lookup_eq_some_iff.1 found
    refine numeric.of_mem_members (show (name, value) ∈ entries from ?_)
    rw [split]
    simp
  | _ => cases found

/-- The items of a list have no other numbers. -/
theorem of_mem_items {json item : Json} (numeric : json.Numeric) (member : item ∈ json.items) :
    item.Numeric := by
  cases numeric with
  | array each => exact each _ member
  | _ => cases member

/-- What a value denotes has no other numbers. -/
theorem canonical {json : Json} (numeric : json.Numeric) : json.canonical.Numeric := by
  induction numeric with
  | array each inductionHypothesis =>
    rw [Json.canonical, canonicalItems_eq]
    refine .array fun item member => ?_
    obtain ⟨original, present, rfl⟩ := List.mem_map.1 member
    exact inductionHypothesis original present
  | object each inductionHypothesis =>
    rw [Json.canonical, canonicalMembers_eq]
    refine .object ?_
    rintro ⟨name, value⟩ member
    obtain ⟨original, present, same⟩ :=
      List.mem_map.1 (Dict.mem_of_get?_ofList (Dict.get?_eq_some_iff.2 member))
    cases same
    exact inductionHypothesis original present
  | null => exact .null
  | bool b => exact .bool b
  | number numeric => exact .number numeric
  | string s => exact .string s

end Numeric

end Json

end EntityGraph
