import EntityGraph.Json.Basic
import EntityGraph.Json.Cursor

/-!
# Reading numbers

A number without fraction and exponent is an integer if it fits 64 bits. Any other number is
a double made from a significand of 64 bits and an exponent: digits that the significand
cannot take in count by their place alone.
-/

namespace EntityGraph

namespace Json

/-- The value of a decimal digit. -/
def digitValue (c : Char) : Nat :=
  c.toNat - '0'.toNat

/-- The digits at the start of a text. -/
def leadingDigits (chars : List Char) : List Char :=
  chars.takeWhile Char.isDigit

/-- Take in the digits before the point: a significand of 64 bits, and how many digits were
left out once the next one did not fit. -/
def wholeDigits (digits : List Char) : Nat × Nat :=
  digits.foldl (fun (sum, dropped) digit =>
    let next := sum * 10 + digitValue digit
    if dropped = 0 ∧ next ≤ Number.greatestUnsigned then (next, 0)
    else (sum, dropped + 1)) (0, 0)

/-- Take in the digits after the point while they fit the significand: the significand and how
many digits it took. -/
def fractionDigits (sum taken : Nat) : List Char → Nat × Nat
  | [] => (sum, taken)
  | digit :: rest =>
    let next := sum * 10 + digitValue digit
    if next ≤ Number.greatestUnsigned then fractionDigits next (taken + 1) rest else (sum, taken)

/-- The greatest exponent that is taken literally. -/
def greatestExponent : Nat := 2147483647

/-- The exponent that digits write, or how many digits it takes to exceed the greatest one. -/
def exponentDigits (sum taken : Nat) : List Char → Except Nat Nat
  | [] => .ok sum
  | digit :: rest =>
    let next := sum * 10 + digitValue digit
    if next ≤ greatestExponent then exponentDigits next (taken + 1) rest else .error (taken + 1)

/-- A double from its significand and its exponent, refused right after the number if it is too
large. -/
def finishFloat (negative : Bool) (significand : Nat) (exponent : Int) (cursor : Cursor) :
    Except Fault (Number × Cursor) :=
  match Decimal.read? negative significand exponent with
  | some x => .ok (.float x, cursor)
  | none => cursor.refuseHere .numberOutOfRange

/-- Read what follows the `e` of a number. -/
def readExponent (negative : Bool) (significand : Nat) (start : Int) (cursor : Cursor) :
    Except Fault (Number × Cursor) :=
  let (below, cursor) : Bool × Cursor :=
    match cursor.rest with
    | '+' :: rest => (false, ⟨rest, cursor.offset + 1⟩)
    | '-' :: rest => (true, ⟨rest, cursor.offset + 1⟩)
    | _ => (false, cursor)
  match leadingDigits cursor.rest with
  | [] => cursor.refuseNext .endInValue .numberInvalid
  | digits =>
    let after : Cursor := ⟨cursor.rest.drop digits.length, cursor.offset + digits.length⟩
    match exponentDigits 0 0 digits with
    | .ok exponent =>
      finishFloat negative significand (start + if below then -(exponent : Int) else exponent) after
    | .error taken =>
      if significand ≠ 0 ∧ !below then
        .error ⟨.malformed .numberOutOfRange, cursor.offset + taken⟩
      else .ok (.float (if negative then -0.0 else 0.0), after)

/-- Read what follows the significand of a double: an exponent or nothing. -/
def readScale (negative : Bool) (significand : Nat) (start : Int) (cursor : Cursor) :
    Except Fault (Number × Cursor) :=
  match cursor.rest with
  | 'e' :: rest => readExponent negative significand start ⟨rest, cursor.offset + 1⟩
  | 'E' :: rest => readExponent negative significand start ⟨rest, cursor.offset + 1⟩
  | _ => finishFloat negative significand start cursor

/-- Read what follows the point of a number. -/
def readFraction (negative : Bool) (significand dropped : Nat) (cursor : Cursor) :
    Except Fault (Number × Cursor) :=
  match leadingDigits cursor.rest with
  | [] => cursor.refuseNext .endInValue .numberInvalid
  | digits =>
    let (significand, taken) := fractionDigits significand 0 digits
    readScale negative significand (dropped - taken)
      ⟨cursor.rest.drop digits.length, cursor.offset + digits.length⟩

/-- A number without fraction and exponent: an integer if it fits 64 bits. Zero with a sign is
the negative zero of doubles. -/
def wholeNumber (negative : Bool) (magnitude : Nat) : Number :=
  if !negative then .int magnitude
  else if magnitude = 0 ∨ Number.greatestSigned + 1 < magnitude then
    .float (-Float.ofNat magnitude)
  else .int (-magnitude)

/-- Read a number after its sign. -/
def readNumber (negative : Bool) (cursor : Cursor) : Except Fault (Number × Cursor) :=
  match leadingDigits cursor.rest with
  | [] => cursor.refuseNext .endInValue .numberInvalid
  | '0' :: _ :: _ => .error ⟨.malformed .numberInvalid, cursor.offset + 2⟩
  | digits =>
    let (significand, dropped) := wholeDigits digits
    let after : Cursor := ⟨cursor.rest.drop digits.length, cursor.offset + digits.length⟩
    match after.rest with
    | '.' :: rest => readFraction negative significand dropped ⟨rest, after.offset + 1⟩
    | 'e' :: _ => readScale negative significand dropped after
    | 'E' :: _ => readScale negative significand dropped after
    | _ =>
      if dropped = 0 then .ok (wholeNumber negative significand, after)
      else finishFloat negative significand dropped after

end Json

end EntityGraph
