import EntityGraph.Json.Numbers
import EntityGraph.Json.Strings

/-!
# Skipping values

A value of which nothing is made only has to follow the grammar. Its numbers may be of any
size, its code units need not stand for characters, and its lists and objects may be nested
to any depth: those that are still open are kept in a list, the innermost first.
-/

namespace EntityGraph

namespace Json

/-- Skip digits, of which there is at least one. -/
def skipDigits (cursor : Cursor) : Except Fault Cursor :=
  match leadingDigits cursor.rest with
  | [] => cursor.refuseNext .endInValue .numberInvalid
  | digits => .ok ⟨cursor.rest.drop digits.length, cursor.offset + digits.length⟩

/-- Skip a sign, if there is one. -/
def skipSign (cursor : Cursor) : Cursor :=
  match cursor.rest with
  | '+' :: rest => ⟨rest, cursor.offset + 1⟩
  | '-' :: rest => ⟨rest, cursor.offset + 1⟩
  | _ => cursor

/-- Skip an exponent, if there is one. -/
def skipExponent (cursor : Cursor) : Except Fault Cursor :=
  match cursor.rest with
  | 'e' :: rest => skipDigits (skipSign ⟨rest, cursor.offset + 1⟩)
  | 'E' :: rest => skipDigits (skipSign ⟨rest, cursor.offset + 1⟩)
  | _ => .ok cursor

/-- Skip what follows the digits before the point of a number. -/
def skipFraction (cursor : Cursor) : Except Fault Cursor :=
  match cursor.rest with
  | '.' :: rest => do skipExponent (← skipDigits ⟨rest, cursor.offset + 1⟩)
  | _ => skipExponent cursor

/-- Skip a number after its sign. -/
def skipNumber (cursor : Cursor) : Except Fault Cursor :=
  match leadingDigits cursor.rest with
  | '0' :: _ :: _ => .error ⟨.malformed .numberInvalid, cursor.offset + 2⟩
  | _ => do skipFraction (← skipDigits cursor)

/-- Skip the characters of a string and its closing quote. -/
def skipChars : Nat → Cursor → Except Fault Cursor
  | 0, cursor => cursor.refuseHere .endInString
  | fuel + 1, cursor =>
    match cursor.rest with
    | [] => cursor.refuseHere .endInString
    | '"' :: rest => .ok ⟨rest, cursor.offset + 1⟩
    | '\\' :: 'u' :: rest => do
      let (_, after) ← readUnit ⟨rest, cursor.offset + 2⟩
      skipChars fuel after
    | '\\' :: rest => do
      let (_, after) ← readEscape ⟨rest, cursor.offset + 1⟩
      skipChars fuel after
    | c :: rest =>
      if c.toNat < 32 then cursor.refuseNext .endInString .controlInString
      else skipChars fuel ⟨rest, cursor.offset + c.utf8Size⟩

/-- Skip a value that is neither a list nor an object. -/
def skipScalar (fuel : Nat) (cursor : Cursor) : Except Fault Cursor :=
  match cursor.rest with
  | [] => cursor.refuseHere .endInValue
  | 'n' :: rest => readWord (cursor.offset + 1) ['u', 'l', 'l'] rest
  | 't' :: rest => readWord (cursor.offset + 1) ['r', 'u', 'e'] rest
  | 'f' :: rest => readWord (cursor.offset + 1) ['a', 'l', 's', 'e'] rest
  | '"' :: rest => skipChars fuel ⟨rest, cursor.offset + 1⟩
  | '-' :: rest => skipNumber ⟨rest, cursor.offset + 1⟩
  | c :: _ =>
    if c.isDigit then skipNumber cursor else cursor.refuseNext .endInValue .valueExpected

/-- Skip the name of a member and its colon. -/
def skipName (fuel : Nat) (cursor : Cursor) : Except Fault Cursor :=
  let cursor := cursor.pastBlanks
  match cursor.rest with
  | '"' :: rest => do readColon (← skipChars fuel ⟨rest, cursor.offset + 1⟩)
  | _ => cursor.refuseNext .endInObject .nameExpected

/-- What a value stands in. -/
inductive Enclosure where
  | list
  | object
deriving DecidableEq

mutual

/-- Skip a value, and after it what is left of all that it stands in. -/
def skipThrough (fuel : Nat) (around : List Enclosure) (cursor : Cursor) : Except Fault Cursor :=
  match fuel with
  | 0 => cursor.refuseHere .endInValue
  | fuel + 1 =>
    let cursor := cursor.pastBlanks
    match cursor.rest with
    | '[' :: rest =>
      let inside := skipBlanks (cursor.offset + 1) rest
      match inside.rest with
      | ']' :: rest => skipOut fuel around ⟨rest, inside.offset + 1⟩
      | _ => skipThrough fuel (.list :: around) inside
    | '\x7b' :: rest =>
      let inside := skipBlanks (cursor.offset + 1) rest
      match inside.rest with
      | '\x7d' :: rest => skipOut fuel around ⟨rest, inside.offset + 1⟩
      | _ => do
        let after ← skipName fuel inside
        skipThrough fuel (.object :: around) after
    | _ => do
      let after ← skipScalar fuel cursor
      skipOut fuel around after

/-- Skip what is left, after a value, of all that it stands in. -/
def skipOut (fuel : Nat) (around : List Enclosure) (cursor : Cursor) : Except Fault Cursor :=
  match fuel, around with
  | _, [] => .ok cursor
  | 0, _ => cursor.refuseHere .endInValue
  | fuel + 1, .list :: outer =>
    let cursor := cursor.pastBlanks
    match cursor.rest with
    | ',' :: rest => skipThrough fuel around ⟨rest, cursor.offset + 1⟩
    | ']' :: rest => skipOut fuel outer ⟨rest, cursor.offset + 1⟩
    | _ => cursor.refuseNext .endInList .listCommaExpected
  | fuel + 1, .object :: outer =>
    let cursor := cursor.pastBlanks
    match cursor.rest with
    | ',' :: rest => do
      let after ← skipName fuel ⟨rest, cursor.offset + 1⟩
      skipThrough fuel around after
    | '\x7d' :: rest => skipOut fuel outer ⟨rest, cursor.offset + 1⟩
    | _ => cursor.refuseNext .endInObject .objectCommaExpected

end

/-- Skip a value. The fuel exceeds twice the number of characters left. -/
def skipValue (fuel : Nat) (cursor : Cursor) : Except Fault Cursor :=
  skipThrough fuel [] cursor

end Json

end EntityGraph
