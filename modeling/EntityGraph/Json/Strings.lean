import EntityGraph.Json.Cursor
import EntityGraph.Text.Hexadecimal

/-!
# Reading strings

Between its quotes a string holds characters, escapes of one letter, and escapes of a code
unit in four hexadecimal digits. Two code units that are surrogates stand for one character,
and a surrogate alone for none.
-/

namespace EntityGraph

namespace Json

/-- The number of bytes that characters take. -/
def byteCount (chars : List Char) : Nat :=
  chars.foldl (fun bytes c => bytes + c.utf8Size) 0

/-- Read the four digits of a code unit. They are looked at together, so a wrong one is refused
with all four bytes. -/
def readUnit (cursor : Cursor) : Except Fault (Nat × Cursor) :=
  match cursor.rest.take 4 with
  | [a, b, c, d] =>
    match Text.hexValue? a, Text.hexValue? b, Text.hexValue? c, Text.hexValue? d with
    | some a, some b, some c, some d =>
      .ok (((a * 16 + b) * 16 + c) * 16 + d, ⟨cursor.rest.drop 4, cursor.offset + 4⟩)
    | _, _, _, _ => .error ⟨.malformed .escapeInvalid, cursor.offset + 4⟩
  | chars =>
    let bytes := byteCount chars
    if bytes < 4 then .error ⟨.malformed .endInString, cursor.offset + bytes⟩
    else .error ⟨.malformed .escapeInvalid, cursor.offset + 4⟩

/-- Read one given character inside a surrogate pair. -/
def readPairChar (expected : Char) (cursor : Cursor) : Except Fault Cursor :=
  match cursor.rest with
  | c :: rest =>
    if c = expected then .ok ⟨rest, cursor.offset + 1⟩
    else cursor.refuseNext .endInString .secondSurrogateExpected
  | [] => cursor.refuseHere .endInString

/-- Read what follows the `u` of an escape. A code point beyond the basic plane is written as
two code units. -/
def readCodePoint (cursor : Cursor) : Except Fault (Char × Cursor) := do
  let (unit, cursor) ← readUnit cursor
  if 0xDC00 ≤ unit ∧ unit ≤ 0xDFFF then cursor.refuseHere .loneSurrogate
  else if 0xD800 ≤ unit ∧ unit ≤ 0xDBFF then
    let cursor ← readPairChar '\\' cursor
    let cursor ← readPairChar 'u' cursor
    let (second, cursor) ← readUnit cursor
    if 0xDC00 ≤ second ∧ second ≤ 0xDFFF then
      return (Char.ofNat (0x10000 + (unit - 0xD800) * 0x400 + (second - 0xDC00)), cursor)
    else cursor.refuseHere .loneSurrogate
  else return (Char.ofNat unit, cursor)

/-- The character that a letter stands for after a backslash. -/
def shortEscape? (c : Char) : Option Char :=
  if c = '"' then some '"'
  else if c = '\\' then some '\\'
  else if c = '/' then some '/'
  else if c = 'b' then some '\x08'
  else if c = 'f' then some '\x0c'
  else if c = 'n' then some '\n'
  else if c = 'r' then some '\r'
  else if c = 't' then some '\t'
  else none

/-- Read what follows a backslash. -/
def readEscape (cursor : Cursor) : Except Fault (Char × Cursor) :=
  match cursor.rest with
  | [] => cursor.refuseHere .endInString
  | c :: rest =>
    if c = 'u' then readCodePoint ⟨rest, cursor.offset + 1⟩
    else
      match shortEscape? c with
      | some value => .ok (value, ⟨rest, cursor.offset + 1⟩)
      | none => cursor.refuseNext .endInString .escapeInvalid

/-- Read the characters of a string up to its closing quote. -/
def readChars : Nat → Cursor → Except Fault (List Char × Cursor)
  | 0, cursor => cursor.refuseHere .endInString
  | fuel + 1, cursor =>
    match cursor.rest with
    | [] => cursor.refuseHere .endInString
    | c :: rest =>
      if c = '"' then .ok ([], ⟨rest, cursor.offset + 1⟩)
      else if c = '\\' then do
        let (value, cursor) ← readEscape ⟨rest, cursor.offset + 1⟩
        let (values, cursor) ← readChars fuel cursor
        return (value :: values, cursor)
      else if c.toNat < 32 then cursor.refuseNext .endInString .controlInString
      else do
        let (values, cursor) ← readChars fuel ⟨rest, cursor.offset + c.utf8Size⟩
        return (c :: values, cursor)

end Json

end EntityGraph
