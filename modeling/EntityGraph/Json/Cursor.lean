import EntityGraph.Json.Refusal

/-!
# Cursors

A reader takes a cursor and gives a result with the cursor after it, or refuses the text. A
byte that cannot stand where it does is counted as read, so the fault points at it; the end
of a text is no byte.
-/

namespace EntityGraph

namespace Json

/-- What is left of a text, and how many bytes have been read. -/
structure Cursor where
  rest : List Char
  offset : Nat

/-- Refuse the text right after what has been read. -/
def Cursor.refuseHere {α : Type} (cursor : Cursor) (cause : Cause) : Except Fault α :=
  .error ⟨.malformed cause, cursor.offset⟩

/-- Refuse the next byte, or the end of the text for another cause. -/
def Cursor.refuseNext {α : Type} (cursor : Cursor) (atEnd atByte : Cause) : Except Fault α :=
  match cursor.rest with
  | [] => .error ⟨.malformed atEnd, cursor.offset⟩
  | _ :: _ => .error ⟨.malformed atByte, cursor.offset + 1⟩

/-- Whether a character may stand between the tokens of a document. -/
def isBlank (c : Char) : Bool :=
  c = ' ' || c = '\n' || c = '\t' || c = '\r'

/-- Skip blanks. -/
def skipBlanks (offset : Nat) : List Char → Cursor
  | [] => ⟨[], offset⟩
  | c :: rest => if isBlank c then skipBlanks (offset + 1) rest else ⟨c :: rest, offset⟩

/-- Skip blanks from a cursor. -/
def Cursor.pastBlanks (cursor : Cursor) : Cursor :=
  skipBlanks cursor.offset cursor.rest

/-- Read the colon after a name. -/
def readColon (cursor : Cursor) : Except Fault Cursor :=
  let cursor := cursor.pastBlanks
  match cursor.rest with
  | ':' :: rest => .ok ⟨rest, cursor.offset + 1⟩
  | _ => cursor.refuseNext .endInObject .colonExpected

/-- Read the remaining letters of a word. -/
def readWord (offset : Nat) : List Char → List Char → Except Fault Cursor
  | [], rest => .ok ⟨rest, offset⟩
  | _ :: _, [] => (Cursor.mk [] offset).refuseHere .endInValue
  | letter :: letters, c :: rest =>
    if c = letter then readWord (offset + 1) letters rest
    else (Cursor.mk (c :: rest) offset).refuseNext .endInValue .wordExpected

end Json

end EntityGraph
