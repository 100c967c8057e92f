import EntityGraph.Json.Shape
import EntityGraph.Json.Skipping
import EntityGraph.Text.Quoted

/-!
# Reading JSON text

`Json.read` accepts exactly the texts of the JSON grammar whose lists and objects are
nested at most `Json.depthLimit` deep. Any other text is refused at the first byte that
cannot continue a document, or at the end of a text that stops too early.

The caller may expect a `Shape`. A value of another kind is refused as soon as its kind is
known, a field given twice after its second name, and an incomplete record at its end, so a
fault of shape that comes before a fault of grammar is the one reported. A value that the
shape ignores is skipped.
-/

namespace EntityGraph

namespace Json

/-- What is found, in words, where something else is expected. -/
def found : Json → String
  | .null => "null"
  | .bool b => "boolean `" ++ (if b then "true" else "false") ++ "`"
  | .number (.int n) => "integer `" ++ toString n ++ "`"
  | .number (.float x) => "floating point `" ++ (Number.float x).text ++ "`"
  | .string s => "string " ++ Text.quoted s
  | .array _ => "sequence"
  | .object _ => "map"

/-- Give a value that is neither a list nor an object, if it is as expected. -/
def scalar (shape : Shape) (value : Json) (cursor : Cursor) : Except Fault (Json × Cursor) :=
  if shape.accepts value then .ok (value, cursor)
  else .error ⟨.misshapen value.found shape.description, cursor.offset⟩

/-- Read a value that is neither a list nor an object. -/
def readScalar (fuel : Nat) (shape : Shape) (cursor : Cursor) : Except Fault (Json × Cursor) :=
  match cursor.rest with
  | [] => cursor.refuseHere .endInValue
  | 'n' :: rest => do
    let after ← readWord (cursor.offset + 1) ['u', 'l', 'l'] rest
    scalar shape .null after
  | 't' :: rest => do
    let after ← readWord (cursor.offset + 1) ['r', 'u', 'e'] rest
    scalar shape (.bool true) after
  | 'f' :: rest => do
    let after ← readWord (cursor.offset + 1) ['a', 'l', 's', 'e'] rest
    scalar shape (.bool false) after
  | '"' :: rest => do
    let (chars, after) ← readChars fuel ⟨rest, cursor.offset + 1⟩
    scalar shape (.string (String.ofList chars)) after
  | '-' :: rest => do
    let (value, after) ← readNumber true ⟨rest, cursor.offset + 1⟩
    scalar shape (.number value) after
  | c :: _ =>
    if c.isDigit then do
      let (value, after) ← readNumber false cursor
      scalar shape (.number value) after
    else cursor.refuseNext .endInValue .valueExpected

/-- Read a value where a list or an object is out of place. -/
def readFlat (fuel : Nat) (shape : Shape) (cursor : Cursor) : Except Fault (Json × Cursor) :=
  let cursor := cursor.pastBlanks
  match cursor.rest with
  | '[' :: _ => .error ⟨.misshapen "sequence" shape.description, cursor.offset⟩
  | '\x7b' :: _ => .error ⟨.misshapen "map" shape.description, cursor.offset⟩
  | _ => readScalar fuel shape cursor

/-- Read the characters of a name. -/
def readName (fuel : Nat) (cursor : Cursor) : Except Fault (String × Cursor) := do
  match cursor.rest with
  | '"' :: rest =>
    let (chars, after) ← readChars fuel ⟨rest, cursor.offset + 1⟩
    return (String.ofList chars, after.pastBlanks)
  | _ => cursor.refuseNext .endInValue .nameExpected

/-- Whether a value is one of several names. -/
def isAmong (names : List String) : Json → Bool
  | .string name => names.contains name
  | _ => false

/-- Read one of several names: as a string, or as an object whose only member has that name and
is null. -/
def readChoice (fuel depth : Nat) (names : List String) (cursor : Cursor) :
    Except Fault (Json × Cursor) :=
  let name := Shape.scalar "a known name" (isAmong names)
  match cursor.rest, depth with
  | '"' :: _, _ => readFlat fuel name cursor
  | '\x7b' :: _, 0 => cursor.refuseNext .endInValue .nestingTooDeep
  | '\x7b' :: rest, _ + 1 => do
    let inside := skipBlanks (cursor.offset + 1) rest
    if inside.rest.head? = some '\x7d' then
      .error ⟨.incomplete name.description, inside.offset + 1⟩
    let (chosen, after) ← readFlat fuel name inside
    let after ← readColon after
    let (value, after) ← readFlat fuel (.scalar "null" fun json => json matches .null) after
    let after := after.pastBlanks
    match after.rest with
    | '\x7d' :: rest =>
      return (.object [(chosen.string?.getD "", value)], ⟨rest, after.offset + 1⟩)
    | _ :: _ => .error ⟨.overlong name.description, after.offset⟩
    | [] => after.refuseHere .endInObject
  | [], _ => cursor.refuseHere .endInValue
  | _, _ => .error ⟨.misshapen "other value" name.description, cursor.offset + 1⟩

/-- Refuse a list that goes on after its last expected item, at the item after it. -/
def refuseFurther {α : Type} (shape : Shape) (cursor : Cursor) : Except Fault α :=
  match cursor.rest with
  | ',' :: rest =>
    let cursor := skipBlanks (cursor.offset + 1) rest
    match cursor.rest with
    | [] => cursor.refuseHere .endInList
    | ']' :: _ => cursor.refuseNext .endInList .trailingComma
    | _ => .error ⟨.overlong shape.description, cursor.offset + 1⟩
  | _ => cursor.refuseNext .endInList .listCommaExpected

/-- Go on to the next item of a list after the items before it. All but the first follow a
comma. -/
def toItem (position : Nat) (cursor : Cursor) : Except Fault Cursor :=
  match cursor.rest, position with
  | _ :: _, 0 => .ok cursor
  | ',' :: rest, _ + 1 =>
    let cursor := skipBlanks (cursor.offset + 1) rest
    match cursor.rest with
    | ']' :: _ => cursor.refuseNext .endInList .trailingComma
    | _ => .ok cursor
  | _, _ => cursor.refuseNext .endInList .listCommaExpected

/-- Go on to the next member of an object. All but the first follow a comma. -/
def toMember (first : Bool) (cursor : Cursor) : Except Fault Cursor :=
  match cursor.rest, first with
  | _ :: _, true => .ok cursor
  | ',' :: rest, false =>
    let cursor := skipBlanks (cursor.offset + 1) rest
    match cursor.rest with
    | '\x7d' :: _ => cursor.refuseNext .endInObject .trailingComma
    | _ => .ok cursor
  | _, _ => cursor.refuseNext .endInObject .objectCommaExpected

/-- Give a list or an object, if it is as expected on the whole. -/
def finished (shape : Shape) (value : Json) (cursor : Cursor) : Except Fault (Json × Cursor) :=
  match shape.missing? value with
  | some name => .error ⟨.missingField name, cursor.offset⟩
  | none =>
    if shape.accepts value then .ok (value, cursor)
    else .error ⟨.incomplete shape.description, cursor.offset⟩

mutual

/-- Read a value. The fuel exceeds twice the number of characters left; `depth` levels may still
be opened. -/
def readValue (fuel depth : Nat) (shape : Shape) (cursor : Cursor) :
    Except Fault (Json × Cursor) :=
  match fuel with
  | 0 => cursor.refuseHere .endInValue
  | fuel + 1 =>
    let cursor := cursor.pastBlanks
    match shape, cursor.rest with
    | .ignored, _ => do
      let after ← skipValue fuel cursor
      return (.null, after)
    | .choice names, _ => readChoice fuel depth names cursor
    | shape, '[' :: rest =>
      if !shape.allowsList then .error ⟨.misshapen "sequence" shape.description, cursor.offset⟩
      else
        match depth with
        | 0 => cursor.refuseNext .endInValue .nestingTooDeep
        | depth + 1 => do
          let (items, after) ← readItems fuel depth shape 0 ⟨rest, cursor.offset + 1⟩
          finished shape (.array items) after
    | shape, '\x7b' :: rest =>
      if !shape.allowsObject then .error ⟨.misshapen "map" shape.description, cursor.offset⟩
      else
        match depth with
        | 0 => cursor.refuseNext .endInValue .nestingTooDeep
        | depth + 1 => do
          let (members, after) ← readMembers fuel depth shape [] ⟨rest, cursor.offset + 1⟩
          finished shape (.object members) after
    | shape, _ => readScalar fuel shape cursor

/-- Read the items of a list from a position on, up to its bracket. -/
def readItems (fuel depth : Nat) (shape : Shape) (position : Nat) (cursor : Cursor) :
    Except Fault (List Json × Cursor) :=
  match fuel with
  | 0 => cursor.refuseHere .endInList
  | fuel + 1 =>
    let cursor := cursor.pastBlanks
    match cursor.rest, shape.item? position with
    | ']' :: rest, _ => .ok ([], ⟨rest, cursor.offset + 1⟩)
    | _, none => refuseFurther shape cursor
    | _, some itemShape => do
      let cursor ← toItem position cursor
      let (item, after) ← readValue fuel depth itemShape cursor
      let (items, after) ← readItems fuel depth shape (position + 1) after
      return (item :: items, after)

/-- Read the members of an object after some `earlier` ones, up to its brace. -/
def readMembers (fuel depth : Nat) (shape : Shape) (earlier : List String) (cursor : Cursor) :
    Except Fault (List (String × Json) × Cursor) :=
  match fuel with
  | 0 => cursor.refuseHere .endInObject
  | fuel + 1 =>
    let cursor := cursor.pastBlanks
    match cursor.rest with
    | [] => cursor.refuseHere .endInObject
    | '\x7d' :: rest => .ok ([], ⟨rest, cursor.offset + 1⟩)
    | _ => do
      let cursor ← toMember earlier.isEmpty cursor
      let (name, after) ← readName fuel cursor
      if shape.repeated name earlier then .error ⟨.repeatedField name, after.offset⟩
      else do
        let after ← readColon after
        let (value, after) ← readValue fuel depth (shape.member earlier name) after
        let (members, after) ← readMembers fuel depth shape (name :: earlier) after
        return ((name, value) :: members, after)

end

/-- Read a whole text. -/
def readText (shape : Shape) (chars : List Char) : Except Fault Json := do
  let (json, after) ← readValue (2 * chars.length + 2) depthLimit shape ⟨chars, 0⟩
  let after := after.pastBlanks
  match after.rest with
  | [] => return json
  | _ :: _ => after.refuseNext .endInValue .trailingCharacters

/-- Read a text whose outer levels are to have a shape. -/
def readShaped (shape : Shape) (text : String) : Except ReadError Json :=
  match readText shape text.toList with
  | .ok json => .ok json
  | .error fault =>
    let (line, column) := place 1 0 fault.offset text.toList
    .error ⟨fault.refusal, line, column⟩

/-- Read a text. -/
def read (text : String) : Except ReadError Json :=
  readShaped .any text

end Json

end EntityGraph
