import EntityGraph.Text.Hexadecimal

/-!
# Universally unique identifiers

A `Uuid` is a number of 128 bits. It is read from 32 hexadecimal digits, from five
groups of digits joined by hyphens, and from such groups inside braces or after
`urn:uuid:`. It is written as five groups of lower-case digits.
-/

namespace EntityGraph

/-- A universally unique identifier. -/
structure Uuid where
  value : BitVec 128
deriving DecidableEq

namespace Uuid

/-- The numbers of digits in the groups of a hyphenated identifier. -/
def groupLengths : List Nat := [8, 4, 4, 4, 12]

/-- Cut characters into groups at the hyphens. -/
def groups : List Char → List (List Char)
  | [] => [[]]
  | c :: rest =>
    match groups rest with
    | [] => [[]]
    | first :: others => if c = '-' then [] :: first :: others else (c :: first) :: others

/-- Join groups with hyphens. -/
def joinGroups : List (List Char) → List Char
  | [] => []
  | [only] => only
  | first :: rest => first ++ '-' :: joinGroups rest

/-- Cut characters into groups of the given lengths. -/
def cut : List Nat → List Char → List (List Char)
  | [], _ => []
  | length :: lengths, chars => chars.take length :: cut lengths (chars.drop length)

/-- The text of an identifier: five groups of lower-case digits joined by hyphens. -/
def text (uuid : Uuid) : String :=
  String.ofList (joinGroups (cut groupLengths (Text.hexPlaces 32 uuid.value.toNat)))

/-- The identifier written by 32 digits. -/
def ofDigits? (digits : List Char) : Option Uuid :=
  match digits.mapM Text.hexValue? with
  | some values =>
    if values.length = 32 then
      some ⟨BitVec.ofNat 128 (values.foldl (fun sum digit => sum * 16 + digit) 0)⟩
    else none
  | none => none

/-- The identifier written by five hyphenated groups. -/
def ofGroups? (chars : List Char) : Option Uuid :=
  if (groups chars).map List.length = groupLengths then ofDigits? (groups chars).flatten
  else none

/-- Why a text is not an identifier. -/
inductive Refusal where
  /-- No form has this number of bytes. -/
  | length (found : Nat)
  /-- A character that is neither a hexadecimal digit nor a hyphen, and its byte index. -/
  | character (found : Char) (index : Nat)
  /-- Hyphens cut the text into a number of groups other than five. -/
  | groupCount (found : Nat)
  /-- The first group of a wrong length. -/
  | groupLength (group expected found : Nat)
deriving DecidableEq

/-- The wording of a refusal. -/
def Refusal.message : Refusal → String
  | .length found => "invalid length: found " ++ toString found
  | .character found index =>
    "invalid character: found `" ++ found.toString ++ "` at " ++ toString index
  | .groupCount found => "invalid group count: expected 5, found " ++ toString found
  | .groupLength group expected found =>
    "invalid group length in group " ++ toString group ++ ": expected " ++ toString expected
      ++ ", found " ++ toString found

/-- The first character that no identifier holds, with its byte index. -/
def firstForeign? (index : Nat) : List Char → Option (Char × Nat)
  | [] => none
  | c :: rest =>
    if c = '-' || (Text.hexValue? c).isSome then firstForeign? (index + c.utf8Size) rest
    else some (c, index)

/-- The first of the leading groups that has a wrong length, with the expected and the found
length. The last group gets what is left of the whole text after the places of the others. -/
def wrongGroup (whole : Nat) (found : List Nat) : Nat × Nat × Nat :=
  let leading := ((List.range 4).zip (groupLengths.zip found)).find? fun entry =>
    entry.2.1 ≠ entry.2.2
  leading.getD (4, 12, whole - 24)

/-- Explain why a part of a text of `whole` bytes is not an identifier. The part starts at the
byte `offset`; `bare` tells that the text has no braces and no scheme, so that digits without
any hyphen are a matter of length. -/
def refuse (whole offset : Nat) (bare : Bool) (part : List Char) : Refusal :=
  match firstForeign? offset part with
  | some (found, index) => .character found index
  | none =>
    let parts := groups part
    if bare && parts.length = 1 then .length whole
    else if parts.length ≠ 5 then .groupCount parts.length
    else
      let (group, expected, found) := wrongGroup whole (parts.map List.length)
      .groupLength group expected found

/-- What is inside a pair of braces. -/
def insideBraces? (chars : List Char) : Option (List Char) :=
  match chars with
  | '\x7b' :: rest => if rest.getLast? = some '\x7d' then some rest.dropLast else none
  | _ => none

/-- What follows `urn:uuid:`, whose letters may be of either case. -/
def afterScheme? (chars : List Char) : Option (List Char) :=
  let scheme := "urn:uuid:".toList
  if (chars.take scheme.length).map Char.toLower = scheme then some (chars.drop scheme.length)
  else none

/-- The part of a text that has to be five groups on its own: the text itself, what braces
hold, or what follows the scheme, by the number of bytes. -/
def hyphenatedPart? (bytes : Nat) (chars : List Char) : Option (List Char) :=
  if bytes = 36 then some chars
  else if bytes = 38 then insideBraces? chars
  else if bytes = 45 then afterScheme? chars
  else none

/-- Read an identifier in any of its forms. -/
def read (text : String) : Except Refusal Uuid :=
  let chars := text.toList
  let bytes := text.utf8ByteSize
  if bytes = 0 || 45 < bytes then .error (.length bytes)
  else
    match hyphenatedPart? bytes chars with
    | some part =>
      match ofGroups? part with
      | some uuid => .ok uuid
      | none => .error (refuse 36 0 false part)
    | none =>
      match ofDigits? chars with
      | some uuid => .ok uuid
      | none =>
        match insideBraces? chars, afterScheme? chars with
        | some part, _ => .error (refuse bytes 1 false part)
        | none, some part => .error (refuse bytes 9 false part)
        | none, none => .error (refuse bytes 0 true chars)

/-- The identifier that a text writes, if it writes one. -/
def ofText? (text : String) : Option Uuid :=
  (read text).toOption

end Uuid

end EntityGraph
