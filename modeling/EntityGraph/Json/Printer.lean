import EntityGraph.Json.Basic
import EntityGraph.Text.Hexadecimal

/-!
# JSON text

A value is written compactly, without blanks, or over several lines, each level
indented by two spaces. Inside strings the quote, the backslash and the controls are
escaped, and everything else stands for itself.
-/

namespace EntityGraph

namespace Json

/-- The escape of a control without a letter of its own: four hexadecimal digits. -/
def controlEscape (c : Char) : List Char :=
  '\\' :: 'u' :: Text.hexPlaces 4 c.toNat

/-- One character inside a string. -/
def escaped (c : Char) : List Char :=
  if c = '"' then ['\\', '"']
  else if c = '\\' then ['\\', '\\']
  else if c.toNat = 8 then ['\\', 'b']
  else if c.toNat = 9 then ['\\', 't']
  else if c.toNat = 10 then ['\\', 'n']
  else if c.toNat = 12 then ['\\', 'f']
  else if c.toNat = 13 then ['\\', 'r']
  else if c.toNat < 32 then controlEscape c
  else [c]

/-- A string between quotes. -/
def stringChars (s : String) : List Char :=
  '"' :: s.toList.flatMap escaped ++ ['"']

/-- A truth value. -/
def boolChars (b : Bool) : List Char :=
  if b then ['t', 'r', 'u', 'e'] else ['f', 'a', 'l', 's', 'e']

/-- The empty value. -/
def nullChars : List Char := ['n', 'u', 'l', 'l']

mutual

/-- The characters of a value without blanks. -/
def compactChars : Json → List Char
  | .null => nullChars
  | .bool b => boolChars b
  | .number n => n.text.toList
  | .string s => stringChars s
  | .array [] => ['[', ']']
  | .array (first :: rest) => '[' :: compactChars first ++ compactItems rest ++ [']']
  | .object [] => ['\x7b', '\x7d']
  | .object ((name, value) :: rest) =>
    '\x7b' :: stringChars name ++ ':' :: compactChars value ++ compactMembers rest ++ ['\x7d']

/-- The items after the first, each after a comma. -/
def compactItems : List Json → List Char
  | [] => []
  | item :: rest => ',' :: compactChars item ++ compactItems rest

/-- The members after the first, each after a comma. -/
def compactMembers : List (String × Json) → List Char
  | [] => []
  | (name, value) :: rest =>
    ',' :: stringChars name ++ ':' :: compactChars value ++ compactMembers rest

end

/-- The start of a line at a level. -/
def lineStart (level : Nat) : List Char :=
  '\n' :: List.replicate (2 * level) ' '

mutual

/-- The characters of a value whose first line starts at a level. Empty lists and objects
stay on one line. -/
def prettyChars (level : Nat) : Json → List Char
  | .null => nullChars
  | .bool b => boolChars b
  | .number n => n.text.toList
  | .string s => stringChars s
  | .array [] => ['[', ']']
  | .array (first :: rest) =>
    '[' :: lineStart (level + 1) ++ prettyChars (level + 1) first ++ prettyItems (level + 1) rest
      ++ lineStart level ++ [']']
  | .object [] => ['\x7b', '\x7d']
  | .object ((name, value) :: rest) =>
    '\x7b' :: lineStart (level + 1) ++ stringChars name ++ ':' :: ' ' ::
      prettyChars (level + 1) value ++ prettyMembers (level + 1) rest ++ lineStart level ++ ['\x7d']

/-- The items after the first, each on a line of its own. -/
def prettyItems (level : Nat) : List Json → List Char
  | [] => []
  | item :: rest => ',' :: lineStart level ++ prettyChars level item ++ prettyItems level rest

/-- The members after the first, each on a line of its own. -/
def prettyMembers (level : Nat) : List (String × Json) → List Char
  | [] => []
  | (name, value) :: rest =>
    ',' :: lineStart level ++ stringChars name ++ ':' :: ' ' :: prettyChars level value
      ++ prettyMembers level rest

end

/-- The text of a value without blanks. -/
def compact (json : Json) : String :=
  String.ofList json.compactChars

/-- The text of a value over several lines. -/
def pretty (json : Json) : String :=
  String.ofList (json.prettyChars 0)

end Json

end EntityGraph
