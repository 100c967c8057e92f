import EntityGraph.Dict
import EntityGraph.Decimal

/-!
# JSON values

A JSON value keeps the members of its objects as they were written, repeated names
included. `Json.canonical` gives the value that a text denotes: members in ascending
order of name, and of a repeated name only the last member.

Numbers written without a fraction or an exponent are integers if they fit 64 bits,
signed or unsigned, and doubles otherwise.
-/

namespace EntityGraph

/-- A JSON number: an integer of at most 64 bits or a double. -/
inductive Number where
  | int (n : Int)
  | float (x : Float)
deriving DecidableEq

/-- A JSON value. -/
inductive Json where
  | null
  | bool (b : Bool)
  | number (n : Number)
  | string (s : String)
  | array (items : List Json)
  | object (members : List (String × Json))

namespace Number

/-- The least integer that fits 64 bits with a sign. -/
def leastSigned : Int := -9223372036854775808

/-- The greatest integer that fits 64 bits with a sign. -/
def greatestSigned : Int := 9223372036854775807

/-- The greatest integer that fits 64 bits without a sign. -/
def greatestUnsigned : Nat := 18446744073709551615

/-- The number as a signed integer of 64 bits. -/
def signed? : Number → Option Int
  | .int n => if leastSigned ≤ n ∧ n ≤ greatestSigned then some n else none
  | .float _ => none

/-- The number as a double, the nearest one for an integer. -/
def toFloat : Number → Float
  | .int n => Float.ofInt n
  | .float x => x

/-- Doubles stand positionally for exponents from -5 to 15 and with a signed exponent
otherwise. -/
def layout : Decimal.Layout := ⟨-5, 15, true, .toEven⟩

/-- The text of a number. -/
def text : Number → String
  | .int n => toString n
  | .float x => layout.text x

end Number

namespace Json

instance : Inhabited Json := ⟨.null⟩

mutual

/-- The value denoted: members in ascending order of name, the last of a repeated name. -/
def canonical : Json → Json
  | .array items => .array (canonicalItems items)
  | .object members => .object (Dict.ofList (canonicalMembers members)).entries
  | other => other

/-- The denoted values of a list. -/
def canonicalItems : List Json → List Json
  | [] => []
  | item :: rest => item.canonical :: canonicalItems rest

/-- The denoted values of members. -/
def canonicalMembers : List (String × Json) → List (String × Json)
  | [] => []
  | (name, value) :: rest => (name, value.canonical) :: canonicalMembers rest

end

/-- The object of a dictionary. -/
def ofDict (dict : Dict Json) : Json :=
  .object dict.entries

/-- The first member of an object with a name. -/
def member? (name : String) : Json → Option Json
  | .object members => members.lookup name
  | _ => none

end Json

end EntityGraph
