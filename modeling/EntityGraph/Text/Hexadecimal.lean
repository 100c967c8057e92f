/-!
# Hexadecimal digits
-/

namespace EntityGraph.Text

/-- The value of a hexadecimal digit of either case. -/
def hexValue? (c : Char) : Option Nat :=
  if '0' ≤ c ∧ c ≤ '9' then some (c.toNat - '0'.toNat)
  else if 'a' ≤ c ∧ c ≤ 'f' then some (c.toNat - 'a'.toNat + 10)
  else if 'A' ≤ c ∧ c ≤ 'F' then some (c.toNat - 'A'.toNat + 10)
  else none

/-- The lower-case digits of a number without leading zeros. -/
def hexDigits (n : Nat) : List Char :=
  Nat.toDigits 16 n

/-- The last `count` lower-case digits of a number. -/
def hexPlaces (count n : Nat) : List Char :=
  match count with
  | 0 => []
  | count + 1 => hexPlaces count (n / 16) ++ [Nat.digitChar (n % 16)]

end EntityGraph.Text
