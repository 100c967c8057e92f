/-!
# Decimal text of doubles

The decimal of a finite double is the shortest one that reads back as that double,
and of several such decimals the nearest to it. A double is an integer number of
units of `2 ^ -1074`, so everything here is exact arithmetic on natural numbers.
A `Layout` says how a decimal is written.

Reading goes the other way: a significand and a power of ten become a double by
one multiplication or division.
-/

namespace EntityGraph

namespace Decimal

/-- The exponent field of a double, zero for subnormal numbers. -/
def exponentField (x : Float) : Nat :=
  x.toBits.toNat / Nat.pow 2 52 % Nat.pow 2 11

/-- The significand of a double, its hidden bit included. -/
def significand (x : Float) : Nat :=
  let fraction := x.toBits.toNat % Nat.pow 2 52
  if exponentField x = 0 then fraction else fraction + Nat.pow 2 52

/-- The power of two that the significand is multiplied by, in units of `2 ^ -1074`. -/
def scale (x : Float) : Nat :=
  max (exponentField x) 1 - 1

/-- Whether the sign bit is set. -/
def isNegative (x : Float) : Bool :=
  Nat.pow 2 63 ≤ x.toBits.toNat

/-- The magnitude of a finite double in units of `10 ^ -1074`, which is exact. -/
def expansion (x : Float) : Nat :=
  significand x * Nat.pow 2 (scale x) * Nat.pow 5 1074

/-- Whether the number `candidate`, in units of `10 ^ -1074`, is nearer to the magnitude
of `x` than to that of any other double. A midpoint belongs to the double with the even
significand. Below a power of two the neighbours stand half as far apart. -/
def readsBack (x : Float) (candidate : Nat) : Bool :=
  let unit := Nat.pow 2 (scale x) * Nat.pow 5 1074
  let above := 2 * unit
  let below := if significand x = Nat.pow 2 52 ∧ 0 < scale x then unit else above
  let centre := 4 * expansion x
  if significand x % 2 = 0 then
    centre ≤ 4 * candidate + below && 4 * candidate ≤ centre + above
  else
    centre < 4 * candidate + below && 4 * candidate < centre + above

/-- The digits of a natural number, most significant first. -/
def digitsOf (n : Nat) : List Char :=
  Nat.toDigits 10 n

/-- The number of decimal digits of a positive number below `2 ^ 4096`. The estimate from
the binary length is the exponent of the leading digit or one less. -/
def digitCount (n : Nat) : Nat :=
  let estimate := n.log2 * 1233 / 4096
  if n < Nat.pow 10 (estimate + 1) then estimate + 1 else estimate + 2

/-- Which of two decimals is taken that are equally near and equally short. -/
inductive Tie where
  /-- The one whose last digit is even. -/
  | toEven
  /-- The greater one in magnitude. -/
  | awayFromZero
deriving DecidableEq

/-- Whether a tie between a multiple of a power of ten and the next one goes to the former. -/
def Tie.takesLower (tie : Tie) (low : Nat) : Bool :=
  tie = .toEven && low % 2 = 0

/-- A multiple of `10 ^ power` that reads back as `x`, in units of `10 ^ -1074`. Only the two
multiples around `x` can be nearest. -/
def onGrid? (tie : Tie) (x : Float) (power : Nat) : Option Nat :=
  let step := Nat.pow 10 power
  let low := expansion x / step
  let toLow := expansion x - low * step
  let lowFits := readsBack x (low * step)
  let highFits := readsBack x ((low + 1) * step)
  let lowNearer := 2 * toLow < step || (2 * toLow = step && tie.takesLower low)
  if lowFits && (lowNearer || !highFits) then some low
  else if highFits then some (low + 1)
  else none

/-- The shortest decimal that reads back as a positive double: a coefficient and the power
of ten it is multiplied by, in units of `10 ^ -1074`. Seventeen digits always suffice. -/
def shortest (tie : Tie) (x : Float) : Nat × Nat :=
  let length := digitCount (expansion x)
  let attempts := (List.range 17).map fun count => length - (count + 1)
  (attempts.findSome? fun power => (onGrid? tie x power).map (·, power)).getD (expansion x, 0)

/-- How decimals are written: the exponents of the leading digit that are written
positionally, the form of the exponent in the other cases, and the choice in a tie. -/
structure Layout where
  /-- The least exponent written positionally. -/
  lowest : Int
  /-- The greatest exponent written positionally. -/
  highest : Int
  /-- Whether an exponent that is not negative has a plus sign. -/
  plus : Bool
  /-- Which of two equally good decimals is written. -/
  tie : Tie

namespace Layout

/-- The exponent part of a decimal. -/
def exponentText (layout : Layout) (exponent : Int) : List Char :=
  let sign := if exponent < 0 then ['-'] else if layout.plus then ['+'] else []
  'e' :: sign ++ digitsOf exponent.natAbs

/-- Write digits, the first of which stands for its multiple of `10 ^ exponent`. A whole
number keeps one zero after the point. -/
def place (layout : Layout) (digits : List Char) (exponent : Int) : List Char :=
  if layout.lowest ≤ exponent && exponent ≤ layout.highest then
    if exponent < 0 then
      '0' :: '.' :: List.replicate (exponent.natAbs - 1) '0' ++ digits
    else
      let whole := exponent.toNat + 1
      if digits.length ≤ whole then
        digits ++ List.replicate (whole - digits.length) '0' ++ ['.', '0']
      else
        digits.take whole ++ '.' :: digits.drop whole
  else
    match digits with
    | [] => layout.exponentText exponent
    | [only] => only :: layout.exponentText exponent
    | first :: rest => first :: '.' :: rest ++ layout.exponentText exponent

/-- The text of a double. -/
def text (layout : Layout) (x : Float) : String :=
  let sign := if isNegative x then ['-'] else []
  if x.isNaN then "NaN"
  else if x.isInf then String.ofList (sign ++ ['i', 'n', 'f'])
  else if expansion x = 0 then String.ofList (sign ++ ['0', '.', '0'])
  else
    let (coefficient, power) := shortest layout.tie x
    let digits := digitsOf coefficient
    let exponent : Int := digits.length - 1 + power - 1074
    let kept := (digits.reverse.dropWhile (· = '0')).reverse
    String.ofList (sign ++ layout.place kept exponent)

end Layout

/-- Ten to a power that doubles can hold. -/
def powerOfTen (exponent : Nat) : Float :=
  Float.ofScientific 1 false exponent

/-- Multiply a double that is not negative by a power of ten, rounding as doubles do. The
largest power that doubles hold bounds one step, so a very negative exponent takes several.
There is no result beyond the largest double. -/
def scaled? (x : Float) (exponent : Int) : Option Float :=
  if exponent < -308 then
    if x == 0 then some x else scaled? (x / powerOfTen 308) (exponent + 308)
  else if exponent < 0 then some (x / powerOfTen exponent.natAbs)
  else if exponent ≤ 308 then
    let product := x * powerOfTen exponent.toNat
    if product.isInf then none else some product
  else if x == 0 then some x
  else none
termination_by exponent.natAbs

/-- Read a decimal with a significand of at most 64 bits. -/
def read? (negative : Bool) (significand : Nat) (exponent : Int) : Option Float :=
  (scaled? (Float.ofNat significand) exponent).map fun x => if negative then -x else x

end Decimal

end EntityGraph
