import Stencil.Number.Binary

/-!
# The shortest decimal of a binary number

A binary number is written with the fewest significant digits that still read
back as the same number; among those the nearest is taken. The digits are always
written positionally, never with an exponent.
-/

namespace Stencil.Number

/-- A positive number with the interval of reals that round to it. The three
quotients share the denominator; the ends belong to the interval for an even
mantissa. -/
structure Rounding where
  low : Nat
  value : Nat
  high : Nat
  denominator : Nat
  closed : Bool
  deriving DecidableEq, Repr

/-- The interval of reals that round to `mantissa * 2 ^ exponent`. Below a power
of two the neighbouring number is only half as far away. -/
def BinaryFormat.interval (format : BinaryFormat) (mantissa : Nat) (exponent : Int) : Rounding :=
  let narrow := mantissa = Nat.pow 2 (format.precision - 1) && format.lowest < exponent
  let scale := scaleQuotient 2 (exponent - 2) (1, 1)
  { low := (4 * mantissa - if narrow then 1 else 2) * scale.1
    value := 4 * mantissa * scale.1
    high := (4 * mantissa + 2) * scale.1
    denominator := scale.2
    closed := mantissa % 2 = 0 }

/-- The multiple `count * 10 ^ power` lies in the interval. -/
def Rounding.contains (interval : Rounding) (count : Nat) (power : Int) : Bool :=
  let point := scaleQuotient 10 power (count * interval.denominator, 1)
  let low := interval.low * point.2
  let high := interval.high * point.2
  if interval.closed then low ≤ point.1 && point.1 ≤ high else low < point.1 && point.1 < high

/-- The multiple of `10 ^ power` in the interval that is nearest to the value,
the upper one of two equally near. -/
def Rounding.nearest? (interval : Rounding) (power : Int) : Option Nat :=
  let cell := scaleQuotient 10 (-power) (interval.value, interval.denominator)
  let below := cell.1 / cell.2
  let lower := interval.contains below power
  let upper := interval.contains (below + 1) power
  if lower && (!upper || 2 * (cell.1 % cell.2) < cell.2) then some below
  else if upper then some (below + 1) else none

/-- Looks on ever finer decimal grids for a point of the interval. -/
def Rounding.search (interval : Rounding) : Nat → Int → Nat × Int
  | 0, power => (0, power)
  | fuel + 1, power =>
    match interval.nearest? power with
    | some count => if count = 0 then interval.search fuel (power - 1) else (count, power)
    | none => interval.search fuel (power - 1)

/-- Digits and power of ten of the shortest decimal of a positive number. A
double needs at most 17 digits, so 25 grids from just above the number reach. -/
def BinaryFormat.shortest (format : BinaryFormat) (mantissa : Nat) (exponent : Int) : Nat × Int :=
  let interval := format.interval mantissa exponent
  let bits : Int := (Nat.log2 interval.high : Int) - Nat.log2 interval.denominator + 1
  interval.search 25 (bits * 30103 / 100000 + 2)

/-- The digits written positionally. -/
def positional (count : Nat) (power : Int) : List Char :=
  let digits := Nat.toDigits 10 count
  if 0 ≤ power then digits ++ List.replicate power.toNat '0'
  else
    let places := (-power).toNat
    if places < digits.length then
      digits.take (digits.length - places) ++ '.' :: digits.drop (digits.length - places)
    else '0' :: '.' :: List.replicate (places - digits.length) '0' ++ digits

/-- The shortest text that reads back as the number. -/
def BinaryFormat.text (format : BinaryFormat) : Binary → String
  | .notANumber => "NaN"
  | .infinite negative => if negative then "-inf" else "inf"
  | .finite negative mantissa exponent =>
    let magnitude := if mantissa = 0 then ['0']
      else
        let decimal := format.shortest mantissa exponent
        positional decimal.1 decimal.2
    String.ofList (if negative then '-' :: magnitude else magnitude)

end Stencil.Number
