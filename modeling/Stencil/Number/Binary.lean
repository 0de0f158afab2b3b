import Stencil.Text.Decimal

/-!
# Binary floating-point numbers

A format is a number of significant bits and the range of exponents of the last
bit. A finite number is an integer multiple of a power of two. Decimal texts are
read exactly as a quotient of integers and rounded once, to the nearest number
of the format, ties to the even mantissa.
-/

namespace Stencil.Number

/-- A binary format: significant bits, and the least and greatest exponent of
the last bit. -/
structure BinaryFormat where
  precision : Nat
  lowest : Int
  highest : Int
  deriving DecidableEq, Repr

/-- 64 bits: 53 significant. -/
def double : BinaryFormat := ⟨53, -1074, 971⟩

/-- 32 bits: 24 significant. -/
def single : BinaryFormat := ⟨24, -149, 104⟩

/-- A number of a binary format; a finite one is `mantissa * 2 ^ exponent`. -/
inductive Binary where
  | notANumber
  | infinite (negative : Bool)
  | finite (negative : Bool) (mantissa : Nat) (exponent : Int)
  deriving DecidableEq, Repr

/-- The quotient rounded to the nearest integer, ties to even. -/
def roundQuotient (numerator denominator : Nat) : Nat :=
  let quotient := numerator / denominator
  let remainder := numerator % denominator
  if 2 * remainder < denominator then quotient
  else if denominator < 2 * remainder then quotient + 1
  else if quotient % 2 = 0 then quotient else quotient + 1

/-- Multiplies the quotient `numerator / denominator` by `base ^ exponent`. -/
def scaleQuotient (base : Nat) (exponent : Int) (quotient : Nat × Nat) : Nat × Nat :=
  if 0 ≤ exponent then (quotient.1 * base.pow exponent.toNat, quotient.2)
  else (quotient.1, quotient.2 * base.pow (-exponent).toNat)

/-- The number of the format nearest to a positive quotient. -/
def BinaryFormat.round (format : BinaryFormat) (negative : Bool) (quotient : Nat × Nat) : Binary :=
  let estimate : Int := (Nat.log2 quotient.1 : Int) - Nat.log2 quotient.2 - format.precision
  let coarse := max format.lowest estimate
  let fits := scaleQuotient 2 (-coarse) quotient
  let exponent := if Nat.pow 2 format.precision ≤ fits.1 / fits.2 then coarse + 1 else coarse
  let scaled := scaleQuotient 2 (-exponent) quotient
  let mantissa := roundQuotient scaled.1 scaled.2
  let carried := mantissa = Nat.pow 2 format.precision
  let mantissa := if carried then Nat.pow 2 (format.precision - 1) else mantissa
  let exponent := if carried then exponent + 1 else exponent
  if format.highest < exponent then .infinite negative else .finite negative mantissa exponent

/-- A decimal text split into its digits, the power of ten of the last one, and
nothing else. -/
def readScientific (text : List Char) : Option (List Char × Int) :=
  let whole := text.takeWhile Text.isDigit
  let afterWhole := text.dropWhile Text.isDigit
  let fraction := match afterWhole with
    | '.' :: rest => rest.takeWhile Text.isDigit
    | _ => []
  let afterFraction := match afterWhole with
    | '.' :: rest => rest.dropWhile Text.isDigit
    | rest => rest
  let exponent := match afterFraction with
    | [] => some 0
    | mark :: rest => if mark = 'e' || mark = 'E' then Text.readInteger rest else none
  if whole = [] && fraction = [] then none
  else exponent.map fun power => (whole ++ fraction, power - fraction.length)

/-- The number of the format nearest to an unsigned decimal text. Powers of ten
far outside the format's range are settled without computing them. -/
def BinaryFormat.readUnsigned (format : BinaryFormat) (negative : Bool) (text : List Char) :
    Option Binary :=
  let word := text.map Char.toLower
  if word = "inf".toList || word = "infinity".toList then some (.infinite negative)
  else if word = "nan".toList then some .notANumber
  else (readScientific text).map fun (digits, power) =>
    let value := Text.digitsValue digits
    if value = 0 then .finite negative 0 format.lowest
    else if (400 : Int) < digits.length + power && (400 : Int) < power then .infinite negative
    else if digits.length + power < (-400 : Int) then .finite negative 0 format.lowest
    else format.round negative (scaleQuotient 10 power (value, 1))

/-- The number of the format nearest to a decimal text. -/
def BinaryFormat.read (format : BinaryFormat) (text : String) : Option Binary :=
  match text.toList with
  | '-' :: rest => format.readUnsigned true rest
  | '+' :: rest => format.readUnsigned false rest
  | rest => format.readUnsigned false rest

/-- Rounding an exact multiple changes nothing. -/
theorem roundQuotient_mul (n denominator : Nat) (positive : 0 < denominator) :
    roundQuotient (n * denominator) denominator = n := by
  unfold roundQuotient
  simp [Nat.mul_div_cancel _ positive, Nat.mul_mod_left, positive]

end Stencil.Number
