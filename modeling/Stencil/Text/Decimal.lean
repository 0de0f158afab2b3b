import Stencil.Text.Blank

/-!
# Decimal and hexadecimal numerals

A signed numeral is read as an optional sign and at least one decimal digit; its
value is a mathematical integer, and fitting a word is a separate question. A
number is written with the fewest digits, and hexadecimal uses small letters.
-/

namespace Stencil.Text

/-- A decimal digit of ASCII. -/
def isDigit (c : Char) : Bool := '0' ≤ c && c ≤ '9'

/-- The value of a run of decimal digits, most significant first. -/
def digitsValue (digits : List Char) : Nat :=
  digits.foldl (fun value c => value * 10 + (c.toNat - '0'.toNat)) 0

/-- Reads at least one digit and nothing else. -/
def readDigits (text : List Char) : Option Nat :=
  if text ≠ [] && text.all isDigit then some (digitsValue text) else none

/-- Reads an optional sign and at least one digit. -/
def readInteger : List Char → Option Int
  | '-' :: digits => (readDigits digits).map fun n => -(n : Int)
  | '+' :: digits => (readDigits digits).map fun n => (n : Int)
  | digits => (readDigits digits).map fun n => (n : Int)

/-- How many unsigned 64-bit numbers there are. -/
def wordCount : Nat := 18446744073709551616

/-- The integer lies within the signed 64-bit range. -/
def fitsWord (n : Int) : Bool := -9223372036854775808 ≤ n && n < 9223372036854775808

/-- The integer as a signed 64-bit word, if it fits. -/
def toWord? (n : Int) : Option Int64 := if fitsWord n then some (Int64.ofInt n) else none

/-- Reads a signed 64-bit integer with white space around it. -/
def readWord (text : String) : Option Int64 := (readInteger (trim text.toList)).bind toWord?

/-- Reads an unsigned 64-bit number; a leading plus sign is accepted. -/
def readIndex (text : String) : Option Nat :=
  let value := match text.toList with
    | '+' :: digits => readDigits digits
    | digits => readDigits digits
  value.filter (· < wordCount)

/-- The decimal numeral of a number. -/
def decimal (n : Nat) : String := String.ofList (Nat.toDigits 10 n)

/-- The decimal numeral of a signed 64-bit integer. -/
def decimalWord (n : Int64) : String :=
  if n.toInt < 0 then "-" ++ decimal n.toInt.natAbs else decimal n.toInt.natAbs

/-- The hexadecimal numeral of the 64 bits of a signed integer. -/
def hexadecimalWord (n : Int64) : String := String.ofList (Nat.toDigits 16 n.toUInt64.toNat)

/-- Each further digit multiplies the value by ten and adds its own. -/
theorem digitsValue_append_singleton (digits : List Char) (c : Char) :
    digitsValue (digits ++ [c]) = digitsValue digits * 10 + (c.toNat - '0'.toNat) := by
  simp [digitsValue, List.foldl_append]

/-- A number that fits keeps its value as a word. -/
theorem toInt_of_toWord? (n : Int) (word : Int64) (read : toWord? n = some word) :
    word.toInt = n := by
  unfold toWord? at read
  split at read
  · rename_i fits
    simp only [fitsWord, Bool.and_eq_true, decide_eq_true_eq] at fits
    obtain rfl := Option.some.inj read
    exact Int64.toInt_ofInt_of_le (by omega) (by omega)
  · contradiction

end Stencil.Text
