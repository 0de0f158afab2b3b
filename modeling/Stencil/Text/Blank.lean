import Stencil.Text.CharRange

/-!
# Blank characters

Two sets of blanks matter. Between the tokens of a tag, and beside a tag that
stands alone on its line, only space, tab, carriage return and line feed are
blank. Around the digits of a numeral every character with the White_Space
property is.
-/

namespace Stencil.Text

/-- Space, tab, carriage return and line feed: what may stand between tokens. -/
def isBlank (c : Char) : Bool := c = ' ' || c = '\t' || c = '\r' || c = '\n'

/-- The code points with the White_Space property. -/
def whiteSpace : CharRanges :=
  [(0x9, 0xD), (0x20, 0x20), (0x85, 0x85), (0xA0, 0xA0), (0x1680, 0x1680), (0x2000, 0x200A),
   (0x2028, 0x2029), (0x202F, 0x202F), (0x205F, 0x205F), (0x3000, 0x3000)]

/-- The character has the White_Space property. -/
def isWhiteSpace (c : Char) : Bool := whiteSpace.holds c

/-- The text without white space at either end. -/
def trim (text : List Char) : List Char :=
  ((text.dropWhile isWhiteSpace).reverse.dropWhile isWhiteSpace).reverse

/-- Every blank has the White_Space property, so trimming removes blanks too. -/
theorem isWhiteSpace_of_isBlank (c : Char) (blank : isBlank c = true) : isWhiteSpace c = true := by
  simp only [isBlank, Bool.or_eq_true, decide_eq_true_eq] at blank
  rcases blank with ((rfl | rfl) | rfl) | rfl <;> decide

end Stencil.Text
