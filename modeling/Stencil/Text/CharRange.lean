/-!
# Ranges of characters

A property of characters is held as a list of closed ranges of code points. A
character has the property when one of the ranges contains its code point.
-/

namespace Stencil.Text

/-- Closed ranges of code points, first and last included. -/
abbrev CharRanges := List (Nat × Nat)

/-- One of the ranges contains the character. -/
def CharRanges.holds (ranges : CharRanges) (c : Char) : Bool :=
  ranges.any fun range => range.1 ≤ c.toNat && c.toNat ≤ range.2

/-- A character is held exactly when some range reaches over its code point. -/
theorem CharRanges.holds_iff (ranges : CharRanges) (c : Char) :
    ranges.holds c = true ↔ ∃ range ∈ ranges, range.1 ≤ c.toNat ∧ c.toNat ≤ range.2 := by
  simp [CharRanges.holds, List.any_eq_true]

end Stencil.Text
