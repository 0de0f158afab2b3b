/-!
# Spans of a template

A span is a half-open range of the characters of a template. Its line is one
more than the number of line feeds before it; its column is counted from the
last of them.
-/

namespace Stencil

/-- The characters from `start` up to, but not including, `stop`. -/
structure Span where
  start : Nat
  stop : Nat
  deriving DecidableEq, Repr

namespace Span

/-- The smallest span that covers both. -/
def cover (first second : Span) : Span :=
  ⟨min first.start second.start, max first.stop second.stop⟩

/-- The characters that the span covers. -/
def slice (span : Span) (source : List Char) : List Char :=
  (source.drop span.start).take (span.stop - span.start)

/-- The text that the span covers. -/
def text (span : Span) (source : List Char) : String := String.ofList (span.slice source)

/-- The number of the line that the span starts on, counted from one. -/
def line (span : Span) (source : List Char) : Nat :=
  (source.take span.start).count '\n' + 1

/-- How many characters stand before the span on its line. -/
def column (span : Span) (source : List Char) : Nat :=
  ((source.take span.start).reverse.takeWhile (· ≠ '\n')).length

/-- A span before the first line feed starts on the first line. -/
theorem line_eq_one (span : Span) (source : List Char)
    (before : ∀ c ∈ source.take span.start, c ≠ '\n') : span.line source = 1 := by
  have none : (source.take span.start).count '\n' = 0 :=
    List.count_eq_zero.mpr fun member => before _ member rfl
  simp [line, none]

/-- Covering starts no later and stops no earlier than either span. -/
theorem cover_start_le (first second : Span) :
    (first.cover second).start ≤ first.start ∧ second.stop ≤ (first.cover second).stop :=
  ⟨Nat.min_le_left _ _, Nat.le_max_right _ _⟩

end Span

end Stencil
