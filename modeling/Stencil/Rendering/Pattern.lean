import Stencil.Catalogue.Name
import Stencil.Text.Decimal

/-!
# Patterns with markers

A marker is an at sign with digits after it, as many as there are. A pattern is a
text with markers in it; at signs without digits are part of the text.
-/

namespace Stencil

/-- A part of a pattern. -/
inductive PatternPart where
  | text (content : List Char)
  | marker (number : Nat)
  deriving DecidableEq, Repr

namespace PatternPart

/-- The parts of what stands between an at sign and the next. -/
def ofRun (run : List Char) : List PatternPart :=
  match run.takeWhile Text.isDigit with
  | [] => [text ('@' :: run)]
  | digits => [marker (Text.digitsValue digits), text (run.dropWhile Text.isDigit)]

/-- The parts of a pattern, in order. -/
def parts (pattern : List Char) : List PatternPart :=
  match splitOn (· = '@') pattern with
  | [] => []
  | first :: runs => text first :: runs.flatMap ofRun

/-- A character of a text part is one of the run, or the at sign before it. -/
theorem mem_of_mem_ofRun {run content : List Char} (isPart : .text content ∈ ofRun run) {c : Char}
    (inPart : c ∈ content) : c = '@' ∨ c ∈ run := by
  unfold ofRun at isPart
  split at isPart
  · have same : content = '@' :: run := by simpa using isPart
    subst same
    exact List.mem_cons.mp inPart
  · have same : content = run.dropWhile Text.isDigit := by simpa using isPart
    subst same
    exact Or.inr ((List.dropWhile_sublist _).mem inPart)

/-- A character of a text part is one of the pattern. -/
theorem mem_of_mem_parts {pattern content : List Char} (isPart : .text content ∈ parts pattern)
    {c : Char} (inPart : c ∈ content) : c ∈ pattern := by
  unfold parts at isPart
  split at isPart
  · cases isPart
  · rename_i first runs split
    rcases List.mem_cons.mp isPart with same | later
    · have equal : content = first := by simpa using same
      subst equal
      exact (of_mem_splitOn (by rw [split]; exact List.mem_cons_self) inPart).1
    · obtain ⟨run, isRun, inRun⟩ := List.mem_flatMap.mp later
      rcases mem_of_mem_ofRun inRun inPart with rfl | within
      · -- There is a run before this one, and so an at sign between them.
        cases runs with
        | nil => cases isRun
        | cons next others =>
          obtain ⟨c, member, isAt⟩ := exists_separator split
          have same : c = '@' := by simpa using isAt
          exact same ▸ member
      · exact (of_mem_splitOn (by rw [split]; exact List.mem_cons_of_mem first isRun) within).1

example : parts "a@12b@".toList = [text ['a'], marker 12, text ['b'], text ['@']] := by decide

end PatternPart

end Stencil
