import Stencil.Value.Basic

/-!
# Progressions

The numbers that a range loop goes over: from the first in equal steps, upwards
or downwards, as long as they do not pass the last.
-/

namespace Stencil

/-- A finite arithmetic progression. -/
structure Progression where
  first : Int
  step : Int
  down : Bool
  count : Nat
  deriving DecidableEq, Repr

namespace Progression

/-- The progression from a first number that does not pass a last one. A step
that is not positive leads nowhere. The terms are counted with an unsigned word, and
what it cannot count is left out. -/
def between (first last step : Int) (down : Bool) : Progression :=
  let distance := if down then first - last else last - first
  ⟨first, step, down,
    if step ≤ 0 || distance < 0 then 0
    else min (distance / step + 1).toNat (Text.wordCount - 1)⟩

/-- The term with an index. -/
def term (progression : Progression) (index : Nat) : Int :=
  if progression.down then progression.first - progression.step * index
  else progression.first + progression.step * index

/-- A step of zero leads nowhere. -/
theorem count_between_zero (first last : Int) (down : Bool) :
    (between first last 0 down).count = 0 := by
  simp [between]

example : (between 1 10 4 false).count = 3 ∧ (between 1 10 4 false).term 2 = 9 := by decide

end Progression

/-- What a loop tells its body: where it stands, from either end, and the loop
around it. -/
def loopEntries (index count : Nat) (parent : Option Value) : List (String × Value) := [
  ("counter", .natural (index + 1)),
  ("counter0", .natural index),
  ("index", .natural index),
  ("revcounter", .natural (count - index)),
  ("revcounter0", .natural (count - index - 1)),
  ("first", .boolean (index = 0)),
  ("last", .boolean (index + 1 = count)),
  ("parentloop", parent.getD .none)]

end Stencil
