import Stencil.Value.Basic

/-!
# Reading a list that grows

A cursor stands on an element of a list or beyond its ends, and looks at the
length of the list each time it moves. A walk takes elements from both ends, and
its ends are fixed when it is opened. A reading is a list with one cursor and
one walk on it.
-/

namespace Stencil

/-- The index of the element that a cursor stands on, if it stands on one. -/
structure Cursor where
  index : Option Nat
  deriving DecidableEq, Repr

namespace Cursor

/-- On the first element. -/
def first (length : Nat) : Cursor := ⟨if 0 < length then some 0 else none⟩

/-- On the last element. -/
def last (length : Nat) : Cursor := ⟨if 0 < length then some (length - 1) else none⟩

/-- One element on, or beyond the end. -/
def forward (cursor : Cursor) (length : Nat) : Cursor :=
  ⟨(cursor.index.map (· + 1)).filter (· < length)⟩

/-- One element back, or beyond the start. -/
def back (cursor : Cursor) : Cursor :=
  ⟨cursor.index.bind fun index => if 0 < index then some (index - 1) else none⟩

end Cursor

/-- The elements still to be taken: from `front` up to, not including, `stop`. -/
structure Walk where
  front : Nat
  stop : Nat
  deriving DecidableEq, Repr

namespace Walk

/-- A walk over all elements of a list. -/
def whole (length : Nat) : Walk := ⟨0, length⟩

/-- How many elements are still to be taken. -/
def remaining (walk : Walk) : Nat := walk.stop - walk.front

/-- The index of the next element from the front. -/
def takeFront (walk : Walk) : Option Nat × Walk :=
  if walk.front < walk.stop then (some walk.front, { walk with front := walk.front + 1 })
  else (none, walk)

/-- The index of the next element from the back. -/
def takeBack (walk : Walk) : Option Nat × Walk :=
  if walk.front < walk.stop then (some (walk.stop - 1), { walk with stop := walk.stop - 1 })
  else (none, walk)

end Walk

/-- A list with a cursor and a walk on it. -/
structure Reading where
  items : List Value
  cursor : Cursor
  walk : Walk

/-- What can be done to a reading. -/
inductive ReadingStep where
  | append (value : Value)
  | count
  | element (index : Nat)
  | first
  | last
  | forward
  | back
  | restart
  | stay
  | walk
  | takeFront
  | takeBack
  | describe

/-- What a step answers. Asking for an element that is not there is answered by
the length of the list and the index that was asked for. -/
inductive ReadingAnswer where
  | number (count : Nat)
  | value (value : Value)
  | outOfRange (length index : Nat)
  | standing (index : Option Nat) (value : Option Value)
  | taken (value : Option Value) (remaining : Nat)
  | text (shown : String)

/-- The message for an element that is not there. -/
def ReadingAnswer.outOfRangeMessage (length index : Nat) : String :=
  "list index out of range: the len is " ++ Text.decimal length ++ " but the index is "
    ++ Text.decimal index

namespace Reading

/-- A reading of a list, the cursor on its first element, a walk over all. -/
def start (items : List Value) : Reading :=
  ⟨items, .first items.length, .whole items.length⟩

/-- Where the cursor stands. -/
def standing (reading : Reading) : ReadingAnswer :=
  .standing reading.cursor.index (reading.cursor.index.bind fun index => reading.items[index]?)

/-- Moves the cursor and tells where it stands. -/
def move (reading : Reading) (cursor : Cursor) : ReadingAnswer × Reading :=
  let moved := { reading with cursor := cursor }
  (moved.standing, moved)

/-- Takes an element off the walk. -/
def take (reading : Reading) (taken : Option Nat × Walk) : ReadingAnswer × Reading :=
  (.taken (taken.1.bind fun index => reading.items[index]?) taken.2.remaining,
    { reading with walk := taken.2 })

/-- Every element described, between brackets. -/
def described (items : List Value) : String :=
  "[" ++ ", ".intercalate (items.map Value.described) ++ "]"

/-- Performs a step. -/
def step (reading : Reading) : ReadingStep → ReadingAnswer × Reading
  | .append value =>
    let items := reading.items ++ [value]
    (.number items.length, { reading with items := items })
  | .count => (.number reading.items.length, reading)
  | .element index =>
    match reading.items[index]? with
    | some value => (.value value, reading)
    | none => (.outOfRange reading.items.length index, reading)
  | .first => reading.move (.first reading.items.length)
  | .last => reading.move (.last reading.items.length)
  | .forward => reading.move (reading.cursor.forward reading.items.length)
  | .back => reading.move reading.cursor.back
  | .restart => reading.move (.first reading.items.length)
  | .stay => (reading.standing, reading)
  | .walk =>
    let walk := Walk.whole reading.items.length
    (.number walk.remaining, { reading with walk := walk })
  | .takeFront => reading.take reading.walk.takeFront
  | .takeBack => reading.take reading.walk.takeBack
  | .describe => (.text (described reading.items), reading)

end Reading

end Stencil
