import Mathlib
import Stencil.Value.Reading

/-!
# Reading a list while it grows

Steps only add to a list, at its end. So an index of an element stays one, and a cursor that
stands on an element stands on it until it is moved. What a walk has still to take is a run of
indexes that was fixed when it was opened; each taking shortens the run by its first or its
last one. The main statement is about every order in which such steps can follow one another.
-/

namespace Stencil

namespace ReadingStep

/-- The step may change where the cursor stands. -/
def moves : ReadingStep → Bool
  | first | last | forward | back | restart => true
  | _ => false

/-- The step puts the cursor on the list, wherever it was before. -/
def returns : ReadingStep → Bool
  | first | last | restart => true
  | _ => false

end ReadingStep

namespace Cursor

/-- On the first element of a list there is one. -/
theorem lt_of_first {length index : Nat} (stands : (first length).index = some index) :
    index < length := by
  grind [first]

/-- So there is on the last. -/
theorem lt_of_last {length index : Nat} (stands : (last length).index = some index) :
    index < length := by
  grind [last]

/-- One element on there is one, or the cursor stands beyond the end. -/
theorem forward_eq_some_iff {cursor : Cursor} {length index : Nat} :
    (cursor.forward length).index = some index ↔
      ∃ before, cursor.index = some before ∧ before + 1 = index ∧ index < length := by
  cases stands : cursor.index with
  | none => simp [forward, stands]
  | some before =>
    simp only [forward, stands, Option.map_some, Option.filter_some, decide_eq_true_eq]
    grind

/-- One element back there is one, or the cursor stood on the first. -/
theorem back_eq_some_iff {cursor : Cursor} {index : Nat} :
    cursor.back.index = some index ↔ cursor.index = some (index + 1) := by
  cases stands : cursor.index with
  | none => simp [back, stands]
  | some before =>
    simp only [back, stands, Option.bind_some]
    grind

end Cursor

namespace Walk

/-- The indexes of the elements still to be taken, from the front to the back. -/
def ahead (walk : Walk) : List Nat := List.range' walk.front walk.remaining

/-- A walk over a whole list has all its indexes ahead. -/
theorem ahead_whole (length : Nat) : (whole length).ahead = List.range length := by
  simp [ahead, whole, remaining, List.range_eq_range']

/-- As many elements as there are ahead are still to be taken. -/
theorem length_ahead (walk : Walk) : walk.ahead.length = walk.remaining :=
  List.length_range'

/-- Taking from the front takes the first of those ahead. -/
theorem takeFront_eq (walk : Walk) :
    walk.takeFront.1 = walk.ahead.head? ∧ walk.takeFront.2.ahead = walk.ahead.tail := by
  unfold takeFront ahead remaining
  split
  · rename_i some
    obtain ⟨rest, isNext⟩ : ∃ rest, walk.stop - walk.front = rest + 1 :=
      ⟨walk.stop - walk.front - 1, by omega⟩
    have fewer : walk.stop - (walk.front + 1) = rest := by omega
    simp [isNext, fewer, List.range'_succ]
  · rename_i none
    have isEmpty : walk.stop - walk.front = 0 := by omega
    simp [isEmpty]

/-- Taking from the back takes the last of those ahead. -/
theorem takeBack_eq (walk : Walk) :
    walk.takeBack.1 = walk.ahead.getLast? ∧ walk.takeBack.2.ahead = walk.ahead.dropLast := by
  unfold takeBack ahead remaining
  split
  · rename_i some
    obtain ⟨rest, isNext⟩ : ∃ rest, walk.stop - walk.front = rest + 1 :=
      ⟨walk.stop - walk.front - 1, by omega⟩
    have fewer : walk.stop - 1 - walk.front = rest := by omega
    have isLast : walk.front + rest = walk.stop - 1 := by omega
    simp [isNext, fewer, List.range'_concat, isLast]
  · rename_i none
    have isEmpty : walk.stop - walk.front = 0 := by omega
    simp [isEmpty]

/-- Taking an element brings the ends no further than to each other. -/
theorem bounds_take {walk : Walk} (upright : walk.front ≤ walk.stop) :
    (walk.takeFront.2.front ≤ walk.takeFront.2.stop ∧ walk.takeFront.2.stop ≤ walk.stop) ∧
      walk.takeBack.2.front ≤ walk.takeBack.2.stop ∧ walk.takeBack.2.stop ≤ walk.stop := by
  grind [takeFront, takeBack]

end Walk

namespace Reading

/-- A reading after some steps, the first of them first. -/
def after (reading : Reading) (steps : List ReadingStep) : Reading :=
  steps.foldl (fun reading step => (reading.step step).2) reading

/-- The indexes that steps take off the walk from the front, and those that they take from the
back, each in the order in which they are taken. -/
def taken (reading : Reading) : List ReadingStep → List Nat × List Nat
  | [] => ([], [])
  | step :: rest =>
    let later := (reading.step step).2.taken rest
    match step with
    | .takeFront => (reading.walk.takeFront.1.toList ++ later.1, later.2)
    | .takeBack => (later.1, reading.walk.takeBack.1.toList ++ later.2)
    | _ => later

/-- The cursor stands on no index or on that of an element, and what the walk has still to take
are elements. -/
structure Valid (reading : Reading) : Prop where
  standing : ∀ index, reading.cursor.index = some index → index < reading.items.length
  upright : reading.walk.front ≤ reading.walk.stop
  within : reading.walk.stop ≤ reading.items.length

variable {reading : Reading}

/-- A reading that starts is valid. -/
theorem valid_start (items : List Value) : (start items).Valid :=
  ⟨fun _ => Cursor.lt_of_first, Nat.zero_le _, Nat.le_refl _⟩

/-- Whatever step is performed, a reading stays valid. -/
theorem Valid.step (valid : reading.Valid) (step : ReadingStep) : (reading.step step).2.Valid := by
  obtain ⟨standing, upright, within⟩ := valid
  cases step with
  | append value =>
    refine ⟨fun index stands => ?_, upright, ?_⟩
    · have inside := standing index stands
      simp only [Reading.step, List.length_append]
      omega
    · simp only [Reading.step, List.length_append]
      omega
  | element index =>
    simp only [Reading.step]
    split <;> exact ⟨standing, upright, within⟩
  | first => exact ⟨fun _ => Cursor.lt_of_first, upright, within⟩
  | last => exact ⟨fun _ => Cursor.lt_of_last, upright, within⟩
  | restart => exact ⟨fun _ => Cursor.lt_of_first, upright, within⟩
  | forward =>
    refine ⟨fun index stands => ?_, upright, within⟩
    obtain ⟨-, -, -, inside⟩ := Cursor.forward_eq_some_iff.mp stands
    exact inside
  | back =>
    refine ⟨fun index stands => ?_, upright, within⟩
    exact Nat.lt_of_succ_lt (standing (index + 1) (Cursor.back_eq_some_iff.mp stands))
  | walk => exact ⟨standing, Nat.zero_le _, Nat.le_refl _⟩
  | takeFront =>
    obtain ⟨⟨ordered, less⟩, -⟩ := Walk.bounds_take upright
    exact ⟨standing, ordered, less.trans within⟩
  | takeBack =>
    obtain ⟨-, ordered, less⟩ := Walk.bounds_take upright
    exact ⟨standing, ordered, less.trans within⟩
  | count | stay | describe => exact ⟨standing, upright, within⟩

/-- So it is after any steps. -/
theorem Valid.after (valid : reading.Valid) (steps : List ReadingStep) :
    (reading.after steps).Valid := by
  induction steps generalizing reading with
  | nil => exact valid
  | cons step rest inductionHypothesis => exact inductionHypothesis (valid.step step)

/-- A step adds elements at the end of the list, if it adds any. -/
theorem items_step (reading : Reading) (step : ReadingStep) :
    reading.items <+: (reading.step step).2.items := by
  cases step with
  | append value => exact List.prefix_append _ _
  | element index =>
    simp only [Reading.step]
    split <;> exact List.prefix_refl _
  | _ => exact List.prefix_refl _

/-- So do any steps. -/
theorem items_after (reading : Reading) (steps : List ReadingStep) :
    reading.items <+: (reading.after steps).items := by
  induction steps generalizing reading with
  | nil => exact List.prefix_refl _
  | cons step rest inductionHypothesis =>
    exact (reading.items_step step).trans (inductionHypothesis _)

/-- Only a step that moves the cursor changes where it stands. -/
theorem cursor_step {step : ReadingStep} (rests : step.moves = false) :
    (reading.step step).2.cursor = reading.cursor := by
  cases step with
  | element index =>
    simp only [Reading.step]
    split <;> rfl
  | first | last | forward | back | restart => cases rests
  | _ => rfl

/-- Without such steps it stays where it is. -/
theorem cursor_after {steps : List ReadingStep} (rest : ∀ step ∈ steps, step.moves = false) :
    (reading.after steps).cursor = reading.cursor := by
  induction steps generalizing reading with
  | nil => rfl
  | cons step others inductionHypothesis =>
    obtain ⟨rests, later⟩ := List.forall_mem_cons.mp rest
    exact (inductionHypothesis later).trans (cursor_step rests)

/-- A cursor beyond an end stays there, unless a step puts it on the list. -/
theorem lost_step {step : ReadingStep} (lost : reading.cursor.index = none)
    (apart : step.returns = false) : (reading.step step).2.cursor.index = none := by
  cases step with
  | forward => simp [Reading.step, move, Cursor.forward, lost]
  | back => simp [Reading.step, move, Cursor.back, lost]
  | first | last | restart => cases apart
  | _ => exact (congrArg Cursor.index (cursor_step rfl)).trans lost

/-- So it does after any steps that put it nowhere. -/
theorem lost_after {steps : List ReadingStep} (lost : reading.cursor.index = none)
    (apart : ∀ step ∈ steps, step.returns = false) :
    (reading.after steps).cursor.index = none := by
  induction steps generalizing reading with
  | nil => exact lost
  | cons step others inductionHypothesis =>
    obtain ⟨isApart, later⟩ := List.forall_mem_cons.mp apart
    exact inductionHypothesis (lost_step lost isApart) later

/-- What a step that opens no walk takes off the walk, and what it leaves. -/
theorem taken_cons (reading : Reading) {step : ReadingStep} (same : step ≠ .walk)
    (rest : List ReadingStep) :
    let later := (reading.step step).2.taken rest
    ∃ front back, reading.taken (step :: rest) = (front ++ later.1, back ++ later.2) ∧
      front ++ (reading.step step).2.walk.ahead ++ back.reverse = reading.walk.ahead := by
  intro later
  cases step with
  | takeFront =>
    obtain ⟨head, tail⟩ := reading.walk.takeFront_eq
    refine ⟨reading.walk.takeFront.1.toList, [], rfl, ?_⟩
    show _ ++ reading.walk.takeFront.2.ahead ++ _ = _
    rw [head, tail]
    cases reading.walk.ahead <;> simp
  | takeBack =>
    obtain ⟨last, others⟩ := reading.walk.takeBack_eq
    refine ⟨[], reading.walk.takeBack.1.toList, rfl, ?_⟩
    show _ ++ reading.walk.takeBack.2.ahead ++ _ = _
    rw [last, others]
    cases List.eq_nil_or_concat reading.walk.ahead with
    | inl isEmpty => simp [isEmpty]
    | inr ends =>
      obtain ⟨before, index, isConcat⟩ := ends
      simp [isConcat]
  | element index =>
    refine ⟨[], [], rfl, ?_⟩
    simp only [Reading.step]
    split <;> simp
  | walk => exact absurd rfl same
  | _ => exact ⟨[], [], rfl, by simp [Reading.step, move]⟩

/-- The indexes that were taken from the front, those ahead, and those that were taken from the
back, last first, are those that were ahead before. -/
theorem taken_append_ahead {steps : List ReadingStep} (same : .walk ∉ steps) :
    (reading.taken steps).1 ++ (reading.after steps).walk.ahead ++
      (reading.taken steps).2.reverse = reading.walk.ahead := by
  induction steps generalizing reading with
  | nil => simp [taken, after]
  | cons step rest inductionHypothesis =>
    obtain ⟨isOther, others⟩ := not_or.mp (mt List.mem_cons.mpr same)
    obtain ⟨front, back, isTaken, parts⟩ := reading.taken_cons (Ne.symm isOther) rest
    have later : _ = (reading.step step).2.walk.ahead := inductionHypothesis others
    show _ ++ ((reading.step step).2.after rest).walk.ahead ++ _ = _
    rw [isTaken, ← parts, ← later]
    simp

/-- A step that takes from the front is answered by the element at the first index ahead. -/
theorem step_takeFront (reading : Reading) :
    (reading.step .takeFront).1 = .taken
      (reading.walk.ahead.head?.bind (reading.items[·]?)) (reading.walk.ahead.length - 1) := by
  obtain ⟨head, tail⟩ := reading.walk.takeFront_eq
  have fewer : reading.walk.takeFront.2.remaining = reading.walk.ahead.length - 1 := by
    rw [← Walk.length_ahead, tail, List.length_tail]
  simp only [Reading.step, take, head, fewer]

/-- A step that takes from the back is answered by the element at the last one. -/
theorem step_takeBack (reading : Reading) :
    (reading.step .takeBack).1 = .taken
      (reading.walk.ahead.getLast?.bind (reading.items[·]?)) (reading.walk.ahead.length - 1) := by
  obtain ⟨last, others⟩ := reading.walk.takeBack_eq
  have fewer : reading.walk.takeBack.2.remaining = reading.walk.ahead.length - 1 := by
    rw [← Walk.length_ahead, others, List.length_dropLast]
  simp only [Reading.step, take, last, fewer]

/-- Nothing is told of a cursor beyond an end. An index of the cursor is less than the count, and
the element at the index is what is told. -/
def Tells (reading : Reading) : Prop :=
  reading.cursor.index = none ∧ (reading.step .stay).1 = .standing none none ∨
    ∃ index, ∃ inside : index < reading.items.length, reading.cursor.index = some index ∧
      (reading.step .stay).1 = .standing (some index) (some reading.items[index])

/-- So it is as long as the reading is valid. -/
theorem Valid.tells (valid : reading.Valid) : reading.Tells := by
  have asked : (reading.step .stay).1 = .standing reading.cursor.index
    (reading.cursor.index.bind (reading.items[·]?)) := rfl
  cases stands : reading.cursor.index with
  | none => exact .inl ⟨stands, by rw [asked, stands]; rfl⟩
  | some index =>
    have inside := valid.standing index stands
    exact .inr ⟨index, inside, stands, by simp [asked, stands, List.getElem?_eq_getElem inside]⟩

/-- One back undoes one forward, if there was an element one on; and steps that leave the cursor
may come between. -/
theorem back_of_forward {steps : List ReadingStep} (rest : ∀ step ∈ steps, step.moves = false)
    (inside : (reading.step .forward).2.cursor.index ≠ none) :
    (((reading.step .forward).2.after steps).step .back).2.cursor = reading.cursor := by
  obtain ⟨index, stands⟩ := Option.ne_none_iff_exists'.mp inside
  obtain ⟨before, stood, rfl, -⟩ := Cursor.forward_eq_some_iff.mp stands
  have stays : _ = (reading.step .forward).2.cursor := cursor_after rest
  show Cursor.back _ = _
  rw [stays]
  exact congrArg Cursor.mk ((Cursor.back_eq_some_iff.mpr stands).trans stood.symm)

/-- And the reverse, for the list may grow in between but does not shrink. -/
theorem Valid.forward_of_back (valid : reading.Valid) {steps : List ReadingStep}
    (rest : ∀ step ∈ steps, step.moves = false)
    (inside : (reading.step .back).2.cursor.index ≠ none) :
    (((reading.step .back).2.after steps).step .forward).2.cursor = reading.cursor := by
  obtain ⟨index, stands⟩ := Option.ne_none_iff_exists'.mp inside
  have stood := Cursor.back_eq_some_iff.mp stands
  have stays : _ = (reading.step .back).2.cursor := cursor_after rest
  have grown := ((reading.step .back).2.items_after steps).length_le
  have below : index + 1 < ((reading.step .back).2.after steps).items.length :=
    (valid.standing _ stood).trans_le grown
  show Cursor.forward _ _ = _
  rw [stays]
  have back : Cursor.index _ = some (index + 1) :=
    Cursor.forward_eq_some_iff.mpr ⟨index, stands, rfl, below⟩
  exact congrArg Cursor.mk (back.trans stood.symm)

/-- What is ahead of a walk that was opened on the list are elements that were there then, and
they are the same. -/
theorem element_of_ahead {steps : List ReadingStep} (same : .walk ∉ steps) {index : Nat}
    (isAhead : index ∈ ((reading.step .walk).2.after steps).walk.ahead) :
    ∃ inside : index < reading.items.length,
      ((reading.step .walk).2.after steps).items[index]? = some reading.items[index] := by
  have whole : _ = (reading.step .walk).2.walk.ahead := taken_append_ahead same
  have inside : index < reading.items.length := by
    have isIndex : index ∈ (reading.step .walk).2.walk.ahead := by
      rw [← whole]
      exact List.mem_append_left _ (List.mem_append_right _ isAhead)
    simpa [Reading.step, Walk.ahead_whole] using isIndex
  obtain ⟨more, grown⟩ : reading.items <+: ((reading.step .walk).2.after steps).items :=
    (reading.step .walk).2.items_after steps
  refine ⟨inside, ?_⟩
  rw [← grown, List.getElem?_append_left inside]
  exact List.getElem?_eq_getElem inside

/-- A list that grows is read safely, in whatever order its cursor is moved, elements are added
and elements are taken off a walk. What is told of the cursor is nothing or the element at its
index, which is one of the list. A cursor beyond an end stays there until it is put on the first
or the last element; one back undoes one forward inside of the list, and the reverse. The indexes
that are taken off a walk from the front, those still ahead, and those that are taken from the
back are together those that the list had when the walk was opened, each of them once and in
order; the walk counts how many are ahead, and is answered by the elements there. -/
theorem readings_survive_growth (items : List Value) (before : List ReadingStep) :
    let reading := (start items).after before
    reading.Tells ∧
    (∀ steps, (∀ step ∈ steps, step.returns = false) → reading.cursor.index = none →
      (reading.after steps).cursor.index = none) ∧
    (∀ steps, (∀ step ∈ steps, step.moves = false) →
      let forward := (reading.step .forward).2
      let back := (reading.step .back).2
      (forward.cursor.index ≠ none →
        ((forward.after steps).step .back).2.cursor = reading.cursor) ∧
      (back.cursor.index ≠ none →
        ((back.after steps).step .forward).2.cursor = reading.cursor)) ∧
    (reading.step .walk).1 = .number reading.items.length ∧
    ∀ steps, .walk ∉ steps →
      let opened := (reading.step .walk).2
      let now := opened.after steps
      let ahead := now.walk.ahead
      (opened.taken steps).1 ++ ahead ++ (opened.taken steps).2.reverse =
        List.range reading.items.length ∧
      now.walk.front ≤ now.walk.stop ∧ now.walk.remaining = ahead.length ∧
      (∀ index ∈ ahead, ∃ inside : index < reading.items.length,
        now.items[index]? = some reading.items[index]) ∧
      (now.step .takeFront).1 =
        .taken (ahead.head?.bind (now.items[·]?)) (ahead.length - 1) ∧
      (now.step .takeBack).1 =
        .taken (ahead.getLast?.bind (now.items[·]?)) (ahead.length - 1) := by
  intro reading
  have valid : reading.Valid := (valid_start items).after before
  refine ⟨valid.tells, fun steps apart lost => lost_after lost apart, fun steps rest =>
    ⟨back_of_forward rest, valid.forward_of_back rest⟩, rfl, fun steps same => ?_⟩
  intro opened now ahead
  have whole : _ = opened.walk.ahead := taken_append_ahead same
  refine ⟨whole.trans (Walk.ahead_whole _), ?_, (Walk.length_ahead _).symm,
    fun index isAhead => element_of_ahead same isAhead, step_takeFront now, step_takeBack now⟩
  exact ((valid.step .walk).after steps).upright

/-- A walk over three elements that were added to an empty list. One more is added after the last
of the three was taken, and is not taken. -/
theorem readings_survive_start :
    let added := fun number : Int64 => ReadingStep.append (.integer number)
    let before := [.first, added 1, added 2, added 3]
    let steps := [.takeBack, added 4, .takeFront]
    let lost := (start []).after before
    let found := (start []).after (before ++ [.last])
    let opened := (found.step .walk).2
    (lost.cursor.index = none ∧ (∀ step ∈ steps, step.returns = false) ∧
      (lost.after steps).cursor.index = none) ∧
    ((∀ step ∈ steps, step.moves = false) ∧ (found.step .back).2.cursor.index ≠ none ∧
      (((found.step .back).2.after steps).step .forward).2.cursor.index = some 2) ∧
    .walk ∉ steps ∧ opened.taken steps = ([0], [2]) ∧
      [0] ++ (opened.after steps).walk.ahead ++ [2].reverse = List.range 3 ∧
      ((opened.after steps).step .takeFront).1 = .taken (some (.integer 2)) 0 := by
  intro added before steps lost found opened
  have apart : ∀ step ∈ steps, step.returns = false := by simp [steps, added, ReadingStep.returns]
  have rest : ∀ step ∈ steps, step.moves = false := by simp [steps, added, ReadingStep.moves]
  have same : .walk ∉ steps := by simp [steps, added]
  obtain ⟨-, stays, -⟩ := readings_survive_growth [] before
  obtain ⟨-, -, undoes, -, walks⟩ := readings_survive_growth [] (before ++ [.last])
  have inside : (found.step .back).2.cursor.index ≠ none := by decide
  obtain ⟨whole, -, -, -, answered, -⟩ := walks steps same
  refine ⟨⟨rfl, apart, stays steps apart rfl⟩, ⟨rest, inside, ?_⟩, same, rfl, whole, answered⟩
  exact congrArg Cursor.index ((undoes steps rest).2 inside)

end Reading

end Stencil
