import Mathlib
import Stencil.Proofs.Safety.Slices

/-!
# Elements and divisions

Asking a list for an element, and dividing, with the mishaps that there may be. A list is only
ever asked for the indices below its count, whether a loop goes over it, a path leads into it or
it is written; and the range loop, the filter that divides and the cycle tag divide by numbers
other than zero.
-/

namespace Stencil

section Lists

variable {α β ε : Type}

/-- The element of a list at an index, which has to be below its count. -/
def elementAt (items : List α) (index : Nat) : Except Mishap α :=
  match items[index]? with
  | some item => .ok item
  | none => .error .noElement

/-- All elements of a list, asked for one after the other. -/
def iterate (items : List α) : Except Mishap (List α) :=
  (List.range items.length).mapM (elementAt items)

/-- What goes well for each element goes well for all. -/
theorem mapM_ok {action : α → Except ε β} {result : α → β} {items : List α}
    (each : ∀ item ∈ items, action item = .ok (result item)) :
    items.mapM action = .ok (items.map result) := by
  induction items with
  | nil => rfl
  | cons item rest inductionHypothesis =>
    obtain ⟨here, later⟩ := List.forall_mem_cons.mp each
    rw [List.mapM_cons, here, inductionHypothesis later]
    rfl

/-- A list is never asked for an index at or past its count. -/
@[simp] theorem iterate_eq (items : List α) : iterate items = .ok items := by
  cases items with
  | nil => rfl
  | cons first rest =>
    have each : ∀ index ∈ List.range (first :: rest).length,
        elementAt (first :: rest) index = .ok ((first :: rest).getD index first) := by
      intro index below
      have inside := List.mem_range.mp below
      rw [elementAt, List.getElem?_eq_getElem inside, List.getD_eq_getElem _ _ inside]
    rw [iterate, mapM_ok each]
    congr 1
    apply List.ext_getElem
    · simp
    · intro index _ inside
      rw [List.getElem_map, List.getElem_range, List.getD_eq_getElem _ _ inside]

end Lists

section Values

/-- What a loop goes over, asked for one after the other. -/
def Value.elementsGuarded (value : Value) : Except Mishap (List Value) :=
  match value.datum with
  | .list _ items => iterate items
  | _ => .ok value.elements

/-- A loop never asks a list past its count. -/
@[simp] theorem Value.elementsGuarded_eq (value : Value) :
    value.elementsGuarded = .ok value.elements := by
  rw [elementsGuarded]
  split
  · rename_i items isList
    rw [iterate_eq, elements, isList]
  · rfl

/-- The element of a list, which is asked for it if it has one there; or a field. -/
def Value.elementGuarded (value : Value) (index : Nat) : Except Mishap (Option Value) :=
  match value.datum with
  | .list _ items =>
    if index < items.length then some <$> elementAt items index else .ok Option.none
  | _ => .ok (value.element? index)

/-- Looking up an index never asks a list past its count. -/
@[simp] theorem Value.elementGuarded_eq (value : Value) (index : Nat) :
    value.elementGuarded index = .ok (value.element? index) := by
  rw [elementGuarded]
  split
  · rename_i items isList
    simp only [element?, isList]
    by_cases inside : index < items.length
    · simp only [if_pos inside, elementAt, List.getElem?_eq_getElem inside]
      rfl
    · simp only [if_neg inside, List.getElem?_eq_none (Nat.le_of_not_lt inside)]
  · rfl

mutual

/-- Asks for all that is shown when a datum is written. -/
def Datum.visit : Datum → Except Mishap Unit
  | .record _ _ entries => entriesVisit entries
  | .list _ items => do
    let _ ← iterate items
    itemsVisit items
  | .none => .ok ()
  | .boolean _ => .ok ()
  | .integer _ => .ok ()
  | .text _ => .ok ()
  | .callable _ => .ok ()
termination_by structural datum => datum

/-- Asks for all that is shown when a value is written. -/
def Value.visit : Value → Except Mishap Unit
  | ⟨datum, _⟩ => datum.visit
termination_by structural value => value

/-- The same for the elements of a list. -/
def itemsVisit : List Value → Except Mishap Unit
  | [] => .ok ()
  | item :: rest => do
    item.visit
    itemsVisit rest
termination_by structural items => items

/-- The same for the entries of a record. -/
def entriesVisit : List (String × Value) → Except Mishap Unit
  | [] => .ok ()
  | (_, value) :: rest => do
    value.visit
    entriesVisit rest
termination_by structural entries => entries

end

mutual

/-- No list in a datum is asked past its count when it is written. -/
theorem Datum.visit_eq (datum : Datum) : datum.visit = .ok () := by
  cases datum with
  | record mark listed entries => exact entriesVisit_eq entries
  | list mark items =>
    rw [Datum.visit, iterate_eq]
    exact itemsVisit_eq items
  | _ => rfl
termination_by structural datum

/-- Nor in a value. -/
theorem Value.visit_eq (value : Value) : value.visit = .ok () := by
  obtain ⟨datum, raw⟩ := value
  exact Datum.visit_eq datum
termination_by structural value

/-- Nor in the elements of a list. -/
theorem itemsVisit_eq (items : List Value) : itemsVisit items = .ok () := by
  cases items with
  | nil => rfl
  | cons item rest =>
    rw [itemsVisit, Value.visit_eq item]
    exact itemsVisit_eq rest
termination_by structural items

/-- Nor in the entries of a record. -/
theorem entriesVisit_eq (entries : List (String × Value)) : entriesVisit entries = .ok () := by
  cases entries with
  | nil => rfl
  | cons entry rest =>
    obtain ⟨name, value⟩ := entry
    rw [entriesVisit, Value.visit_eq value]
    exact entriesVisit_eq rest
termination_by structural entries

end

/-- The text of a value, whose lists are asked for their elements. -/
def Value.writtenGuarded (value : Value) : Except Mishap String := do
  value.visit
  return value.written

/-- Writing a value never asks a list past its count. -/
@[simp] theorem Value.writtenGuarded_eq (value : Value) :
    value.writtenGuarded = .ok value.written := by
  rw [writtenGuarded, value.visit_eq]
  rfl

end Values

section Divisions

/-- A remainder; the divisor has to be other than zero. -/
def remainder {α : Type} [Mod α] [Zero α] [DecidableEq α] (number divisor : α) :
    Except Mishap α :=
  if divisor = 0 then .error .division else .ok (number % divisor)

/-- A quotient; the divisor has to be other than zero. -/
def quotient (number divisor : Int) : Except Mishap Int :=
  if divisor = 0 then .error .division else .ok (number / divisor)

/-- The progression from a first number that does not pass a last one. -/
def Progression.betweenDivided (first last step : Int) (down : Bool) :
    Except Mishap Progression := do
  let distance := if down then first - last else last - first
  if step ≤ 0 || distance < 0 then return ⟨first, step, down, 0⟩
  else
    return ⟨first, step, down,
      min ((← quotient distance step) + 1).toNat (Text.wordCount - 1)⟩

/-- A range never divides by zero. -/
@[simp] theorem Progression.betweenDivided_eq (first last step : Int) (down : Bool) :
    betweenDivided first last step down = .ok (between first last step down) := by
  simp only [betweenDivided, between]
  by_cases nowhere : (step ≤ 0 || (if down then first - last else last - first) < 0) = true
  · rw [if_pos nowhere, if_pos nowhere]
    rfl
  · have positive : step ≠ 0 := by
      simp only [Bool.or_eq_true, decide_eq_true_eq, not_or] at nowhere
      omega
    rw [if_neg nowhere, if_neg nowhere, quotient, if_neg positive]
    rfl

/-- The argument is a positive integer that divides the value. -/
def Filter.divisibleByDivided (value argument : Value) : Except Mishap Value :=
  match value.datum, argument.datum with
  | .integer a, .integer b =>
    if 0 < b.toInt then do return .boolean ((← remainder a.toInt b.toInt) = 0)
    else .ok (.boolean false)
  | _, _ => .ok (.boolean false)

/-- The filter divides by positive integers only. -/
theorem Filter.divisibleByDivided_eq (value argument : Value) :
    divisibleByDivided value argument = .ok (divisibleBy value argument) := by
  obtain ⟨datum, raw⟩ := value
  obtain ⟨argued, rawToo⟩ := argument
  cases datum with
  | integer a =>
    cases argued with
    | integer b =>
      simp only [divisibleByDivided, divisibleBy]
      by_cases positive : 0 < b.toInt
      · have divisor : b.toInt ≠ 0 := by omega
        simp only [positive, if_true, remainder, if_neg divisor, decide_true, Bool.true_and]
        rfl
      · simp [positive]
    | _ => rfl
  | _ => rfl

end Divisions

end Stencil
