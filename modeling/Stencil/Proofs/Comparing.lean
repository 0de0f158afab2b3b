import Mathlib
import Stencil.Rendering.Evaluation

/-!
# Comparisons agree

Whether two values are the same and what their order is are two separate questions. Values of
one kind are the same by what they hold, and other values by their texts; integers have the
order of their sizes, and other values that of their texts. The answers agree, except for two
records and for two lists: these are the same by their marks, and their texts may be equal
although the marks are not. Nothing is not the same as anything and has no place in the order.
-/

namespace Stencil

namespace Value

/-- Two records, or two lists. -/
def alikeByMark (left right : Value) : Bool :=
  match left.datum, right.datum with
  | .record .., .record .. => true
  | .list .., .list .. => true
  | _, _ => false

/-- The mark of a record or a list. -/
def mark? (value : Value) : Option Nat :=
  match value.datum with
  | .record mark .. | .list mark _ => some mark
  | _ => Option.none

/-- Two values are the same in either order. -/
theorem same_comm (left right : Value) : left.same right = right.same left := by
  obtain ⟨left, _⟩ := left
  obtain ⟨right, _⟩ := right
  cases left <;> cases right <;> simp [same, eq_comm]

/-- Only nothing has no place in the order. -/
theorem order?_eq_none_iff {left right : Value} :
    left.order? right = Option.none ↔ left.isNone = true ∨ right.isNone = true := by
  obtain ⟨left, _⟩ := left
  obtain ⟨right, _⟩ := right
  cases left <;> cases right <;> simp [order?, isNone]

/-- Seen from the other value the order is the opposite one. -/
theorem order?_swap (left right : Value) :
    right.order? left = (left.order? right).map Ordering.swap := by
  have texts : ∀ first second : String, (compare first second).swap = compare second first :=
    fun _ _ => Std.OrientedOrd.eq_swap.symm
  have sizes : ∀ first second : Int, (compare first second).swap = compare second first :=
    fun _ _ => Std.OrientedOrd.eq_swap.symm
  obtain ⟨left, _⟩ := left
  obtain ⟨right, _⟩ := right
  cases left <;> cases right <;> simp [order?, texts, sizes]

/-- The texts of the truth values are different. -/
theorem written_boolean_inj {first second : Bool} {raw other : Bool} :
    (Value.mk (.boolean first) raw).written = (Value.mk (.boolean second) other).written ↔
      first = second := by
  cases first <;> cases second <;> simp [Value.written, Datum.written]

/-- Values are the same just if neither comes before the other, unless they are two records or
two lists. -/
theorem same_eq_order {left right : Value} (apart : left.alikeByMark right = false) :
    left.same right = decide (left.order? right = some .eq) := by
  obtain ⟨leftDatum, leftRaw⟩ := left
  obtain ⟨rightDatum, rightRaw⟩ := right
  cases leftDatum <;> cases rightDatum <;>
    simp_all [same, order?, alikeByMark, Int64.toInt_inj, written_boolean_inj]

end Value

namespace Relation

variable {left right : Value}

/-- In its order a value stands to another in one of three relations. -/
theorem existsUnique_holds (present : left.isNone = false) (presentToo : right.isNone = false)
    (apart : left.alikeByMark right = false) :
    ∃! relation, relation ∈ [less, equal, greater] ∧ holds relation left right = true := by
  have agrees := Value.same_eq_order apart
  cases order : left.order? right with
  | none =>
    have isNone := Value.order?_eq_none_iff.mp order
    simp [present, presentToo] at isNone
  | some place =>
    cases place with
    | lt => exact ⟨less, by simp [holds, order], by simp [holds, order, agrees]⟩
    | eq => exact ⟨equal, by simp [holds, order, agrees], by simp [holds, order, agrees]⟩
    | gt => exact ⟨greater, by simp [holds, order], by simp [holds, order, agrees]⟩

/-- Two records and two lists are the same by their marks, and have the order of their texts. -/
theorem holds_of_alikeByMark (alike : left.alikeByMark right = true) :
    equal.holds left right = decide (left.mark? = right.mark?) ∧
      ∀ relation, relation ≠ equal → relation ≠ unequal →
        holds relation left right = holds relation (.text left.written) (.text right.written) := by
  have byText : left.order? right =
      Value.order? (.text left.written) (.text right.written) := by
    obtain ⟨left, _⟩ := left
    obtain ⟨right, _⟩ := right
    cases left with
    | record =>
      cases right with
      | record => rfl
      | _ => cases alike
    | list =>
      cases right with
      | list => rfl
      | _ => cases alike
    | _ => cases right <;> cases alike
  refine ⟨?_, fun relation notEqual notUnequal => ?_⟩
  · obtain ⟨left, _⟩ := left
    obtain ⟨right, _⟩ := right
    cases left <;> cases right <;> simp_all [holds, Value.same, Value.alikeByMark, Value.mark?]
  · cases relation <;> simp_all [holds]

/-- Nothing stands in no relation but that of being different. -/
theorem holds_of_isNone (isNone : left.isNone = true ∨ right.isNone = true) {relation : Relation}
    (notUnequal : relation ≠ unequal) : holds relation left right = false := by
  have order := Value.order?_eq_none_iff.mpr isNone
  have different : left.same right = false := by
    obtain ⟨left, _⟩ := left
    obtain ⟨right, _⟩ := right
    cases left <;> cases right <;> simp_all [Value.same, Value.isNone]
  cases relation <;> simp_all [holds]

/-- What is less than another is what the other is greater than. -/
theorem less_eq_greater (left right : Value) :
    less.holds left right = greater.holds right left := by
  simp only [holds, left.order?_swap right]
  cases left.order? right with
  | none => rfl
  | some place => cases place <;> rfl

/-- An expression that compares two values tells whether they stand in its relation. -/
theorem evaluate_compared {filters : Named Filter} {context : Context} {first second : Expr}
    {before between after : Host}
    (isFirst : first.evaluate filters context before = (left, between))
    (isSecond : second.evaluate filters context between = (right, after)) (relation : Relation) :
    (Expr.compared relation first second).evaluate filters context before =
      (.boolean (holds relation left right), after) := by
  show (do
    let left ← first.evaluate filters context
    let right ← second.evaluate filters context
    return Value.boolean (holds relation left right)) before = _
  simp only [bind, StateT.bind, isFirst, isSecond]
  rfl

/-- The comparisons of values agree with each other. Being the same is symmetric, and being
different is its opposite. Of nothing no other relation holds. Of two other values, unless they
are two records or two lists, one comes before the other or they are the same, and just one of
this is true; at most and at least are made of these. What is less than another is what the other
is greater than. Two records and two lists are the same by their marks and have the order of
their texts. An expression that compares two values tells what holds of them. -/
theorem comparisons_agree (left right : Value) :
    (equal.holds left right = equal.holds right left ∧
      unequal.holds left right = !equal.holds left right) ∧
    (left.isNone = true ∨ right.isNone = true →
      ∀ relation, relation ≠ unequal → holds relation left right = false) ∧
    (left.isNone = false → right.isNone = false → left.alikeByMark right = false →
      (∃! relation, relation ∈ [less, equal, greater] ∧ holds relation left right = true) ∧
      lessOrEqual.holds left right = (less.holds left right || equal.holds left right) ∧
      greaterOrEqual.holds left right = (greater.holds left right || equal.holds left right)) ∧
    less.holds left right = greater.holds right left ∧
    (left.alikeByMark right = true →
      equal.holds left right = decide (left.mark? = right.mark?) ∧
      ∀ relation, relation ≠ equal → relation ≠ unequal →
        holds relation left right = holds relation (.text left.written) (.text right.written)) ∧
    ∀ (filters : Named Filter) (context : Context) (first second : Expr)
      (before between after : Host),
      first.evaluate filters context before = (left, between) →
      second.evaluate filters context between = (right, after) →
        ∀ relation, (Expr.compared relation first second).evaluate filters context before =
          (.boolean (holds relation left right), after) := by
  refine ⟨⟨left.same_comm right, rfl⟩, fun isNone relation notUnequal =>
    holds_of_isNone isNone notUnequal, fun present presentToo apart => ⟨?_, ?_, ?_⟩,
    less_eq_greater left right, holds_of_alikeByMark, ?_⟩
  · exact existsUnique_holds present presentToo apart
  · simp only [holds, Value.same_eq_order apart]
  · simp only [holds, Value.same_eq_order apart]
  · intro filters context first second before between after isFirst isSecond
    exact evaluate_compared isFirst isSecond

/-- The integer ten is less than the raw text of nine, since they have the order of their texts.
Two lists with equal texts and different marks are not the same, and neither comes before the
other. -/
theorem comparisons_agree_ten :
    let ten := Value.integer 10
    let nine := Value.rawText "9"
    let list := fun mark : Nat => Value.plain (.list mark [ten])
    (∃! relation, relation ∈ [less, equal, greater] ∧ holds relation ten nine = true) ∧
      less.holds ten nine = true ∧ lessOrEqual.holds ten nine = true ∧
      (∀ relation, relation ≠ unequal → holds relation .none ten = false) ∧
      (equal.holds (list 0) (list 1) = false ∧ lessOrEqual.holds (list 0) (list 1) = true) ∧
      (Expr.compared greater (.path ⟨"nine", [], "nine"⟩) (.literal (.integer 10))).evaluate []
        (.ofEntries [("nine", nine)]) .empty = (.boolean true, .empty) := by
  intro ten nine list
  have isLess : less.holds ten nine = true := by decide
  obtain ⟨-, -, apart, opposite, -, -⟩ := comparisons_agree ten nine
  obtain ⟨one, atMost, -⟩ := apart rfl rfl rfl
  obtain ⟨-, nothing, -⟩ := comparisons_agree .none ten
  obtain ⟨-, -, -, -, alike, -⟩ := comparisons_agree (list 0) (list 1)
  obtain ⟨byMark, byText⟩ := alike rfl
  obtain ⟨-, -, -, -, -, told⟩ := comparisons_agree nine ten
  refine ⟨one, isLess, by rw [atMost, isLess]; rfl, nothing (.inl rfl), ⟨byMark, ?_⟩, ?_⟩
  · rw [byText lessOrEqual (by decide) (by decide)]
    decide
  · rw [told [] _ _ _ _ .empty .empty rfl rfl, ← opposite, isLess]

end Relation

end Stencil
