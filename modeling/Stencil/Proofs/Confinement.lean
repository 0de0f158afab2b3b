import Stencil.Rendering

/-!
# Renderings that keep to some goals

Which templates a rendering loads, and which blocks it comes across, depends on
its world. That a rendering keeps to some goals is said by leaving it open what is
done for any other goal: if that makes no difference, no other goal was reached.
-/

namespace Stencil

/-- Expands the goals that are allowed as usual, and does something else for others. -/
def expandOnly (allowed : Station → Goal → Bool) (elsewhere : Nat → Expansion) : Nat → Expansion
  | 0, _, _ => throw .exhausted
  | depth + 1, station, goal =>
    if allowed station goal then station.pursue (expandOnly allowed elsewhere depth) goal
    else elsewhere depth station goal

/-- All goals that are reached by an action are allowed ones: it does not matter
what is done for the others. The action is given the way of expanding goals. -/
def KeepsTo {α : Type} (allowed : Station → Goal → Bool) (depth : Nat) (action : Expansion → Run α)
    (world : World) : Prop :=
  ∀ elsewhere, action (expandOnly allowed elsewhere depth) world = action (expand depth) world

/-- Where every goal is allowed, goals are expanded as usual. -/
theorem expandOnly_all (elsewhere : Nat → Expansion) (depth : Nat) :
    expandOnly (fun _ _ => true) elsewhere depth = expand depth := by
  induction depth with
  | zero => rfl
  | succ depth inductionHypothesis =>
    funext station goal
    simp only [expandOnly, expand, inductionHypothesis, if_true]

/-- Every action keeps to all goals. -/
theorem keepsTo_all {α : Type} (depth : Nat) (action : Expansion → Run α) (world : World) :
    KeepsTo (fun _ _ => true) depth action world :=
  fun elsewhere => by rw [expandOnly_all]

/-- A goal is allowed unless it is a whole template that is not accepted. -/
def wholesAre (accepted : Template → Bool) (station : Station) : Goal → Bool
  | .whole => accepted station.template
  | .reference _ => true
  | .block _ _ => true
  | .tree _ _ => true

/-- All templates that a rendering to a text comes to are accepted, those that are
loaded and the first one. -/
def Workshop.LoadsOnly (shop : Workshop) (accepted : Template → Bool) (handle : Handle) : Prop :=
  KeepsTo (wholesAre accepted) expansionLimit (fun expand => expand (.start handle) .whole)
    { shop with turns := [], sink := .buffer "" }

end Stencil
