import Stencil.Proofs.Contract
import Stencil.Proofs.Overriding.Visits
import Stencil.Rendering

/-!
# What holds throughout a rendering

Which templates a rendering comes to depends on its world. That all of them satisfy a
condition, where they are rendered as a whole, is said as for other visits: what is done
where the condition fails does not matter. A contract that is kept as long as the
condition holds is kept by such a rendering.
-/

namespace Stencil

open Overriding

/-- The condition holds wherever a rendering of a template into a sink comes to a whole
template. -/
def Workshop.Throughout (shop : Workshop) (limit : Nat) (handle : Handle) (sink : Sink)
    (condition : Station → World → Prop) : Prop :=
  Holds (fun _ _ => false) (fun visit world => visit.goal = .whole → condition visit.station world)
    limit (.start handle) .whole { shop with turns := [], sink := sink }

open Classical in
/-- Expands goals as long as a condition holds at all whole templates, and breaks off
elsewhere. -/
noncomputable def expandWhile (condition : Station → World → Prop) (reason : Halt) :
    Nat → Expansion
  | 0, _, _ => throw .exhausted
  | depth + 1, station, goal => fun world =>
    if goal = .whole → condition station world then
      station.pursue (expandWhile condition reason depth) goal world
    else (.error reason, world)

/-- No goal is taken apart where no reference is chosen. -/
theorem Overriding.at?_nowhere (station : Station) (goal : Goal) :
    at? (fun _ _ => false) station goal = none := by
  cases goal with
  | whole => rfl
  | block name definitions => rfl
  | tree nodes body => rfl
  | reference name =>
    simp only [at?]
    cases station.definitions name with
    | nil => rfl
    | cons definition others => cases others <;> rfl

/-- Expanding goals as long as a condition holds is a guarded expansion. -/
theorem expandGuarded_nowhere (condition : Station → World → Prop) (reason : Halt) (depth : Nat) :
    expandGuarded (fun _ _ => false)
      (fun visit world => visit.goal = .whole → condition visit.station world) reason depth false =
      expandWhile condition reason depth := by
  induction depth with
  | zero => rfl
  | succ depth inductionHypothesis =>
    funext station goal world
    show guarded _ reason (usual fun _ _ => false) ⟨depth, false, station, goal⟩ _ world = _
    simp only [guarded, usual, pursue_of_none (at?_nowhere station goal), inductionHypothesis,
      expandWhile]
    by_cases holds : goal = .whole → condition station world
    · rw [if_pos holds, if_pos holds]
    · rw [if_neg holds, if_neg holds]

/-- Where the condition holds throughout, the rendering is not broken off. -/
theorem Workshop.Throughout.expandWhile_eq {shop : Workshop} {limit : Nat} {handle : Handle}
    {sink : Sink} {condition : Station → World → Prop}
    (holds : shop.Throughout limit handle sink condition) (reason : Halt) :
    expandWhile condition reason limit (.start handle) .whole
      { shop with turns := [], sink := sink } = shop.renderInto limit handle sink := by
  rw [← expandGuarded_nowhere]
  exact Holds.guarded_eq holds reason

/-- What is always the case holds throughout. -/
theorem Workshop.Throughout.of_always {shop : Workshop} {limit : Nat} {handle : Handle}
    {sink : Sink} {condition : Station → World → Prop}
    (always : ∀ station world, condition station world) :
    shop.Throughout limit handle sink condition := by
  intro watch agrees
  have usually : watch = usual fun _ _ => false := by
    funext visit expand before
    exact agrees visit expand before fun _ => always _ _
  rw [usually, expandWatched_usual]

/-- A weaker condition holds, too. -/
theorem Workshop.Throughout.weaken {shop : Workshop} {limit : Nat} {handle : Handle}
    {sink : Sink} {strict condition : Station → World → Prop}
    (holds : shop.Throughout limit handle sink strict)
    (weaker : ∀ station world, strict station world → condition station world) :
    shop.Throughout limit handle sink condition :=
  fun watch agrees => holds watch fun visit expand before here =>
    agrees visit expand before fun isWhole => weaker _ _ (here isWhole)

/-- What can be checked of each station holds throughout a rendering that checks it and
does not break off. -/
theorem Workshop.Throughout.of_checking {shop : Workshop} {limit : Nat} {handle : Handle}
    {sink : Sink} {condition : Station → World → Prop} (check : Station → Bool) (reason : Halt)
    (sound : ∀ station world, check station = true → condition station world)
    (passes : (expandWatched (checking (fun _ _ => false)
        (fun visit => match visit.goal with
          | .whole => check visit.station
          | _ => true) reason) limit false (.start handle) .whole
        { shop with turns := [], sink := sink }).1 ≠ .error reason) :
    shop.Throughout limit handle sink condition := by
  refine Holds.of_checking reason ?_ passes
  intro visit world passing isWhole
  rw [isWhole] at passing
  exact sound visit.station world passing

/-- A contract is kept where a condition holds if it is kept by what is done there. -/
theorem Contract.Upholds.while {Circumstance : Type} {contract : Contract Circumstance}
    {circumstance : Circumstance} {condition : Station → World → Prop} {reason : Halt}
    {depth : Nat} {station : Station} {goal : Goal} (tolerated : contract.tolerates reason)
    (pursued : ∀ world, contract.upheld circumstance world →
      (goal = .whole → condition station world) →
      contract.Upholds circumstance (fun _ => True)
        (station.pursue (expandWhile condition reason depth) goal)) :
    contract.Upholds circumstance (fun _ => True)
      (expandWhile condition reason (depth + 1) station goal) := by
  intro world upheld
  by_cases holds : goal = .whole → condition station world
  · simp only [expandWhile, if_pos holds]
    exact pursued world upheld holds world upheld
  · simp only [expandWhile, if_neg holds]
    exact ⟨upheld, tolerated⟩

end Stencil
