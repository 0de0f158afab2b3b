import Mathlib.Data.Fintype.EquivFin
import Stencil.Proofs.Overriding.Unread

/-!
# Blocks that are overridden

A reference to a block whose most derived definition overrides others renders those
first. Here a rendering is taken apart at such references: what is done for the
definitions that are overridden may be exchanged, and every goal that a rendering
comes to may be watched. Which goals it comes to depends on its world, so that all
of them satisfy a condition is said by leaving open what is done where the condition
fails.
-/

namespace Stencil

/-- The handle of a template in which the body of one block is empty. -/
def Handle.emptied (name : String) (handle : Handle) : Handle :=
  { handle with
    template := { handle.template with
      blocks := handle.template.blocks.map fun block =>
        if block.1 = name then (block.1, []) else block } }

/-- The definition of a block that overrides others, with its body and the others. -/
structure Overriding where
  name : String
  definition : Handle
  body : List Stmt
  others : List Handle

/-- A way to render the definitions that are overridden. -/
abbrev Substitute := Expansion → Station → Overriding → Run String

/-- A goal that a rendering comes to: how deep further goals may lie inside of it,
whether it lies in a body that overrides others, and where it stands. -/
structure Visit where
  depth : Nat
  inside : Bool
  station : Station
  goal : Goal

namespace Overriding

variable (chosen : Station → String → Bool)

/-- The first of some definitions, if the block is chosen and there are others. -/
def first? (station : Station) (name : String) : List Handle → Option Overriding
  | definition :: next :: rest =>
    if chosen station name then
      (definition.template.block? name).map fun body => ⟨name, definition, body, next :: rest⟩
    else none
  | [_] => none
  | [] => none

/-- The definition that overrides others, if the goal is a chosen reference to such a
block. -/
def at? (station : Station) : Goal → Option Overriding
  | .reference name => first? chosen station name (station.definitions name)
  | .whole => none
  | .block _ _ => none
  | .tree _ _ => none

/-- Renders the definitions that are overridden, as usual. -/
def rendered : Substitute := fun expand station overriding =>
  Run.capture (expand station (.block overriding.name overriding.others))

/-- Renders them for their effects, and puts another text in the place of theirs. -/
def edited (edit : String → String) : Substitute := fun expand station overriding => do
  return edit (← rendered expand station overriding)

/-- Renders them with empty bodies. -/
def emptied : Substitute := fun expand station overriding =>
  rendered expand station
    { overriding with others := overriding.others.map (Handle.emptied overriding.name) }

/-- Pursues a goal. At a chosen reference to a block that is overridden, what is
overridden is rendered by the given action, and further goals of the overriding body
are expanded by a function of their own. -/
def pursue (others : Overriding → Run String) (expand inner : Expansion) (station : Station)
    (goal : Goal) : Run Unit :=
  match at? chosen station goal with
  | none => station.pursue expand goal
  | some overriding => do
    let text ← others overriding
    station.renderOver inner overriding.definition overriding.body (.rawText text)

/-- Expands goals with a substitute for the rendering of what is overridden. -/
def expandWith (substitute : Substitute) : Nat → Expansion
  | 0, _, _ => throw .exhausted
  | depth + 1, station, goal =>
    pursue chosen (substitute (expandWith substitute depth) station) (expandWith substitute depth)
      (expandWith substitute depth) station goal

/-- What is usually done at a visit. -/
def usual (visit : Visit) (expand : Bool → Expansion) : Run Unit :=
  pursue chosen (rendered (expand visit.inside) visit.station) (expand visit.inside) (expand true)
    visit.station visit.goal

/-- Expands goals by what a watch does at each visit. -/
def expandWatched (watch : Visit → (Bool → Expansion) → Run Unit) : Nat → Bool → Expansion
  | 0, _, _, _ => throw .exhausted
  | depth + 1, inside, station, goal =>
    watch ⟨depth, inside, station, goal⟩ (expandWatched watch depth)

/-- The condition holds at all visits of the expansion of a goal: it does not matter
what is done where it fails. -/
def Holds (condition : Visit → World → Prop) (limit : Nat) (station : Station) (goal : Goal)
    (world : World) : Prop :=
  ∀ watch : Visit → (Bool → Expansion) → Run Unit,
    (∀ visit expand before, condition visit before →
      watch visit expand before = usual chosen visit expand before) →
    expandWatched watch limit false station goal world = expand limit station goal world

/-- An overriding body that is visited does not read the hidden name, nor does what is
visited from there. -/
def heedless (hidden : String) (visit : Visit) : Bool :=
  (!visit.inside || Unread.avoids hidden visit.station visit.goal) &&
    (at? chosen visit.station visit.goal).all fun overriding =>
      allObey (Wording.avoiding hidden) overriding.body

/-- At the chosen references that are visited, what is overridden has the effects that
it would have with empty bodies. -/
def Idle (visit : Visit) (world : World) : Prop :=
  ∀ overriding, at? chosen visit.station visit.goal = some overriding →
    (rendered (expand visit.depth) visit.station overriding).effect world =
      (emptied (expand visit.depth) visit.station overriding).effect world

variable {chosen} in
/-- Inside of an overriding body, what is executed for a goal does not read the name. -/
theorem avoids_of_heedless {hidden : String} {visit : Visit}
    (ignores : heedless chosen hidden visit = true) (inside : visit.inside = true) :
    Unread.avoids hidden visit.station visit.goal = true := by
  have inner := (Bool.and_eq_true_iff.mp ignores).1
  simpa [inside] using inner

variable {chosen} in
/-- Nor does the overriding body at a chosen reference. -/
theorem allObey_of_heedless {hidden : String} {visit : Visit}
    (ignores : heedless chosen hidden visit = true) {overriding : Overriding}
    (found : at? chosen visit.station visit.goal = some overriding) :
    allObey (Wording.avoiding hidden) overriding.body = true := by
  have body := (Bool.and_eq_true_iff.mp ignores).2
  rw [found] at body
  exact body

/-- Taking a rendering apart at chosen references changes nothing by itself. -/
theorem pursue_rendered (expand : Expansion) (station : Station) (goal : Goal) :
    pursue chosen (rendered expand station) expand expand station goal =
      station.pursue expand goal := by
  cases goal with
  | whole => rfl
  | block name definitions => rfl
  | tree nodes body => rfl
  | reference name =>
    simp only [pursue, at?, Station.pursue]
    cases station.definitions name with
    | nil => rfl
    | cons definition others =>
      cases others with
      | nil => rfl
      | cons next rest =>
        by_cases isChosen : chosen station name = true
        · cases found : definition.template.block? name with
          | none => simp [first?, Station.renderBlock, isChosen, found]
          | some body => simp [first?, Station.renderBlock, rendered, isChosen, found]
        · simp [first?, isChosen]

section Guarded

variable {chosen} {condition : Visit → World → Prop} {reason : Halt}

/-- Other goals are pursued as usual. -/
theorem pursue_of_none {station : Station} {goal : Goal} (isOther : at? chosen station goal = none)
    (others : Overriding → Run String) (expand inner : Expansion) :
    pursue chosen others expand inner station goal = station.pursue expand goal := by
  rw [pursue, isOther]

/-- At a chosen reference to a block that is overridden, what is overridden comes first. -/
theorem pursue_of_some {station : Station} {goal : Goal} {overriding : Overriding}
    (found : at? chosen station goal = some overriding) (others : Overriding → Run String)
    (expand inner : Expansion) :
    pursue chosen others expand inner station goal = (do
      let text ← others overriding
      station.renderOver inner overriding.definition overriding.body (.rawText text)) := by
  rw [pursue, found]

open Classical in
/-- Does what a watch does at the visits where a condition holds, and breaks off elsewhere. -/
noncomputable def guarded (condition : Visit → World → Prop) (reason : Halt)
    (watch : Visit → (Bool → Expansion) → Run Unit) (visit : Visit) (expand : Bool → Expansion) :
    Run Unit := fun world =>
  if condition visit world then watch visit expand world else (.error reason, world)

/-- Expands goals as usual as long as a condition holds at all visits. -/
noncomputable abbrev expandGuarded (chosen : Station → String → Bool)
    (condition : Visit → World → Prop) (reason : Halt) : Nat → Bool → Expansion :=
  expandWatched (guarded condition reason (usual chosen))

section Abreast

variable {breaks : Halt → Prop} {watch watch' : Visit → (Bool → Expansion) → Run Unit}
  {visit : Visit} {first second : Bool → Expansion} {world other : World}

/-- Where the condition holds, the watch does what it does. -/
theorem guarded_of (holds : condition visit world) (expand : Bool → Expansion) :
    guarded condition reason watch visit expand world = watch visit expand world :=
  if_pos holds

/-- A guard does not put actions out of step, if it may break off. -/
theorem guarded_abreast {related : World → World → Prop} {outcome : Except Halt Unit × World}
    (breaking : breaks reason)
    (each : condition visit world → Run.Abreast breaks related (watch visit first world) outcome) :
    Run.Abreast breaks related (guarded condition reason watch visit first world) outcome := by
  by_cases holds : condition visit world
  · rw [guarded_of holds]
    exact each holds
  · have broken : guarded condition reason watch visit first world = (.error reason, world) :=
      if_neg holds
    exact Or.inl ⟨reason, breaking, congrArg Prod.fst broken⟩

/-- The same guard on both sides does not put them out of step. -/
theorem guarded_abreast_guarded
    (each : condition visit world →
      Run.Abreast breaks (· = ·) (watch visit first world) (watch' visit second world)) :
    Run.Abreast breaks (· = ·) (guarded condition reason watch visit first world)
      (guarded condition reason watch' visit second world) := by
  by_cases holds : condition visit world
  · rw [guarded_of holds, guarded_of holds]
    exact each holds
  · refine Or.inr ?_
    simp [guarded, holds]

end Abreast

/-- What is usual is abreast of itself if further goals are expanded in the same way. -/
theorem usual_abreast {breaks : Halt → Prop} {first second : Bool → Expansion}
    (keeps : ∀ inside station goal, (Discipline.same breaks).Keeps () (fun _ => True)
      (first inside station goal) (second inside station goal)) (visit : Visit) (world : World) :
    Run.Abreast breaks (· = ·) (usual chosen visit first world)
      (usual chosen visit second world) := by
  rw [usual, usual]
  cases found : at? chosen visit.station visit.goal with
  | none =>
    rw [pursue_of_none found, pursue_of_none found]
    have pursued := Discipline.same_pursue (keeps visit.inside) visit.station visit.goal
    exact pursued.outcomes rfl
  | some overriding =>
    rw [pursue_of_some found, pursue_of_some found]
    have parent : (Discipline.same breaks).Keeps () (fun _ => True)
        (rendered (first visit.inside) visit.station overriding)
        (rendered (second visit.inside) visit.station overriding) :=
      Discipline.same_lawful.captured fun _ _ => keeps visit.inside visit.station _
    refine Run.Lockstep.outcomes (Run.Lockstep.bind parent fun text _ => ?_) rfl
    exact Discipline.same_renderOver (keeps true) visit.station _ _ _

/-- Two watches that are abreast at every visit are abreast throughout a rendering. -/
theorem watched_keeps {breaks : Halt → Prop}
    {watch watch' : Visit → (Bool → Expansion) → Run Unit}
    (each : ∀ visit first second world,
      (∀ inside station goal, (Discipline.same breaks).Keeps () (fun _ => True)
        (first inside station goal) (second inside station goal)) →
      Run.Abreast breaks (· = ·) (watch visit first world) (watch' visit second world))
    (depth : Nat) (inside : Bool) (station : Station) (goal : Goal) :
    (Discipline.same breaks).Keeps () (fun _ => True)
      (expandWatched watch depth inside station goal)
      (expandWatched watch' depth inside station goal) := by
  induction depth generalizing inside station goal with
  | zero => exact Run.Lockstep.halt _
  | succ depth inductionHypothesis =>
    refine Run.Lockstep.of_abreast ?_
    rintro world other rfl
    exact each ⟨depth, inside, station, goal⟩ _ _ world inductionHypothesis

/-- Watching without doing anything else changes nothing. -/
theorem expandWatched_usual (chosen : Station → String → Bool) (depth : Nat) (inside : Bool) :
    expandWatched (usual chosen) depth inside = expand depth := by
  induction depth generalizing inside with
  | zero => rfl
  | succ depth inductionHypothesis =>
    funext station goal
    show usual chosen _ (expandWatched (usual chosen) depth) = station.pursue (expand depth) goal
    simp only [usual, inductionHypothesis, pursue_rendered]

/-- As long as it does not break off, a guarded rendering does what the rendering does. -/
theorem guarded_keeps_expand {breaks : Halt → Prop} (breaking : breaks reason) (depth : Nat)
    (inside : Bool) (station : Station) (goal : Goal) :
    (Discipline.same breaks).Keeps () (fun _ => True)
      (expandGuarded chosen condition reason depth inside station goal)
      (expand depth station goal) := by
  rw [← expandWatched_usual chosen depth inside]
  refine watched_keeps (fun visit first second world keeps => ?_) depth inside station goal
  exact guarded_abreast breaking fun _ => usual_abreast keeps visit _

/-- There is always another reason to halt. -/
theorem exists_reason (result : Except Halt Unit) (taken : Halt) :
    ∃ reason, reason ≠ taken ∧ result ≠ .error reason := by
  have injective : Function.Injective fun limit => Halt.fault (.ofCause (.tooDeep limit)) := by
    intro limit other same
    simpa [Fault.ofCause] using same
  have infinite : Infinite Halt := Infinite.of_injective _ injective
  cases result with
  | ok value =>
    obtain ⟨reason, apart⟩ := Infinite.exists_notMem_finset {taken}
    exact ⟨reason, by simpa using apart, by simp⟩
  | error halt =>
    obtain ⟨reason, apart⟩ := Infinite.exists_notMem_finset {taken, halt}
    simp only [Finset.mem_insert, Finset.mem_singleton, not_or] at apart
    exact ⟨reason, apart.1, fun same => apart.2 (Except.error.inj same).symm⟩

/-- Where the condition holds at all visits, a guarded rendering does not break off. -/
theorem Holds.guarded_eq {limit : Nat} {station : Station} {goal : Goal} {world : World}
    (holds : Holds chosen condition limit station goal world) (reason : Halt) :
    expandGuarded chosen condition reason limit false station goal world =
      expand limit station goal world :=
  holds (guarded condition reason (usual chosen)) fun _ expand _ here => guarded_of here expand

/-- Conditions that both hold at all visits hold together. -/
theorem Holds.and {second : Visit → World → Prop} {limit : Nat} {station : Station} {goal : Goal}
    {world : World} (holds : Holds chosen condition limit station goal world)
    (holdsToo : Holds chosen second limit station goal world) :
    Holds chosen (fun visit world => condition visit world ∧ second visit world) limit station goal
      world := by
  intro watch agrees
  -- Two guards, one inside of the other, that break off for reasons of their own.
  obtain ⟨reason, _, notReason⟩ := exists_reason (expand limit station goal world).1 .exhausted
  obtain ⟨other, different, notOther⟩ := exists_reason (expand limit station goal world).1 reason
  let twice := expandWatched (guarded condition reason (guarded second other (usual chosen)))
  have likeFirst : (Discipline.same (· = other)).Keeps () (fun _ => True)
      (twice limit false station goal)
      (expandGuarded chosen condition reason limit false station goal) := by
    refine watched_keeps (fun visit first following before keeps => ?_) limit false station goal
    exact guarded_abreast_guarded fun _ =>
      guarded_abreast rfl fun _ => usual_abreast keeps visit _
  have likeSecond : (Discipline.same (· = reason)).Keeps () (fun _ => True)
      (twice limit false station goal)
      (expandGuarded chosen second other limit false station goal) := by
    refine watched_keeps (fun visit first following before keeps => ?_) limit false station goal
    exact guarded_abreast rfl fun _ =>
      guarded_abreast_guarded fun _ => usual_abreast keeps visit _
  have likeWatched : (Discipline.same fun halt => halt = reason ∨ halt = other).Keeps ()
      (fun _ => True) (twice limit false station goal)
      (expandWatched watch limit false station goal) := by
    refine watched_keeps (fun visit first following before keeps => ?_) limit false station goal
    refine guarded_abreast (Or.inl rfl) fun here => guarded_abreast (Or.inr rfl) fun hereToo => ?_
    rw [agrees visit following before ⟨here, hereToo⟩]
    exact usual_abreast keeps visit _
  -- The reasons differ, so neither guard breaks off.
  have twiceUsual : twice limit false station goal world = expand limit station goal world := by
    rcases Discipline.same_outcome likeSecond world with ⟨_, rfl, broken⟩ | same
    · rcases Discipline.same_outcome likeFirst world with ⟨_, rfl, brokenToo⟩ | same
      · rw [broken] at brokenToo
        exact absurd (Except.error.inj brokenToo).symm different
      · rw [same, holds.guarded_eq] at broken
        exact absurd broken notReason
    · rw [same, holdsToo.guarded_eq]
  rcases Discipline.same_outcome likeWatched world with ⟨_, rfl | rfl, broken⟩ | same
  · rw [twiceUsual] at broken
    exact absurd broken notReason
  · rw [twiceUsual] at broken
    exact absurd broken notOther
  · rw [← same, twiceUsual]

/-- Does what is usual at the visits that pass a check, and breaks off elsewhere. -/
def checking (chosen : Station → String → Bool) (check : Visit → Bool) (reason : Halt)
    (visit : Visit) (expand : Bool → Expansion) : Run Unit :=
  if check visit then usual chosen visit expand else throw reason

/-- What can be checked of each visit holds at all of them if a rendering that checks it
does not break off. -/
theorem Holds.of_checking (reason : Halt) {limit : Nat} {station : Station} {goal : Goal}
    {world : World} {check : Visit → Bool}
    (sound : ∀ visit before, check visit = true → condition visit before)
    (passes : (expandWatched (checking chosen check reason) limit false station goal world).1 ≠
      .error reason) :
    Holds chosen condition limit station goal world := by
  have like : ∀ watch : Visit → (Bool → Expansion) → Run Unit,
      (∀ visit expand before, condition visit before →
        watch visit expand before = usual chosen visit expand before) →
      expandWatched (checking chosen check reason) limit false station goal world =
        expandWatched watch limit false station goal world := by
    intro watch agrees
    have keeps : (Discipline.same (· = reason)).Keeps () (fun _ => True)
        (expandWatched (checking chosen check reason) limit false station goal)
        (expandWatched watch limit false station goal) := by
      refine watched_keeps (fun visit first second before keeps => ?_) limit false station goal
      by_cases passing : check visit = true
      · rw [checking, if_pos passing, agrees visit second before (sound visit before passing)]
        exact usual_abreast keeps visit _
      · rw [checking, if_neg passing]
        exact Or.inl ⟨reason, rfl, rfl⟩
    rcases Discipline.same_outcome keeps world with ⟨_, rfl, broken⟩ | same
    · exact absurd broken passes
    · exact same
  intro watch agrees
  rw [← like watch agrees, like (usual chosen) fun _ _ _ _ => rfl, expandWatched_usual]

end Guarded

end Overriding

end Stencil
