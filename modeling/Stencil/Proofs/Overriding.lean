import Stencil.Proofs.Overriding.Idle

/-!
# Overridden definitions that are not read

The definitions that are overridden at a reference are rendered before the body that
overrides them, whether it reads their text or not. If it does not, the worlds with
their text and with another one are near each other while the body is executed, and
the same once it is over. So what is overridden matters for its effects only: its text
may be exchanged for another one, and where it has no more effects than empty bodies
have, its bodies may be emptied.
-/

namespace Stencil

namespace Overriding

variable {chosen : Station → String → Bool} {condition : Visit → World → Prop}
  {substitute : Substitute} {reason : Halt}

/-- A substitute stands for the rendering of what is overridden where a condition holds:
as far as effects go it respects every discipline that this rendering respects. -/
def Stands (chosen : Station → String → Bool) (condition : Visit → World → Prop)
    (substitute : Substitute) : Prop :=
  ∀ ⦃Circumstance : Type⦄ ⦃discipline : Discipline Circumstance⦄ ⦃circumstance : Circumstance⦄
    ⦃guard : Expansion⦄ ⦃visit : Visit⦄ ⦃overriding : Overriding⦄ ⦃world other : World⦄,
    discipline.Lawful → at? chosen visit.station visit.goal = some overriding →
    condition visit world →
    (Discipline.same discipline.breaks).Keeps () (fun _ => True)
      (rendered guard visit.station overriding)
      (rendered (expand visit.depth) visit.station overriding) →
    discipline.Keeps circumstance (fun _ => True) (rendered guard visit.station overriding)
      (rendered (expandWith chosen substitute visit.depth) visit.station overriding) →
    discipline.related circumstance world other →
    Run.Abreast discipline.breaks (discipline.related circumstance)
      ((rendered guard visit.station overriding).effect world)
      ((substitute (expandWith chosen substitute visit.depth) visit.station overriding).effect
        other)

section Substitution

variable (stands : Stands chosen condition substitute)

include stands in
/-- One level of a guarded rendering and of one with a substitute, in a discipline that
both respect at all goals that are visited, and whatever the text of what is overridden
is in the bodies that override it. -/
theorem guarded_abreast_with {Circumstance : Type} {discipline : Discipline Circumstance}
    (laws : discipline.Lawful) (breaking : discipline.breaks reason)
    {circumstance : Circumstance} {depth : Nat} {inside : Bool} {station : Station} {goal : Goal}
    {world other : World} (near : discipline.related circumstance world other)
    (pursued : condition ⟨depth, inside, station, goal⟩ world → at? chosen station goal = none →
      discipline.Keeps circumstance (fun _ => True)
        (station.pursue (expandGuarded chosen condition reason depth inside) goal)
        (station.pursue (expandWith chosen substitute depth) goal))
    (before : ∀ overriding, condition ⟨depth, inside, station, goal⟩ world →
      at? chosen station goal = some overriding → discipline.Keeps circumstance (fun _ => True)
        (rendered (expandGuarded chosen condition reason depth inside) station overriding)
        (rendered (expandWith chosen substitute depth) station overriding))
    (bodies : ∀ overriding, condition ⟨depth, inside, station, goal⟩ world →
      at? chosen station goal = some overriding → ∀ parent parent',
      discipline.Keeps circumstance (fun _ => True)
        (station.renderOver (expandGuarded chosen condition reason depth true)
          overriding.definition overriding.body parent)
        (station.renderOver (expandWith chosen substitute depth) overriding.definition
          overriding.body parent')) :
    Run.Abreast discipline.breaks (discipline.related circumstance)
      (expandGuarded chosen condition reason (depth + 1) inside station goal world)
      (expandWith chosen substitute (depth + 1) station goal other) := by
  show Run.Abreast _ _ (guarded condition reason (usual chosen) _ _ world)
    (pursue chosen _ _ _ station goal other)
  refine guarded_abreast breaking fun holds => ?_
  rw [usual]
  cases found : at? chosen station goal with
  | none =>
    rw [pursue_of_none found, pursue_of_none found]
    exact (pursued holds found).outcomes near
  | some overriding =>
    rw [pursue_of_some found, pursue_of_some found]
    have guards : (Discipline.same discipline.breaks).Keeps () (fun _ => True)
        (rendered (expandGuarded chosen condition reason depth inside) station overriding)
        (rendered (expand depth) station overriding) :=
      Discipline.same_lawful.captured fun _ _ =>
        guarded_keeps_expand breaking depth inside station _
    refine Run.Abreast.bind ?_ fun text text' => bodies overriding holds found _ _
    exact stands laws found holds guards (before overriding holds found) near

variable (ignores : ∀ visit world, condition visit world → heedless chosen "block" visit = true)
  {breaks : Halt → Prop} (breaking : breaks reason)
include stands ignores breaking

/-- Inside of bodies that override others, a guarded rendering and one with a substitute
do the same in near worlds. -/
theorem guarded_near_with (depth height : Nat) (station : Station) (goal : Goal) :
    (Unread.discipline "block" breaks).Keeps height (fun _ => True)
      (expandGuarded chosen condition reason depth true station goal)
      (expandWith chosen substitute depth station goal) := by
  induction depth generalizing height station goal with
  | zero => exact Run.Lockstep.halt _
  | succ depth inductionHypothesis =>
    have laws : (Unread.discipline "block" breaks).Lawful := Unread.lawful Unread.forloop_ne_block
    have follows := Discipline.Follows.of_keeps inductionHypothesis
    refine Run.Lockstep.of_abreast fun world other near => ?_
    refine guarded_abreast_with stands laws breaking near ?_ ?_ ?_
    · intro holds _
      exact Unread.keeps_pursue Unread.forloop_ne_block follows station goal
        (avoids_of_heedless (ignores _ _ holds) rfl)
    · intro overriding holds found
      exact laws.captured fun inner _ => inductionHypothesis inner station _
    · intro overriding holds found parent parent'
      exact Unread.keeps_renderOver follows station _
        (allObey_of_heedless (ignores _ _ holds) found) _ _

/-- Outside of them, a guarded rendering and one with a substitute do the same in the
same world. -/
theorem guarded_keeps_with (depth : Nat) (station : Station) (goal : Goal) :
    (Discipline.same breaks).Keeps () (fun _ => True)
      (expandGuarded chosen condition reason depth false station goal)
      (expandWith chosen substitute depth station goal) := by
  induction depth generalizing station goal with
  | zero => exact Run.Lockstep.halt _
  | succ depth inductionHypothesis =>
    have near := Discipline.Follows.of_keeps (guarded_near_with stands ignores breaking depth)
    refine Run.Lockstep.of_abreast fun world other same => ?_
    refine guarded_abreast_with stands Discipline.same_lawful breaking same ?_ ?_ ?_
    · intro _ _
      exact Discipline.same_pursue inductionHypothesis station goal
    · intro overriding _ _
      exact Discipline.same_lawful.captured fun _ _ => inductionHypothesis station _
    · intro overriding holds found parent parent'
      exact Unread.keeps_renderOver_same near station _
        (allObey_of_heedless (ignores _ _ holds) found) _ _

end Substitution

/-- A substitute that stands for the rendering of what is overridden changes nothing in a
rendering whose overriding bodies do not read `block`. -/
theorem expandWith_eq (stands : Stands chosen condition substitute)
    (ignores : ∀ visit world, condition visit world → heedless chosen "block" visit = true)
    {limit : Nat} {station : Station} {goal : Goal} {world : World}
    (holds : Holds chosen condition limit station goal world) :
    expandWith chosen substitute limit station goal world = expand limit station goal world := by
  obtain ⟨reason, _, other⟩ := exists_reason (expand limit station goal world).1 .exhausted
  have breaking : (· = reason) reason := rfl
  have kept := guarded_keeps_with stands ignores breaking limit station goal
  rcases Discipline.same_outcome kept world with ⟨halt, rfl, broken⟩ | same
  · rw [holds.guarded_eq] at broken
    exact absurd broken other
  · rw [← same, holds.guarded_eq]

/-- Another text stands for the text of what is overridden: the effects are the same. -/
theorem stands_edited (edit : String → String) : Stands chosen condition (edited edit) := by
  intro Circumstance discipline circumstance guard visit overriding world other _ _ _ _ kept near
  have sameEffect : ∀ expand : Expansion,
      (edited edit expand visit.station overriding).effect =
        (rendered expand visit.station overriding).effect := by
    intro expand
    funext before
    unfold Run.effect edited
    rw [Run.bind_apply]
    rcases rendered expand visit.station overriding before with ⟨result, after⟩
    cases result <;> rfl
  rw [sameEffect]
  exact kept.abreast near

section Emptied

variable {Circumstance : Type} {discipline : Discipline Circumstance} (laws : discipline.Lawful)
include laws

/-- An empty body respects every discipline. -/
theorem keeps_renderOver_nil {circumstance : Circumstance} (station : Station)
    (definition : Handle) (first second : Expansion) {parent : Value}
    (bound : discipline.bindable circumstance parent) :
    discipline.Keeps circumstance (fun _ => True) (station.renderOver first definition [] parent)
      (station.renderOver second definition [] parent) := by
  refine Run.Lockstep.bind (laws.record _ (by simpa using bound)) fun block bindable => ?_
  refine laws.inScope [("block", block)] (by simpa using bindable) fun inner _ => ?_
  exact Run.Lockstep.pure () trivial

/-- Definitions with empty bodies respect every discipline, with and without a
substitute. -/
theorem keeps_emptied (depth : Nat) (circumstance : Circumstance) (station : Station)
    (name : String) (definitions : List Handle) :
    discipline.Keeps circumstance (fun _ => True)
      (expand depth station (.block name (definitions.map (Handle.emptied name))))
      (expandWith chosen substitute depth station
        (.block name (definitions.map (Handle.emptied name)))) := by
  induction definitions generalizing depth circumstance with
  | nil =>
    cases depth with
    | zero => exact Run.Lockstep.halt _
    | succ depth => exact Run.Lockstep.pure () trivial
  | cons definition rest inductionHypothesis =>
    cases depth with
    | zero => exact Run.Lockstep.halt _
    | succ depth =>
      show discipline.Keeps circumstance (fun _ => True)
        (station.renderBlock (expand depth) name
          (definition.emptied name :: rest.map (Handle.emptied name)))
        (station.renderBlock (expandWith chosen substitute depth) name
          (definition.emptied name :: rest.map (Handle.emptied name)))
      simp only [Station.renderBlock, block?_emptied]
      cases definition.template.block? name with
      | none => exact Run.Lockstep.pure () trivial
      | some body =>
        cases rest with
        | nil => exact keeps_renderOver_nil laws station _ _ _ laws.bindableNone
        | cons next rest =>
          refine Run.Lockstep.bind
            (laws.captured fun inner _ => inductionHypothesis depth inner) fun text legible => ?_
          exact keeps_renderOver_nil laws station _ _ _ (laws.bindableText legible)

end Emptied

/-- Definitions with empty bodies stand for idle ones. -/
theorem stands_emptied (idle : ∀ visit world, condition visit world → Idle chosen visit world) :
    Stands chosen condition emptied := by
  intro Circumstance discipline circumstance guard visit overriding world other laws found
    holds guards _ near
  have keeps : discipline.Keeps circumstance (discipline.legible circumstance)
      (emptied (expand visit.depth) visit.station overriding)
      (emptied (expandWith chosen emptied visit.depth) visit.station overriding) :=
    laws.captured fun inner _ => keeps_emptied laws visit.depth inner _ _ _
  have usualEffect : Run.Abreast discipline.breaks (· = ·)
      ((rendered guard visit.station overriding).effect world)
      ((rendered (expand visit.depth) visit.station overriding).effect world) := guards.abreast rfl
  rcases usualEffect with broken | ⟨same, sameWorld⟩
  · exact Or.inl broken
  · have sameOutcome := Prod.ext same sameWorld
    rw [sameOutcome, idle visit world holds overriding found]
    exact keeps.abreast near

/-- What is overridden by bodies that do not read `block` matters for its effects only.
A rendering is the same with any other text in the place of its text; and wherever it
has no more effects than empty bodies have, the rendering is the same with empty bodies. -/
theorem expand_eq_of_heedless {limit : Nat} {station : Station} {goal : Goal} {world : World}
    (ignores : Holds chosen (fun visit _ => heedless chosen "block" visit = true) limit station goal
      world) :
    (∀ edit : String → String,
        expandWith chosen (edited edit) limit station goal world =
          expand limit station goal world) ∧
      (Holds chosen (Idle chosen) limit station goal world →
        expandWith chosen emptied limit station goal world = expand limit station goal world) := by
  constructor
  · intro edit
    exact expandWith_eq (stands_edited edit) (fun _ _ holds => holds) ignores
  · intro idle
    have both := ignores.and idle
    exact expandWith_eq (stands_emptied fun _ _ holds => holds.2) (fun _ _ holds => holds.1) both

namespace Sample

/-- The references to the block that is overridden. -/
def references (_ : Station) (name : String) : Bool := name = "a"

/-- A template with one block. -/
def base (body : List Stmt) : Template where
  name := some "base"
  source := ""
  body := [.text "(", .block "a", .text ")"]
  blocks := [("a", body)]
  inherits := false

/-- A template that overrides the block with a text. -/
def child : Template where
  name := none
  source := ""
  body := [.inherit (.literal (.text "base")) ⟨0, 0⟩, .block "a"]
  blocks := [("a", [.text "x"])]
  inherits := true

/-- A world with these templates. -/
def world (body : List Stmt) : World where
  catalogue := { Catalogue.empty with shelf := [("base", ⟨⟨0, base body⟩, 0⟩)], issued := 2 }
  context := .empty
  host := .empty
  turns := []
  sink := .buffer ""

/-- A body that is a text. -/
def plain : List Stmt := [.text "y"]

/-- A body that asks for a template which there is not. -/
def failing : List Stmt := [.insert (.literal (.text "missing")) [] ⟨0, 0⟩]

end Sample

/-- Where what is overridden is a text, the rendering is the same with an empty body. -/
theorem sample_heedless :
    expandWith Sample.references emptied 10 (.start ⟨1, Sample.child⟩) .whole
          (Sample.world Sample.plain) =
        expand 10 (.start ⟨1, Sample.child⟩) .whole (Sample.world Sample.plain) ∧
      (expand 10 (.start ⟨1, Sample.child⟩) .whole (Sample.world Sample.plain)).2.sink.text =
        "(x)" := by
  have ignores : Holds Sample.references
      (fun visit _ => heedless Sample.references "block" visit = true) 10 (.start ⟨1, Sample.child⟩)
      .whole (Sample.world Sample.plain) :=
    Holds.of_checking .exhausted (fun _ _ checked => checked) (by decide +kernel)
  have idle : Holds Sample.references (Idle Sample.references) 10 (.start ⟨1, Sample.child⟩) .whole
      (Sample.world Sample.plain) :=
    Holds.of_checking .exhausted (fun _ before texts => idle_of_texts texts before)
      (by decide +kernel)
  exact ⟨(expand_eq_of_heedless ignores).2 idle, by decide +kernel⟩

/-- Where what is overridden fails, the rendering fails, though the overriding body does
not read `block`; with an empty body it succeeds. -/
theorem sample_not_inert :
    Holds Sample.references (fun visit _ => heedless Sample.references "block" visit = true) 10
        (.start ⟨1, Sample.child⟩) .whole (Sample.world Sample.failing) ∧
      (expand 10 (.start ⟨1, Sample.child⟩) .whole (Sample.world Sample.failing)).1 ≠ .ok () ∧
      (expandWith Sample.references emptied 10 (.start ⟨1, Sample.child⟩) .whole
        (Sample.world Sample.failing)).1 = .ok () := by
  refine ⟨?_, by decide +kernel, by decide +kernel⟩
  exact Holds.of_checking .exhausted (fun _ _ checked => checked) (by decide +kernel)

end Overriding

end Stencil
