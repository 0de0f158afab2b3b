import Stencil.Proofs.Discipline.Statements

/-!
# The discipline of the same world

The plainest discipline relates a world to itself and asks for nothing. As it is lawful,
two ways of expanding goals that do the same for every goal do the same for all
statements, up to what the first may break off for.
-/

namespace Stencil.Discipline

variable {breaks : Halt → Prop} {α : Type}

/-- Worlds are related if they are the same; everything else is allowed. -/
def same (breaks : Halt → Prop) : Discipline Unit where
  breaks := breaks
  related := fun _ world other => world = other
  fits := fun _ _ => True
  awaits := fun _ _ => True
  good := fun _ _ => True
  bindable := fun _ _ => True
  legible := fun _ _ => True
  wording := fun _ => Wording.free

/-- An action does the same as itself. -/
theorem same_keeps {isGood : α → Prop} (action : Run α) (all : ∀ value, isGood value) :
    (same breaks).Keeps () isGood action action := by
  rintro world other rfl
  exact Or.inr ⟨rfl, rfl, fun value _ => all value⟩

/-- From the same world the first action breaks off, or both do the same. -/
theorem same_outcome {isGood : α → Prop} {first second : Run α}
    (keeps : (same breaks).Keeps () isGood first second) (world : World) :
    (∃ halt, breaks halt ∧ (first world).1 = .error halt) ∨ first world = second world := by
  rcases keeps world world rfl with broken | ⟨sameResult, sameWorld, _⟩
  · exact Or.inl broken
  · exact Or.inr (Prod.ext sameResult sameWorld)

/-- A change for a time is the same as itself. -/
theorem same_passage {enter : World → World} {leave : World → World → World}
    {inside : Unit → Prop} {yields : World → World → Prop} (isInside : inside ())
    (all : ∀ after, yields after after) :
    (same breaks).Passage () enter leave inside yields := by
  rintro world other rfl
  refine ⟨(), isInside, rfl, ?_⟩
  rintro after after' rfl
  exact ⟨rfl, all after⟩

/-- Nothing is asked for, inside as outside. -/
theorem same_within : (same breaks).Within () () :=
  ⟨fun _ fits => fits, fun _ awaited => awaited, fun _ good => good⟩

/-- A tag loads what it loads. -/
theorem same_loads (station : Station) (span : Span) (name : String) :
    (same breaks).Loads () station span name := by
  rintro world other rfl
  refine ⟨rfl, ?_⟩
  cases (station.load span name world).1 with
  | error reason => rfl
  | ok handle =>
    refine ⟨(), ⟨trivial, fun _ good => good, fun _ => trivial, fun _ _ => trivial⟩, rfl, ?_⟩
    rintro after after' rfl
    rfl

/-- The discipline of the same world is lawful. -/
theorem same_lawful : (same breaks).Lawful where
  text := fun _ _ => trivial
  bindable := fun _ => trivial
  bindableNone := trivial
  bindableBoolean := fun _ => trivial
  bindableInteger := fun _ => trivial
  bindableText := fun _ => trivial
  elements := fun _ _ _ => trivial
  evaluate := fun _ _ => same_keeps _ fun _ => trivial
  pattern := fun _ _ => same_keeps _ fun _ _ _ => trivial
  children := fun _ _ => same_keeps _ fun _ => trivial
  record := fun _ _ => same_keeps _ fun _ => trivial
  enclosing := same_keeps _ fun _ _ _ => trivial
  emit := fun _ _ => same_keeps _ fun _ => trivial
  write := fun _ => same_keeps _ fun _ => trivial
  removeSpace := fun _ => same_keeps _ fun _ => trivial
  assign := fun _ _ _ => same_keeps _ fun _ => trivial
  turn := fun _ => same_keeps _ fun _ => trivial
  note := fun _ => same_keeps _ fun _ => trivial
  writeFile := fun _ _ _ _ => same_keeps _ fun _ => trivial
  depthLimit := fun near => congrArg (·.catalogue.depthLimit) near
  outputDirectory := fun near => congrArg (·.context.outputDirectory) near
  scope := fun _ _ => same_passage same_within fun _ => trivial
  capture := same_passage same_within fun _ => ⟨rfl, trivial⟩
  mute := same_passage (fun _ fits => fits) fun _ => rfl
  file := fun _ => same_passage same_within fun _ => rfl
  tabbed := same_passage (fun _ fits => fits) fun _ => trivial
  load := fun span name _ => same_loads _ span name

/-- Every definition may be rendered anywhere. -/
theorem same_supplies (station : Station) (name : String) (definitions : List Handle) :
    (same breaks).Supplies () station name definitions :=
  fun _ _ => ⟨trivial, fun body _ => allObey_free body⟩

/-- A body is executed in the same way if further goals are expanded in the same way. -/
theorem same_renderOver {first second : Expansion}
    (keeps : ∀ station goal,
      (same breaks).Keeps () (fun _ => True) (first station goal) (second station goal))
    (station : Station) (definition : Handle) (body : List Stmt) (parent : Value) :
    (same breaks).Keeps () (fun _ => True) (station.renderOver first definition body parent)
      (station.renderOver second definition body parent) := by
  have laws : (same breaks).Lawful := same_lawful
  refine Run.Lockstep.bind (same_keeps _ fun _ => trivial) fun block (_ : True) => ?_
  refine laws.inScope _ (fun _ _ => trivial) fun _ _ => ?_
  exact laws.executeAll (Follows.of_keeps fun _ => keeps) body () _ trivial (allObey_free body)

/-- A goal is pursued in the same way if further goals are expanded in the same way. -/
theorem same_pursue {first second : Expansion}
    (keeps : ∀ station goal,
      (same breaks).Keeps () (fun _ => True) (first station goal) (second station goal))
    (station : Station) (goal : Goal) :
    (same breaks).Keeps () (fun _ => True) (station.pursue first goal)
      (station.pursue second goal) := by
  have follows : (same breaks).Follows first second := Follows.of_keeps fun _ => keeps
  have laws : (same breaks).Lawful := same_lawful
  cases goal with
  | whole => exact laws.executeAll follows _ () station trivial (allObey_free _)
  | reference name => exact laws.renderBlock follows trivial (same_supplies station name _)
  | block name definitions => exact laws.renderBlock follows trivial (same_supplies station name _)
  | tree nodes body => exact laws.renderTree follows trivial (fun _ _ => trivial) (allObey_free _)

/-- Goals may be expanded deeper: what does not exhaust the depth is the same. -/
theorem same_deeper (depth more : Nat) (station : Station) (goal : Goal) :
    (same fun halt => halt = .exhausted).Keeps () (fun _ => True) (expand depth station goal)
      (expand (depth + more) station goal) := by
  induction depth generalizing station goal with
  | zero => exact fun _ _ _ => Or.inl ⟨.exhausted, rfl, rfl⟩
  | succ depth inductionHypothesis =>
    rw [Nat.add_right_comm]
    exact same_pursue inductionHypothesis station goal

end Stencil.Discipline

namespace Stencil

/-- A rendering that does not exhaust its depth is the same with any more. -/
theorem expand_eq_of_le {depth deeper : Nat} {station : Station} {goal : Goal} {world : World}
    (ends : (expand depth station goal world).1 ≠ .error .exhausted) (more : depth ≤ deeper) :
    expand deeper station goal world = expand depth station goal world := by
  obtain ⟨rest, rfl⟩ := Nat.exists_eq_add_of_le more
  rcases Discipline.same_outcome (Discipline.same_deeper depth rest station goal) world with
    ⟨halt, rfl, exhausts⟩ | agrees
  · exact absurd exhausts ends
  · exact agrees.symm

end Stencil
