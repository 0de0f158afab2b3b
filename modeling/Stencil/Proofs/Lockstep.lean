import Stencil.Rendering.World

/-!
# Actions in lockstep

Two actions run in lockstep if from related worlds they come to the same result and
leave related worlds behind. The first one may break off instead, for reasons that
are agreed on beforehand; then nothing is said about the second. An action in
lockstep with itself, on the diagonal, is one that keeps an invariant.
-/

namespace Stencil.Run

variable {α β : Type} {breaks : Halt → Prop} {related : World → World → Prop}

/-- From related worlds the actions come to the same result, a good one if it is a
value, and to related worlds; or the first breaks off. -/
def Lockstep (breaks : Halt → Prop) (related : World → World → Prop) (good : α → Prop)
    (first second : Run α) : Prop :=
  ∀ world other, related world other →
    (∃ halt, breaks halt ∧ (first world).1 = .error halt) ∨
      ((first world).1 = (second other).1 ∧ related (first world).2 (second other).2 ∧
        ∀ value, (first world).1 = .ok value → good value)

/-- A sequence goes on from the value of its first action, and halts with it, whatever it is
that the actions change. -/
theorem bind_apply {ε σ : Type} (action : ExceptT ε (StateM σ) α)
    (next : α → ExceptT ε (StateM σ) β) (world : σ) :
    (action >>= next) world =
      match action world with
      | (.ok value, after) => next value after
      | (.error halt, after) => (.error halt, after) := by
  simp only [bind, ExceptT.bind, ExceptT.mk, StateT.bind]
  rcases action world with ⟨result, after⟩
  cases result <;> rfl

/-- An action that halts ends a sequence. -/
theorem bind_of_error {action : Run α} {world after : World} {halt : Halt}
    (halted : action world = (.error halt, after)) (next : α → Run β) :
    (action >>= next) world = (.error halt, after) := by
  rw [bind_apply, halted]

/-- One that comes to a value goes on with it. -/
theorem bind_of_ok {action : Run α} {world after : World} {value : α}
    (done : action world = (.ok value, after)) (next : α → Run β) :
    (action >>= next) world = next value after := by
  rw [bind_apply, done]

/-- What is read of the world is read before anything is done to it. -/
theorem get_apply (next : World → Run α) (world : World) :
    (get >>= next) world = next world world := by
  rw [bind_apply]
  rfl

namespace Lockstep

/-- An action that upholds an invariant runs in lockstep with itself. -/
theorem diagonal {good : α → Prop} {upheld : World → Prop} {action : Run α}
    (upholds : ∀ world, upheld world →
      upheld (action world).2 ∧ ∀ value, (action world).1 = .ok value → good value) :
    Lockstep breaks (fun world other => world = other ∧ upheld world) good action action := by
  rintro world other ⟨rfl, before⟩
  obtain ⟨after, isGood⟩ := upholds world before
  exact Or.inr ⟨rfl, ⟨rfl, after⟩, isGood⟩

/-- A value by itself keeps every relation. -/
theorem pure {good : α → Prop} (value : α) (isGood : good value) :
    Lockstep breaks related good (Pure.pure value) (Pure.pure value) := by
  intro world other near
  refine Or.inr ⟨rfl, near, ?_⟩
  intro found same
  exact Except.ok.inj same ▸ isGood

/-- Halting leaves the worlds as they are. -/
theorem halt {good : α → Prop} (reason : Halt) :
    Lockstep breaks related good (throw reason : Run α) (throw reason) := by
  intro world other near
  refine Or.inr ⟨rfl, near, ?_⟩
  intro found impossible
  cases impossible

/-- What is good may be judged less strictly. -/
theorem weaken {strict good : α → Prop} {first second : Run α}
    (locked : Lockstep breaks related strict first second)
    (weaker : ∀ value, strict value → good value) :
    Lockstep breaks related good first second := by
  intro world other near
  rcases locked world other near with broken | ⟨same, after, isGood⟩
  · exact Or.inl broken
  · exact Or.inr ⟨same, after, fun value found => weaker value (isGood value found)⟩

/-- Sequences run in lockstep if their parts do. -/
theorem bind {middle : α → Prop} {good : β → Prop} {first second : Run α}
    {next following : α → Run β} (locked : Lockstep breaks related middle first second)
    (onward : ∀ value, middle value → Lockstep breaks related good (next value) (following value)) :
    Lockstep breaks related good (first >>= next) (second >>= following) := by
  intro world other near
  have started := locked world other near
  rw [bind_apply, bind_apply]
  cases begun : first world with
  | mk result after =>
    cases begun' : second other with
    | mk result' after' =>
      rw [begun, begun'] at started
      rcases started with ⟨reason, breaking, broken⟩ | ⟨same, nearAfter, isGood⟩
      · subst broken
        exact Or.inl ⟨reason, breaking, rfl⟩
      · subst same
        cases result with
        | error reason => exact Lockstep.halt reason after after' nearAfter
        | ok value => exact onward value (isGood value rfl) after after' nearAfter

end Lockstep

section Outcomes

variable {world other : World}

/-- The action for its effects: it halts as before, but its value is dropped. -/
def effect (action : Run α) : Run Unit := fun world =>
  ((action world).1.map fun _ => (), (action world).2)

/-- Two outcomes are abreast: the same result in related worlds, or the first is one
that breaks off. -/
def Abreast (breaks : Halt → Prop) (related : World → World → Prop)
    (first second : Except Halt Unit × World) : Prop :=
  (∃ halt, breaks halt ∧ first.1 = .error halt) ∨ (first.1 = second.1 ∧ related first.2 second.2)

/-- Actions run in lockstep if their outcomes are abreast. -/
theorem Lockstep.of_abreast {first second : Run Unit}
    (abreast : ∀ world other, related world other →
      Abreast breaks related (first world) (second other)) :
    Lockstep breaks related (fun _ => True) first second := by
  intro world other near
  rcases abreast world other near with broken | ⟨same, after⟩
  · exact Or.inl broken
  · exact Or.inr ⟨same, after, fun _ _ => trivial⟩

/-- The outcomes of actions in lockstep are abreast. -/
theorem Lockstep.outcomes {first second : Run Unit}
    (locked : Lockstep breaks related (fun _ => True) first second) (near : related world other) :
    Abreast breaks related (first world) (second other) := by
  rcases locked world other near with broken | ⟨same, after, _⟩
  · exact Or.inl broken
  · exact Or.inr ⟨same, after⟩

/-- The effects of actions in lockstep are abreast. -/
theorem Lockstep.abreast {good : α → Prop} {first second : Run α}
    (locked : Lockstep breaks related good first second) (near : related world other) :
    Abreast breaks related (first.effect world) (second.effect other) := by
  rcases locked world other near with ⟨halt, breaking, broken⟩ | ⟨same, after, _⟩
  · exact Or.inl ⟨halt, breaking, by rw [effect, broken]; rfl⟩
  · exact Or.inr ⟨congrArg (Except.map fun _ => ()) same, after⟩

/-- Sequences are abreast if the effects of their first actions are, and they go on in
lockstep whatever the values are. -/
theorem Abreast.bind {first : Run α} {second : Run β} {next : α → Run Unit}
    {following : β → Run Unit}
    (started : Abreast breaks related (first.effect world) (second.effect other))
    (onward : ∀ value value',
      Lockstep breaks related (fun _ => True) (next value) (following value')) :
    Abreast breaks related ((first >>= next) world) ((second >>= following) other) := by
  rw [bind_apply, bind_apply]
  unfold effect at started
  cases begun : first world with
  | mk result after =>
    cases begun' : second other with
    | mk result' after' =>
      rw [begun, begun'] at started
      rcases started with ⟨reason, breaking, broken⟩ | ⟨same, near⟩
      · cases result with
        | error halt => exact Or.inl ⟨reason, breaking, broken⟩
        | ok value => cases broken
      · cases result with
        | error halt =>
          cases result' with
          | error halt' => exact Or.inr ⟨same, near⟩
          | ok value' => cases same
        | ok value =>
          cases result' with
          | error halt' => cases same
          | ok value' =>
            rcases onward value value' after after' near with broken | ⟨sameResult, later, _⟩
            · exact Or.inl broken
            · exact Or.inr ⟨sameResult, later⟩

end Outcomes

end Stencil.Run
