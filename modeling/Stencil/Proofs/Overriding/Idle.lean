import Stencil.Proofs.Overriding.Visits

/-!
# Idle definitions

What is overridden is idle where its rendering has no more effects than that of empty
bodies. Definitions that are plain text are idle in every world: all that they do is to
write into the buffer that takes their text.
-/

namespace Stencil

/-- The statement is a plain text. -/
def Stmt.isText : Stmt → Bool
  | .text _ => true
  | _ => false

namespace Overriding

/-- A template with an empty body for a block defines the same blocks. -/
theorem block?_emptied (name : String) (handle : Handle) :
    (handle.emptied name).template.block? name =
      (handle.template.block? name).map fun _ => [] := by
  unfold Template.block? Handle.emptied
  generalize handle.template.blocks = blocks
  induction blocks with
  | nil => rfl
  | cons block rest inductionHypothesis =>
    obtain ⟨own, body⟩ := block
    by_cases isHere : own = name
    · simp [isHere]
    · have differs : (name == own) = false := by simpa using Ne.symm isHere
      simpa [List.lookup_cons, isHere, differs] using inductionHypothesis

/-- Plain text does nothing but write into a buffer. -/
theorem executeAll_texts (expand : Expansion) (station : Station) (body : List Stmt)
    (texts : body.all Stmt.isText = true) (world : World) {before : String}
    (buffer : world.sink = .buffer before) :
    ∃ written, executeAll expand station body world =
      (.ok (), { world with sink := .buffer written }) := by
  induction body generalizing world before with
  | nil => exact ⟨before, by rw [← buffer]; rfl⟩
  | cons statement rest inductionHypothesis =>
    obtain ⟨isText, others⟩ := Bool.and_eq_true_iff.mp texts
    cases statement with
    | text content =>
      have wrote : Run.write content world =
          (.ok (), { world with sink := .buffer (before ++ content) }) := by
        rw [Run.write]
        rw [buffer]
        rfl
      obtain ⟨written, executed⟩ := inductionHypothesis others
        { world with sink := .buffer (before ++ content) } rfl
      refine ⟨written, ?_⟩
      rw [executeAll, Run.bind_apply, Stmt.execute, wrote]
      exact executed
    | _ => cases isText

/-- So the body of a definition that is plain text only writes, and its record takes a
mark, whatever the next definition rendered. -/
theorem renderOver_texts (expand : Expansion) (station : Station) (definition : Handle)
    (body : List Stmt) (texts : body.all Stmt.isText = true) (parent : Value) (world : World)
    {before : String} (buffer : world.sink = .buffer before) :
    ∃ written, station.renderOver expand definition body parent world =
      (.ok (), { world with
        host := { world.host with unused := world.host.unused + 1 }
        sink := .buffer written }) := by
  obtain ⟨written, executed⟩ := executeAll_texts expand { station with handle := definition } body
    texts (Unread.opened parent world) buffer
  refine ⟨written, ?_⟩
  rw [Unread.renderOver_apply, executed]
  rfl

/-- An outcome but for what was written. -/
def unwritten (outcome : Except Halt Unit × World) : Except Halt Unit × World :=
  (outcome.1, Discipline.emptied outcome.2)

/-- Two actions whose texts are taken have the same effects, if they come to the same on a
buffer but for what was written. -/
theorem effect_capture {action other : Run Unit} {world : World}
    (same : unwritten (action (Discipline.emptied world)) =
      unwritten (other (Discipline.emptied world))) :
    (Run.capture action).effect world = (Run.capture other).effect world := by
  have applied : ∀ taken : Run Unit, (Run.capture taken).effect world =
      ((unwritten (taken (Discipline.emptied world))).1,
        Discipline.resink world (unwritten (taken (Discipline.emptied world))).2) := by
    intro taken
    show (Except.map _ (Except.map _ (taken (Discipline.emptied world)).1), _) =
      ((taken (Discipline.emptied world)).1, _)
    cases (taken (Discipline.emptied world)).1 <;> rfl
  rw [applied, applied, same]

/-- The bodies of the block are plain text in all of the definitions. -/
def areTexts (name : String) (definitions : List Handle) : Bool :=
  definitions.all fun definition =>
    (definition.template.block? name).all fun body => body.all Stmt.isText

/-- Bodies that are plain text have the same effects after actions that have the same
effects. -/
theorem effect_over_texts {α : Type} {first second : Run α} {world : World}
    (before : first.effect (Discipline.emptied world) = second.effect (Discipline.emptied world))
    (kept : (second (Discipline.emptied world)).2.sink = .buffer "") (parent : α → Value)
    (expand : Expansion) (station : Station) (definition other : Handle) {body body' : List Stmt}
    (texts : body.all Stmt.isText = true) (texts' : body'.all Stmt.isText = true) :
    (Run.capture (first >>= fun value =>
        station.renderOver expand definition body (parent value))).effect world =
      (Run.capture (second >>= fun value =>
        station.renderOver expand other body' (parent value))).effect world := by
  unfold Run.effect at before
  obtain ⟨sameResult, sameWorld⟩ := Prod.mk.inj before
  rcases begun : first (Discipline.emptied world) with ⟨result, after⟩
  rcases begun' : second (Discipline.emptied world) with ⟨result', after'⟩
  rw [begun, begun'] at sameResult sameWorld
  rw [begun'] at kept
  cases sameWorld
  refine effect_capture ?_
  rw [Run.bind_apply, Run.bind_apply, begun, begun']
  cases result with
  | error halt =>
    cases result' with
    | error halt' =>
      cases sameResult
      rfl
    | ok value' => cases sameResult
  | ok value =>
    cases result' with
    | error halt' => cases sameResult
    | ok value' =>
      obtain ⟨written, rendered⟩ :=
        renderOver_texts expand station definition body texts (parent value) after kept
      obtain ⟨written', rendered'⟩ :=
        renderOver_texts expand station other body' texts' (parent value') after kept
      simp only [rendered, rendered']
      rfl

/-- Definitions that are plain text have the effects that they have with empty bodies. -/
theorem effect_texts (depth : Nat) (station : Station) (name : String) (definitions : List Handle)
    (texts : areTexts name definitions = true) (world : World) :
    (Run.capture (expand depth station (.block name definitions))).effect world =
      (Run.capture (expand depth station
        (.block name (definitions.map (Handle.emptied name))))).effect world := by
  induction definitions generalizing depth world with
  | nil => rfl
  | cons definition rest inductionHypothesis =>
    obtain ⟨head, others⟩ := Bool.and_eq_true_iff.mp texts
    have own : (definition.template.block? name).all (fun body => body.all Stmt.isText) = true :=
      head
    cases depth with
    | zero => rfl
    | succ depth =>
      show (Run.capture (station.renderBlock (expand depth) name
          (definition :: rest))).effect world =
        (Run.capture (station.renderBlock (expand depth) name
          (definition.emptied name :: rest.map (Handle.emptied name)))).effect world
      simp only [Station.renderBlock, block?_emptied]
      cases defined : definition.template.block? name with
      | none => rfl
      | some body =>
        rw [defined] at own
        cases rest with
        | nil =>
          have before : (pure Value.none : Run Value).effect (Discipline.emptied world) =
            (pure Value.none : Run Value).effect (Discipline.emptied world) := rfl
          exact effect_over_texts before rfl id (expand depth) station definition _ own rfl
        | cons next rest =>
          simp only [List.map_cons, Option.map_some, pure_bind]
          exact effect_over_texts (inductionHypothesis depth others _) rfl Value.rawText _ _ _ _ own
            rfl

/-- What is overridden is plain text at a chosen reference. -/
def overridesTexts (chosen : Station → String → Bool) (visit : Visit) : Bool :=
  (at? chosen visit.station visit.goal).all fun overriding =>
    areTexts overriding.name overriding.others

/-- Plain texts are idle, in every world. -/
theorem idle_of_texts {chosen : Station → String → Bool} {visit : Visit}
    (texts : overridesTexts chosen visit = true) (world : World) : Idle chosen visit world := by
  intro overriding found
  unfold overridesTexts at texts
  rw [found] at texts
  exact effect_texts visit.depth visit.station overriding.name overriding.others texts world

end Overriding

end Stencil
