import Stencil.Proofs.Discipline

/-!
# Tags respect a discipline

What the primitive actions respect, actions in brackets do: those in a scope of
their own, those whose text is caught, and those on a template that a tag leads to,
which is loaded and given back.
-/

namespace Stencil.Discipline

variable {Circumstance : Type} {discipline : Discipline Circumstance} {α : Type}

/-- An action inside of a passage respects the discipline outside of it. -/
theorem Passage.keeps {circumstance : Circumstance} {enter : World → World}
    {leave : World → World → World} {inside : Circumstance → Prop}
    {yields : World → World → Prop} {isGood : α → Prop} {first second : Run α}
    (passage : discipline.Passage circumstance enter leave inside yields)
    (body : ∀ inner, inside inner → discipline.Keeps inner isGood first second) :
    discipline.Keeps circumstance isGood
      (fun world => ((first (enter world)).1, leave world (first (enter world)).2))
      (fun world => ((second (enter world)).1, leave world (second (enter world)).2)) := by
  intro world other near
  obtain ⟨inner, within, entered, left⟩ := passage world other near
  rcases body inner within _ _ entered with broken | ⟨same, after, good⟩
  · exact Or.inl broken
  · exact Or.inr ⟨same, (left _ _ after).1, good⟩

/-- So does one whose text is read off the sink inside. -/
theorem Passage.keepsText {circumstance : Circumstance} {enter : World → World}
    {leave : World → World → World} {inside : Circumstance → Prop}
    {yields : World → World → Prop} {isGood : String → Prop} {first second : Run Unit}
    (passage : discipline.Passage circumstance enter leave inside yields)
    (reads : ∀ after after', yields after after' →
      after.sink.text = after'.sink.text ∧ isGood after.sink.text)
    (body : ∀ inner, inside inner → discipline.Keeps inner (fun _ => True) first second) :
    discipline.Keeps circumstance isGood
      (fun world => ((first (enter world)).1.map fun _ => (first (enter world)).2.sink.text,
        leave world (first (enter world)).2))
      (fun world => ((second (enter world)).1.map fun _ => (second (enter world)).2.sink.text,
        leave world (second (enter world)).2)) := by
  intro world other near
  obtain ⟨inner, within, entered, left⟩ := passage world other near
  rcases body inner within _ _ entered with ⟨reason, breaking, broken⟩ | ⟨same, after, _⟩
  · exact Or.inl ⟨reason, breaking, by simp [broken, Except.map]⟩
  · have restored := (left _ _ after).1
    obtain ⟨sameText, legible⟩ := reads _ _ (left _ _ after).2
    refine Or.inr ⟨?_, restored, ?_⟩
    · simp only [← same, sameText]
    · intro text found
      cases result : (first (enter world)).1 with
      | error reason => simp [result, Except.map] at found
      | ok value =>
        have written : (first (enter world)).2.sink.text = text := by
          simpa [result, Except.map] using found
        exact written ▸ legible

variable (lawful : discipline.Lawful) {circumstance : Circumstance} {station : Station}
include lawful

/-- An action in a scope of its own. -/
theorem Lawful.inScope {isGood : α → Prop} {first second : Run α} (scope : Named Value)
    (bound : ∀ entry ∈ scope, discipline.bindable circumstance entry.2)
    (body : ∀ inner, discipline.Within circumstance inner →
      discipline.Keeps inner isGood first second) :
    discipline.Keeps circumstance isGood (Run.inScope scope first) (Run.inScope scope second) :=
  (lawful.scope scope bound).keeps body

/-- The text of an action. -/
theorem Lawful.captured {first second : Run Unit}
    (body : ∀ inner, discipline.Within circumstance inner →
      discipline.Keeps inner (fun _ => True) first second) :
    discipline.Keeps circumstance (discipline.legible circumstance) (Run.capture first)
      (Run.capture second) :=
  lawful.capture.keepsText (fun _ _ read => read) body

/-- The text of an action under the policy of an extension. -/
theorem Lawful.filed {first second : Run Unit} (extension : String)
    (body : ∀ inner, discipline.Within circumstance inner →
      discipline.Keeps inner (fun _ => True) first second) :
    discipline.Keeps circumstance (fun _ => True) (Run.underPolicy extension (Run.capture first))
      (Run.underPolicy extension (Run.capture second)) :=
  (lawful.file extension).keepsText (fun _ _ same => ⟨same, trivial⟩) body

/-- Going through a tag changes nothing of a station but the tags that led there. -/
theorem Lawful.enter (span : Span) :
    discipline.Keeps circumstance (fun inner => ∃ sites, inner = { station with sites := sites })
      (station.enter span) (station.enter span) := by
  intro world other near
  rw [Station.enter]
  rw [Run.get_apply, Run.get_apply, ← lawful.depthLimit near]
  by_cases shallow : station.sites.length < world.catalogue.depthLimit
  · simp only [shallow, if_true]
    exact Run.Lockstep.pure _ ⟨_, rfl⟩ world other near
  · simp only [shallow, if_false]
    exact Run.Lockstep.halt _ world other near

/-- What is done with a template that was loaded, and given back. -/
theorem Lawful.visit {first second : Handle → Run Unit} {span : Span} {name : String}
    (fits : discipline.fits circumstance station)
    (body : ∀ inner handle, discipline.Arrival circumstance inner station handle →
      discipline.Keeps inner (fun _ => True) (first handle) (second handle)) :
    discipline.Keeps circumstance (fun _ => True)
      (station.load span name >>= fun handle => Run.releasing handle (first handle))
      (station.load span name >>= fun handle => Run.releasing handle (second handle)) := by
  intro world other near
  obtain ⟨sameResult, loaded⟩ := lawful.load span name fits world other near
  rw [Run.bind_apply, Run.bind_apply]
  cases found : station.load span name world with
  | mk result after =>
    cases found' : station.load span name other with
    | mk result' after' =>
      rw [found, found'] at sameResult loaded
      subst sameResult
      cases result with
      | error reason => exact Or.inr ⟨rfl, loaded, by simp⟩
      | ok handle =>
        obtain ⟨inner, arrival, entered, left⟩ := loaded
        rcases body inner handle arrival after after' entered with broken | ⟨same, final, good⟩
        · exact Or.inl broken
        · exact Or.inr ⟨same, left _ _ final, good⟩

end Stencil.Discipline
