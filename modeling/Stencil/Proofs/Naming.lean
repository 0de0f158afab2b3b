import Stencil.Catalogue.Name

/-!
# Normal names

What is left of a name are proper segments: they are not empty, consist of no dots that
say something, and hold no separator. Joining proper segments and reading them again
gives them back, so a normal name is its own normal form.
-/

namespace Stencil

/-- A text that is separated in two is read as its two parts, one after the other. -/
theorem splitOn_append {separates : Char → Bool} {separator : Char}
    (isSeparator : separates separator = true) (before after : List Char) :
    splitOn separates (before ++ separator :: after) =
      splitOn separates before ++ splitOn separates after := by
  induction before with
  | nil => simp [splitOn, isSeparator]
  | cons c rest inductionHypothesis =>
    by_cases separator : separates c = true
    · simp [splitOn, separator, inductionHypothesis]
    · cases runs : splitOn separates rest with
      | nil => exact absurd runs (splitOn_ne_nil separates rest)
      | cons first later =>
        simp only [runs] at inductionHypothesis
        simp [splitOn, separator, inductionHypothesis, runs]

/-- A run without separators is read up to the separator behind it. -/
theorem splitOn_run {separates : Char → Bool} {run : List Char} {separator : Char}
    (pure : ∀ c ∈ run, separates c = false) (isSeparator : separates separator = true)
    (rest : List Char) :
    splitOn separates (run ++ separator :: rest) = run :: splitOn separates rest := by
  induction run with
  | nil => simp [splitOn, isSeparator]
  | cons c run inductionHypothesis =>
    have later := inductionHypothesis fun d member => pure d (List.mem_cons_of_mem c member)
    simp [splitOn, pure c List.mem_cons_self, later]

/-- A text without separators is one run. -/
theorem splitOn_of_pure {separates : Char → Bool} {text : List Char}
    (pure : ∀ c ∈ text, separates c = false) : splitOn separates text = [text] := by
  induction text with
  | nil => rfl
  | cons c rest inductionHypothesis =>
    have later := inductionHypothesis fun d member => pure d (List.mem_cons_of_mem c member)
    simp [splitOn, pure c List.mem_cons_self, later]

/-- Joined runs are read as the runs they were joined from. -/
theorem splitOn_joinWith {separates : Char → Bool} {separator : Char}
    (isSeparator : separates separator = true) {runs : List (List Char)} (some : runs ≠ [])
    (pure : ∀ run ∈ runs, ∀ c ∈ run, separates c = false) :
    splitOn separates (joinWith separator runs) = runs := by
  induction runs with
  | nil => exact absurd rfl some
  | cons run rest inductionHypothesis =>
    cases rest with
    | nil => exact splitOn_of_pure (pure run List.mem_cons_self)
    | cons next later =>
      rw [joinWith, splitOn_run (pure run List.mem_cons_self) isSeparator]
      · rw [inductionHypothesis (by simp) fun other member =>
          pure other (List.mem_cons_of_mem run member)]
      · simp

namespace TemplateName

/-- A segment that says something by itself. -/
structure Proper (segment : List Char) : Prop where
  ne_nil : segment ≠ []
  ne_dot : segment ≠ ['.']
  ne_dots : segment ≠ ['.', '.']
  pure : ∀ c ∈ segment, isSeparator c = false

/-- What is left after one more segment was what was left before, or that segment. -/
theorem mem_push {left : List (List Char)} {segment other : List Char}
    (member : other ∈ push left segment) :
    other ∈ left ∨ (other = segment ∧ segment ≠ [] ∧ segment ≠ ['.'] ∧ segment ≠ ['.', '.']) := by
  simp only [push, Bool.or_eq_true, decide_eq_true_eq] at member
  split at member
  · exact Or.inl member
  · rename_i notNothing
    split at member
    · exact Or.inl (List.mem_of_mem_drop member)
    · rename_i notDots
      rcases List.mem_cons.mp member with same | earlier
      · exact Or.inr ⟨same, fun nothing => notNothing (Or.inl nothing),
          fun dot => notNothing (Or.inr dot), notDots⟩
      · exact Or.inl earlier

/-- All segments that are left of a name are proper. -/
theorem proper_of_mem_segments {name segment : List Char} (member : segment ∈ segments name) :
    Proper segment := by
  have gathered : ∀ runs left : List (List Char),
      (∀ run ∈ runs, ∀ c ∈ run, isSeparator c = false) → (∀ run ∈ left, Proper run) →
      ∀ run ∈ runs.foldl push left, Proper run := by
    intro runs
    induction runs with
    | nil => exact fun left _ proper => proper
    | cons first rest inductionHypothesis =>
      intro left pure proper
      refine inductionHypothesis _ (fun run among => pure run (List.mem_cons_of_mem first among)) ?_
      intro run pushed
      rcases mem_push pushed with earlier | ⟨rfl, notNil, notDot, notDots⟩
      · exact proper run earlier
      · exact ⟨notNil, notDot, notDots, pure run List.mem_cons_self⟩
  refine gathered _ [] ?_ (fun _ impossible => nomatch impossible) segment
    (List.mem_reverse.mp member)
  exact fun run isRun c inRun => (of_mem_splitOn isRun inRun).2

/-- Proper segments are all left, in order. -/
theorem foldl_push {runs left : List (List Char)} (proper : ∀ run ∈ runs, Proper run) :
    runs.foldl push left = runs.reverse ++ left := by
  induction runs generalizing left with
  | nil => rfl
  | cons first rest inductionHypothesis =>
    have isProper := proper first List.mem_cons_self
    have pushed : push left first = first :: left := by
      simp [push, isProper.ne_nil, isProper.ne_dot, isProper.ne_dots]
    rw [List.foldl_cons, pushed,
      inductionHypothesis fun run member => proper run (List.mem_cons_of_mem first member)]
    simp

/-- Proper segments are read back from the name they make. -/
theorem segments_joinWith {runs : List (List Char)} (proper : ∀ run ∈ runs, Proper run) :
    segments (joinWith '/' runs) = runs := by
  cases runs with
  | nil => rfl
  | cons first rest =>
    rw [segments, splitOn_joinWith (by decide) (by simp) fun run member => (proper run member).pure,
      foldl_push proper]
    simp

/-- A normal name is its own normal form. -/
@[simp] theorem normal_normal (name : String) : normal (normal name) = normal name := by
  simp only [normal, String.toList_ofList]
  rw [segments_joinWith fun run member => proper_of_mem_segments member]

end TemplateName

end Stencil
