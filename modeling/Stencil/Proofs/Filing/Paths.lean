import Stencil.Files.Path
import Stencil.Proofs.Naming

/-!
# Paths below a directory

A normal name consists of proper segments. Behind a directory it makes a path that takes
the steps of the directory and then one for each segment, so it leads below the directory;
and the folder above a path takes all steps of it but the last.
-/

namespace Stencil

namespace FilePath

/-- The steps that a text takes as a path. -/
def trail (text : List Char) : List String :=
  ((splitOn (· = '/') text).filter fun segment =>
    decide (segment ≠ [] ∧ segment ≠ ['.'])).map String.ofList

/-- The steps of a path are those of its text. -/
theorem steps_eq (path : String) : steps path = trail path.toList := rfl

/-- Behind a slash a text takes further steps. -/
theorem trail_append (before after : List Char) :
    trail (before ++ '/' :: after) = trail before ++ trail after := by
  rw [trail, splitOn_append (by decide), List.filter_append, List.map_append, trail, trail]

/-- A slash at the end takes none. -/
theorem trail_slash (text : List Char) : trail (text ++ ['/']) = trail text :=
  (trail_append text []).trans (List.append_nil _)

/-- Neither does a dot behind it. -/
theorem trail_slash_dot (text : List Char) : trail (text ++ ['/', '.']) = trail text :=
  (trail_append text ['.']).trans (List.append_nil _)

/-- A text without slashes takes at most one step. -/
theorem trail_of_pure {segment : List Char} (pure : '/' ∉ segment) :
    trail segment = if segment = [] ∨ segment = ['.'] then [] else [String.ofList segment] := by
  have only : splitOn (fun c => decide (c = '/')) segment = [segment] :=
    splitOn_of_pure fun c member => decide_eq_false fun isSlash => pure (isSlash ▸ member)
  rw [trail, only]
  by_cases nowhere : segment = [] ∨ segment = ['.']
  · rcases nowhere with rfl | rfl <;> rfl
  · have onward : segment ≠ [] ∧ segment ≠ ['.'] := not_or.mp nowhere
    simp [onward]

/-- No slash stands in a proper segment. -/
theorem slash_notMem_of_proper {name : List Char} (proper : TemplateName.Proper name) :
    '/' ∉ name := fun member => by
  have notSeparator := proper.pure '/' member
  simp [TemplateName.isSeparator] at notSeparator

/-- Proper segments are steps. -/
theorem trail_joinWith {names : List (List Char)}
    (proper : ∀ name ∈ names, TemplateName.Proper name) :
    trail (joinWith '/' names) = names.map String.ofList := by
  induction names with
  | nil => rfl
  | cons name rest inductionHypothesis =>
    have isProper := proper name List.mem_cons_self
    have here : trail name = [String.ofList name] := by
      rw [trail_of_pure (slash_notMem_of_proper isProper), if_neg]
      exact not_or.mpr ⟨isProper.ne_nil, isProper.ne_dot⟩
    cases rest with
    | nil => exact here
    | cons next others =>
      have later := inductionHypothesis fun name member =>
        proper name (List.mem_cons_of_mem _ member)
      have joined : joinWith '/' (name :: next :: others) =
          name ++ '/' :: joinWith '/' (next :: others) := rfl
      rw [joined, trail_append, here, later]
      rfl

/-- A path to proper segments below a directory takes the steps of the directory, and then
one for each of them. -/
theorem steps_join (directory : String) {names : List (List Char)}
    (proper : ∀ name ∈ names, TemplateName.Proper name) :
    steps (join directory (String.ofList (joinWith '/' names))) =
      steps directory ++ names.map String.ofList := by
  rw [steps_eq, steps_eq, ← trail_joinWith proper]
  unfold join
  by_cases isEmpty : directory = ""
  · subst isEmpty
    simp [trail, splitOn]
  by_cases ends : directory.toList.getLast? = some '/'
  · obtain ⟨rest, isRest⟩ := List.getLast?_eq_some_iff.mp ends
    have noStep : trail [] = [] := rfl
    simp [isEmpty, isRest, trail_append, noStep]
  · simp [isEmpty, ends, trail_append]

/-- Without slashes and dots at its end that lead nowhere a text takes the same steps. -/
theorem trail_trimReversed (reversed : List Char) :
    trail (trimReversed reversed).reverse = trail reversed.reverse := by
  fun_induction trimReversed reversed with
  | case1 rest inductionHypothesis => rw [inductionHypothesis, List.reverse_cons, trail_slash]
  | case2 rest inductionHypothesis =>
    rw [inductionHypothesis, List.reverse_cons, List.reverse_cons, List.append_assoc]
    exact (trail_slash_dot _).symm
  | case3 rest => rfl

/-- None of them are left. -/
theorem trimReversed_ne (reversed rest : List Char) :
    trimReversed reversed ≠ '/' :: rest ∧ trimReversed reversed ≠ '.' :: '/' :: rest := by
  fun_induction trimReversed reversed with
  | case1 rest inductionHypothesis => exact inductionHypothesis
  | case2 rest inductionHypothesis => exact inductionHypothesis
  | case3 left notSlash notDot => exact ⟨notSlash rest, notDot rest⟩

/-- The folder above a path takes all steps but the last. -/
theorem steps_parent? {path folder : String} (above : parent? path = some folder) :
    steps folder = (steps path).dropLast := by
  unfold parent? at above
  split at above
  · cases above
  · rename_i notEmpty
    cases above
    generalize isTrimmed : trimReversed path.toList.reverse = trimmed at notEmpty ⊢
    let file := trimmed.takeWhile fun c => decide (c ≠ '/')
    let rest := trimmed.dropWhile fun c => decide (c ≠ '/')
    have parts : trimmed = file ++ rest := List.takeWhile_append_dropWhile.symm
    have pure : '/' ∉ file.reverse := fun member => by
      simpa using List.all_eq_true.mp List.all_takeWhile '/' (List.mem_reverse.mp member)
    have trailed : steps path = trail (rest.reverse ++ file.reverse) := by
      rw [steps_eq, ← List.reverse_append, ← parts, ← isTrimmed, trail_trimReversed,
        List.reverse_reverse]
    show trail (String.ofList (trimReversed rest).reverse).toList = _
    rw [String.toList_ofList, trail_trimReversed, trailed]
    cases isRest : rest with
    | nil =>
      rw [List.reverse_nil, List.nil_append, trail_of_pure pure]
      split <;> rfl
    | cons c before =>
      have isSlash : c = '/' := by
        have stops := List.head_dropWhile_not (fun c => decide (c ≠ '/'))
          (show rest ≠ [] by simp [isRest])
        have same : trimmed.dropWhile (fun c => decide (c ≠ '/')) = c :: before := isRest
        simp only [same] at stops
        exact Decidable.of_not_not (of_decide_eq_false stops)
      subst isSlash
      -- What was trimmed does not end with a slash, or with a slash and a dot.
      have onward : ¬(file.reverse = [] ∨ file.reverse = ['.']) := by
        rw [List.reverse_eq_nil_iff, List.reverse_eq_iff]
        rintro (isEmpty | isDot)
        · exact (trimReversed_ne path.toList.reverse before).1
            (by rw [isTrimmed, parts, isEmpty, isRest, List.nil_append])
        · exact (trimReversed_ne path.toList.reverse before).2
            (by rw [isTrimmed, parts, isDot, isRest]; rfl)
      have text : ('/' :: before).reverse ++ file.reverse =
          before.reverse ++ '/' :: file.reverse := by simp
      rw [text, trail_append, trail_of_pure pure, if_neg onward, List.dropLast_concat,
        List.reverse_cons, trail_slash]

/-- A last step leads on from where the others lead. -/
theorem place_concat (steps : List String) (step : String) :
    place (steps ++ [step]) = onward (place steps) step := by
  simp [place]

/-- Proper segments lead below the place that they start from. -/
theorem place_below (steps : List String) {names : List (List Char)}
    (proper : ∀ name ∈ names, TemplateName.Proper name) :
    place (steps ++ names.map String.ofList) = place steps ++ names.map String.ofList := by
  induction names generalizing steps with
  | nil => simp
  | cons name rest inductionHypothesis =>
    have notBack : String.ofList name ≠ ".." := fun isBack =>
      (proper name List.mem_cons_self).ne_dots (by simpa using congrArg String.toList isBack)
    have later := inductionHypothesis (steps ++ [String.ofList name]) fun name member =>
      proper name (List.mem_cons_of_mem _ member)
    rw [place_concat, onward, if_neg notBack] at later
    simpa using later

/-- The path is that of a directory with proper segments behind it, and leads as deep below
the place of the directory as there are segments. -/
def Below (directory path : String) : Prop :=
  ∃ names : List (List Char), (∀ name ∈ names, TemplateName.Proper name) ∧
    path = join directory (String.ofList (joinWith '/' names)) ∧
    steps path = steps directory ++ names.map String.ofList ∧
    place (steps path) = place (steps directory) ++ names.map String.ofList

/-- Whatever a name is, in its normal form it makes a path below the directory. -/
theorem below_join_normal (directory name : String) :
    Below directory (join directory (TemplateName.normal name)) := by
  have proper : ∀ segment ∈ TemplateName.segments name.toList, TemplateName.Proper segment :=
    fun _ member => TemplateName.proper_of_mem_segments member
  refine ⟨TemplateName.segments name.toList, proper, rfl, steps_join directory proper, ?_⟩
  rw [← place_below _ proper]
  exact congrArg place (steps_join directory proper)

example : join "out" (TemplateName.normal "/../a\\.//b") = "out/a/b" := by decide

end FilePath

end Stencil
