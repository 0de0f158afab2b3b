/-!
# Template names

A name is a path of segments. Backslashes separate like slashes, empty segments
and dots say nothing, and two dots take back the segment before them, if there
is one. Names with the same segments left are names of the same template.
-/

namespace Stencil

/-- The characters between separators, empty runs included. -/
def splitOn (separates : Char → Bool) : List Char → List (List Char)
  | [] => [[]]
  | c :: rest =>
    if separates c then [] :: splitOn separates rest
    else match splitOn separates rest with
      | [] => [[c]]
      | first :: later => (c :: first) :: later

/-- There is a run in every text. -/
theorem splitOn_ne_nil (separates : Char → Bool) (text : List Char) :
    splitOn separates text ≠ [] := by
  cases text with
  | nil => simp [splitOn]
  | cons c rest =>
    simp only [splitOn]
    split
    · simp
    · split <;> simp

/-- A character of a run is one of the text, and does not separate. -/
theorem of_mem_splitOn {separates : Char → Bool} {text run : List Char}
    (isRun : run ∈ splitOn separates text) {c : Char} (inRun : c ∈ run) :
    c ∈ text ∧ separates c = false := by
  induction text generalizing run with
  | nil =>
    have empty : run = [] := by simpa [splitOn] using isRun
    simp [empty] at inRun
  | cons d rest inductionHypothesis =>
    have later : ∀ {run}, run ∈ splitOn separates rest → c ∈ run →
        c ∈ d :: rest ∧ separates c = false := fun isRun inRun =>
      (inductionHypothesis isRun inRun).imp_left (List.mem_cons_of_mem d)
    simp only [splitOn] at isRun
    split at isRun
    · rcases List.mem_cons.mp isRun with rfl | isLater
      · cases inRun
      · exact later isLater inRun
    · rename_i inside
      split at isRun
      · rename_i impossible
        exact absurd impossible (splitOn_ne_nil separates rest)
      · rename_i first others runs
        rcases List.mem_cons.mp isRun with rfl | isLater
        · rcases List.mem_cons.mp inRun with rfl | inFirst
          · exact ⟨List.mem_cons_self, by simpa using inside⟩
          · exact later (by simp [runs]) inFirst
        · exact later (by simp [runs, isLater]) inRun

/-- Where there are several runs, a character separates them. -/
theorem exists_separator {separates : Char → Bool} {text first run : List Char}
    {later : List (List Char)} (runs : splitOn separates text = first :: run :: later) :
    ∃ c ∈ text, separates c = true := by
  induction text generalizing first with
  | nil => simp [splitOn] at runs
  | cons d rest inductionHypothesis =>
    by_cases separator : separates d = true
    · exact ⟨d, List.mem_cons_self, separator⟩
    · simp only [splitOn, separator] at runs
      cases restRuns : splitOn separates rest with
      | nil => exact absurd restRuns (splitOn_ne_nil separates rest)
      | cons restFirst restLater =>
        rw [restRuns] at runs
        have same : restLater = run :: later := by simpa using (List.cons.inj runs).2
        obtain ⟨c, member, separating⟩ := inductionHypothesis (restRuns.trans (by rw [same]))
        exact ⟨c, List.mem_cons_of_mem d member, separating⟩

/-- The runs joined by a separator. -/
def joinWith (separator : Char) : List (List Char) → List Char
  | [] => []
  | [run] => run
  | run :: rest => run ++ separator :: joinWith separator rest

namespace TemplateName

/-- Slashes and backslashes separate segments. -/
def isSeparator (c : Char) : Bool := c = '/' || c = '\\'

/-- The segments left, last first, after one more was read. -/
def push (left : List (List Char)) (segment : List Char) : List (List Char) :=
  if segment = [] || segment = ['.'] then left
  else if segment = ['.', '.'] then left.drop 1
  else segment :: left

/-- The segments that are left of a name, in order. -/
def segments (name : List Char) : List (List Char) :=
  ((splitOn isSeparator name).foldl push []).reverse

/-- The one name among those of the same template that consists of just the
segments left. -/
def normal (name : String) : String :=
  String.ofList (joinWith '/' (segments name.toList))

example : normal "a/./b/../c.html" = "a/c.html" := by decide

example : normal "../../a//b\\c/" = "a/b/c" := by decide

end TemplateName

end Stencil
