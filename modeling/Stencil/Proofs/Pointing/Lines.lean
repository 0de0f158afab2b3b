import Mathlib.Data.List.DropRight
import Stencil.Fault.Drawing
import Stencil.Token.Lexer

/-!
# The lines of a source

A line feed ends a line, so one at the very end of a source starts no further line. Every position
stands on one line all the same: at worst on an empty one behind the last line feed. Counting the
line feeds before a position finds its line among those of the source, unless it is that one.
-/

namespace Stencil

open Lexer (lastLine)

/-- Whole lines: nothing, or a text that a line feed ends. -/
def Ended (text : List Char) : Prop := text = [] ∨ text.getLast? = some '\n'

/-- The whole lines of a text: what stands before its last line. -/
def wholeLines (text : List Char) : List Char := text.rdropWhile (· ≠ '\n')

/-- Together they are the text. -/
theorem wholeLines_append_lastLine (text : List Char) : wholeLines text ++ lastLine text = text :=
  List.rdropWhile_append_rtakeWhile

/-- There is no line feed in the last line. -/
theorem not_mem_lastLine (text : List Char) : '\n' ∉ lastLine text := by
  intro member
  simpa using List.mem_rtakeWhile_imp member

/-- A text without line feeds is its last line. -/
theorem lastLine_of_not_mem {text : List Char} (unbroken : '\n' ∉ text) :
    lastLine text = text := by
  apply List.rtakeWhile_eq_self_iff.mpr
  intro c member
  simpa using fun same : c = '\n' => unbroken (same ▸ member)

/-- The whole lines of a text are whole lines. -/
theorem ended_wholeLines (text : List Char) : Ended (wholeLines text) := by
  by_cases nothing : wholeLines text = []
  · exact .inl nothing
  · have last := List.rdropWhile_last_not (fun c : Char => decide (c ≠ '\n')) text nothing
    refine .inr ?_
    rw [List.getLast?_eq_some_getLast nothing]
    simpa [wholeLines] using last

/-- Whole lines without their first character are whole lines, and there is something left of them
unless that character ends a line. -/
theorem ended_cons {c : Char} {rest : List Char} (ended : Ended (c :: rest)) :
    Ended rest ∧ (c = '\n' ∨ rest ≠ []) := by
  rcases ended with impossible | last
  · cases impossible
  · cases rest with
    | nil => exact ⟨.inl rfl, .inl (by simpa using last)⟩
    | cons d others =>
      rw [List.getLast?_cons_cons] at last
      exact ⟨.inr last, .inr (List.cons_ne_nil _ _)⟩

/-- A character that ends no line stands on the first one of what follows, or on a line of its
own. -/
theorem sourceLines_cons_of_ne {c : Char} (plain : c ≠ '\n') (rest : List Char) :
    sourceLines (c :: rest) =
      (c :: (sourceLines rest).head?.getD []) :: (sourceLines rest).tail := by
  rw [sourceLines, if_neg plain]
  cases sourceLines rest <;> rfl

/-- The first line goes up to the first line feed. -/
theorem head?_sourceLines {text : List Char} (present : text ≠ []) :
    (sourceLines text).head? = some (text.takeWhile (· ≠ '\n')) := by
  induction text with
  | nil => contradiction
  | cons c rest inductionHypothesis =>
    by_cases feed : c = '\n'
    · simp [sourceLines, feed]
    · rw [sourceLines_cons_of_ne feed, List.takeWhile_cons_of_pos (by simpa using feed)]
      by_cases nothing : rest = []
      · simp [nothing, sourceLines]
      · rw [inductionHypothesis nothing]
        rfl

/-- There is one unless the text is empty. -/
theorem sourceLines_ne_nil_of_ne {text : List Char} (present : text ≠ []) :
    sourceLines text ≠ [] := by
  obtain ⟨c, rest, rfl⟩ := List.exists_cons_of_ne_nil present
  exact sourceLines_ne_nil c rest

/-- The lines of whole lines come before those of what follows. -/
theorem sourceLines_append {first : List Char} (ended : Ended first) (rest : List Char) :
    sourceLines (first ++ rest) = sourceLines first ++ sourceLines rest := by
  induction first with
  | nil => rfl
  | cons c first inductionHypothesis =>
    obtain ⟨endedToo, more⟩ := ended_cons ended
    have later := inductionHypothesis endedToo
    by_cases feed : c = '\n'
    · simp [sourceLines, feed, later]
    · have lines := sourceLines_ne_nil_of_ne (more.resolve_left feed)
      rw [List.cons_append, sourceLines_cons_of_ne feed, sourceLines_cons_of_ne feed, later,
        List.head?_append_of_ne_nil _ lines, List.tail_append_of_ne_nil lines, List.cons_append]

/-- Whole lines are as many as their line feeds. -/
theorem length_sourceLines {text : List Char} (ended : Ended text) :
    (sourceLines text).length = text.count '\n' := by
  induction text with
  | nil => rfl
  | cons c text inductionHypothesis =>
    obtain ⟨endedToo, more⟩ := ended_cons ended
    have later := inductionHypothesis endedToo
    by_cases feed : c = '\n'
    · simp [sourceLines, feed, later]
    · have lines := sourceLines_ne_nil_of_ne (more.resolve_left feed)
      rw [sourceLines_cons_of_ne feed, List.count_cons_of_ne feed, ← later, List.length_cons,
        List.length_tail, Nat.sub_add_cancel (List.length_pos_iff.mpr lines)]

/-- A text without line feeds and one behind it are one line. -/
theorem sourceLines_line {text : List Char} (unbroken : '\n' ∉ text) :
    sourceLines (text ++ ['\n']) = [text] := by
  induction text with
  | nil => rfl
  | cons c text inductionHypothesis =>
    rw [List.mem_cons, not_or] at unbroken
    have later := inductionHypothesis unbroken.2
    rw [List.cons_append, sourceLines, later, if_neg (Ne.symm unbroken.1)]

/-- A line of a source: what stands before it is whole lines, there is no line feed in it, and one
follows unless nothing does. -/
structure SourceLine (source : List Char) where
  before : List Char
  text : List Char
  behind : List Char
  whole : before ++ (text ++ behind) = source
  begins : Ended before
  unbroken : '\n' ∉ text
  ends : behind = [] ∨ behind.head? = some '\n'

namespace SourceLine

variable {source : List Char}

/-- Its number, counted from one. -/
def number (line : SourceLine source) : Nat := line.before.count '\n' + 1

/-- The line that a position stands on. -/
def around (source : List Char) (position : Nat) : SourceLine source where
  before := wholeLines (source.take position)
  text := lastLine (source.take position) ++ (source.drop position).takeWhile (· ≠ '\n')
  behind := (source.drop position).dropWhile (· ≠ '\n')
  whole := by
    rw [List.append_assoc, List.takeWhile_append_dropWhile, ← List.append_assoc,
      wholeLines_append_lastLine, List.take_append_drop]
  begins := ended_wholeLines _
  unbroken := by
    intro member
    rcases List.mem_append.mp member with isBefore | isBehind
    · exact not_mem_lastLine _ isBefore
    · simpa using List.mem_takeWhile_imp isBehind
  ends := by
    cases rest : (source.drop position).dropWhile (· ≠ '\n') with
    | nil => exact .inl rfl
    | cons c others =>
      have stops := List.head?_dropWhile_not (fun c : Char => decide (c ≠ '\n'))
        (source.drop position)
      rw [rest] at stops
      exact .inr (by simpa using stops)

variable (line : SourceLine source)

/-- It goes up to the first line feed of what stands from it on. -/
theorem takeWhile_eq : (line.text ++ line.behind).takeWhile (· ≠ '\n') = line.text := by
  have all : ∀ c ∈ line.text, decide (c ≠ '\n') = true := by
    intro c member
    simpa using fun same : c = '\n' => line.unbroken (same ▸ member)
  rw [List.takeWhile_append_of_pos all]
  rcases line.ends with nothing | feed
  · simp [nothing]
  · obtain ⟨c, others, found⟩ := List.exists_cons_of_ne_nil
      (show line.behind ≠ [] by rintro none; simp [none] at feed)
    rw [found] at feed ⊢
    simp_all

/-- The lines of the source are those before it, and those from it on. -/
theorem sourceLines_eq :
    sourceLines source = sourceLines line.before ++ sourceLines (line.text ++ line.behind) := by
  rw [← sourceLines_append line.begins, line.whole]

/-- Unless it is the empty one behind the last line feed, it is found by the number. -/
theorem getElem?_sourceLines :
    (sourceLines source)[line.number - 1]? =
      if line.text ++ line.behind = [] then none else some line.text := by
  have place : line.number - 1 = (sourceLines line.before).length + 0 :=
    (length_sourceLines line.begins).symm
  have found : (sourceLines source)[line.number - 1]? =
      (sourceLines (line.text ++ line.behind)).head? := by
    rw [place, line.sourceLines_eq, List.getElem?_append_right (Nat.le_add_right _ _),
      Nat.add_sub_cancel_left, List.head?_eq_getElem?]
  rw [found]
  split
  · rename_i nothing
    rw [nothing]
    rfl
  · rename_i present
    rw [head?_sourceLines present, line.takeWhile_eq]

/-- It is the last one, and there are as many as its number says, if the line feed that ends it
ends the source. -/
theorem last_sourceLines (last : line.behind = ['\n']) :
    (sourceLines source).getLast? = some line.text ∧
      (sourceLines source).length = line.number := by
  rw [line.sourceLines_eq, last, sourceLines_line line.unbroken, List.getLast?_concat,
    List.length_append, length_sourceLines line.begins]
  exact ⟨rfl, rfl⟩

/-- From the line that a position stands on the source goes on with what stands before the position
on that line, and with what stands from the position on. -/
theorem rest_around (position : Nat) :
    (SourceLine.around source position).text ++ (SourceLine.around source position).behind =
      lastLine (source.take position) ++ source.drop position := by
  simp only [SourceLine.around]
  rw [List.append_assoc, List.takeWhile_append_dropWhile]

/-- The number of the line that a span starts on. -/
theorem number_around (span : Span) :
    (SourceLine.around source span.start).number = span.line source := by
  have none : (lastLine (source.take span.start)).count '\n' = 0 :=
    List.count_eq_zero.mpr (not_mem_lastLine _)
  have counted := congrArg (List.count '\n') (wholeLines_append_lastLine (source.take span.start))
  rw [List.count_append, none, Nat.add_zero] at counted
  exact congrArg (· + 1) counted

/-- A line that is found by the number of the one that a span starts on is that one. -/
theorem eq_text_around {span : Span} {code : List Char}
    (found : (sourceLines source)[span.line source - 1]? = some code) :
    code = (SourceLine.around source span.start).text := by
  rw [← number_around, getElem?_sourceLines] at found
  split at found
  · cases found
  · exact (Option.some.inj found).symm

end SourceLine

/-- The column of a span is where the text before it on its line ends. -/
theorem Span.column_eq (span : Span) (source : List Char) :
    span.column source = (lastLine (source.take span.start)).length :=
  (List.length_reverse ..).symm

/-- So of the line that a span starts on this text is taken. -/
theorem Span.take_column (span : Span) (source : List Char) :
    (SourceLine.around source span.start).text.take (span.column source) =
      lastLine (source.take span.start) := by
  rw [span.column_eq]
  exact List.take_left

end Stencil
