import Stencil.Catalogue
import Stencil.Proofs.Guards.Reports
import Stencil.Proofs.Pointing.Lines
import Stencil.Proofs.Safety.Slices

/-!
# Drawings point at flaws

A flaw that compiling reports is drawn below the line that it starts on: the carets begin at the
column of the flaw and are as many as the columns it takes. Where the flaw starts behind the line
feed that ends the source, there is no such line, and the carets stand just past the end of the
last one. Spans count characters. Drawing can be done with bytes instead, with every cut guarded;
it comes to the same, so no cut is ever within a character or outside of the source.
-/

namespace Stencil

open Lexer (lastLine)

/-- The carets of a span are put behind a part of a line of the source: behind what stands before
the span on the line that it starts on, or behind the whole last line if the span starts behind
the line feed that ends the source. -/
def Span.PutBehind (span : Span) {source : List Char} (line : SourceLine source)
    (ahead : List Char) : Prop :=
  if span.start = source.length ∧ source.getLast? = some '\n' then
    line.behind = ['\n'] ∧ line.number + 1 = span.line source ∧ ahead = line.text
  else
    line.number = span.line source ∧ line.before ++ ahead = source.take span.start ∧
      ahead <+: line.text

section Lines

variable {source : List Char} {span : Span}

/-- Behind the line feed that ends the source the last line is drawn, and all of it stands before
the carets. -/
theorem drawnLine_past (beyond : span.start = source.length)
    (last : source.getLast? = some '\n') :
    ∃ line : SourceLine source, line.behind = ['\n'] ∧ line.number + 1 = span.line source ∧
      ∀ width, drawnLine width source span = (line.number - 1, line.text, width line.text) := by
  have feeds : span.line source = (sourceLines source).length + 1 := by
    rw [length_sourceLines (.inr last), Span.line, beyond, List.take_length]
  obtain ⟨others, rfl⟩ := List.getLast?_eq_some_iff.mp last
  let line := SourceLine.around (others ++ ['\n']) others.length
  have behind : line.behind = ['\n'] := by simp [line, SourceLine.around]
  obtain ⟨final, count⟩ := line.last_sourceLines behind
  have nowhere : (sourceLines (others ++ ['\n']))[span.line (others ++ ['\n']) - 1]? = none := by
    rw [feeds]
    exact List.getElem?_eq_none (Nat.le_refl _)
  refine ⟨line, behind, by rw [feeds, count], fun width => ?_⟩
  simp only [drawnLine, nowhere, final, count, Option.getD_some]

/-- Otherwise the line that the span starts on is drawn, and what stands before the span on it
stands before the carets. -/
theorem drawnLine_on (inside : span.start ≤ source.length)
    (notPast : ¬(span.start = source.length ∧ source.getLast? = some '\n'))
    (width : List Char → Nat) :
    drawnLine width source span =
      (span.line source - 1, (SourceLine.around source span.start).text,
        width (lastLine (source.take span.start))) := by
  have found := (SourceLine.around source span.start).getElem?_sourceLines
  rw [SourceLine.number_around] at found
  split at found
  · -- Only a source without characters is left, and it is drawn as if it had a line.
    rename_i nothing
    have whole := (SourceLine.around source span.start).whole
    rw [nothing, List.append_nil] at whole
    rw [SourceLine.rest_around, List.append_eq_nil_iff, List.drop_eq_nil_iff] at nothing
    have beyond : span.start = source.length := Nat.le_antisymm inside nothing.2
    rcases (SourceLine.around source span.start).begins with none | last
    · rw [whole] at none
      subst none
      simp [drawnLine, sourceLines, Span.line, SourceLine.around, lastLine]
    · rw [whole] at last
      exact absurd ⟨beyond, last⟩ notPast
  · simp only [drawnLine, found, span.take_column]

/-- So the line that is drawn for a span is one of the source, with the carets put behind a part
of it. -/
theorem exists_drawnLine (inside : span.start ≤ source.length) :
    ∃ (line : SourceLine source) (ahead : List Char), span.PutBehind line ahead ∧
      ∀ width, drawnLine width source span = (line.number - 1, line.text, width ahead) := by
  by_cases past : span.start = source.length ∧ source.getLast? = some '\n'
  · obtain ⟨line, behind, number, drawn⟩ := drawnLine_past past.1 past.2
    refine ⟨line, line.text, ?_, drawn⟩
    rw [Span.PutBehind, if_pos past]
    exact ⟨behind, number, rfl⟩
  · have number : (SourceLine.around source span.start).number = span.line source :=
      SourceLine.number_around span
    refine ⟨.around source span.start, lastLine (source.take span.start), ?_, ?_⟩
    · rw [Span.PutBehind, if_neg past]
      exact ⟨number, wholeLines_append_lastLine _, List.prefix_append _ _⟩
    · intro width
      rw [drawnLine_on inside past, number]

-- A carriage return belongs to its line, and of a span over several lines the first is drawn.
example : drawnLine Text.columns "a\r\né b\r\nc".toList ⟨5, 9⟩ = (1, "é b\r".toList, 2) := by
  decide +kernel

end Lines

section Bytes

/-- The byte that the last line feed of a text begins at. -/
def lastFeed? (text : List Char) : Option Nat :=
  if '\n' ∈ text then some (byteCount (wholeLines text).dropLast) else none

/-- The line that is drawn for a span, found and cut by bytes. -/
def drawnLineCut (width : List Char → Nat) (source : String) (span : Span) :
    Except Mishap (Nat × List Char × Nat) := do
  let first := min (byteOffset source.toList span.start) source.utf8ByteSize
  let earlier ← cutBytes source 0 first
  let number := earlier.toList.count '\n'
  let column := match lastFeed? earlier.toList with
    | some feed => first - feed - 1
    | none => first
  let lines := sourceLines source.toList
  match lines[number]? with
  | some code =>
    let text := String.ofList code
    let ahead ← cutBytes text 0 (min column text.utf8ByteSize)
    return (number, code, width ahead.toList)
  | none =>
    let code := lines.getLast?.getD []
    return (lines.length - 1, code, width code)

/-- The drawing, with all of its texts cut by bytes. -/
def drawingCut (width : List Char → Nat) (message source : String) (span : Span) :
    Except Mishap String := do
  let (number, code, before) ← drawnLineCut width source span
  let pointed ← span.cut source
  return illustration width (number + 1) code before (max 1 (width pointed.toList)) message

/-- The long form of a fault, with all of its texts cut by bytes. -/
def Fault.prettyCut (width : List Char → Nat) (fault : Fault) : Except Mishap String :=
  match fault.excerpt with
  | some (source, span) => do
    return fault.display ++ (← drawingCut width fault.cause.message source span)
  | none => .ok fault.display

/-- The last line of a text takes the bytes behind its last line feed. -/
theorem byteCount_lastLine (text : List Char) :
    (match lastFeed? text with
      | some feed => byteCount text - feed - 1
      | none => byteCount text) = byteCount (lastLine text) := by
  by_cases member : '\n' ∈ text
  · have parted := wholeLines_append_lastLine text
    have present : wholeLines text ≠ [] := by
      intro nothing
      rw [nothing, List.nil_append] at parted
      rw [← parted] at member
      exact not_mem_lastLine text member
    obtain ⟨others, feed⟩ :=
      List.getLast?_eq_some_iff.mp ((ended_wholeLines text).resolve_left present)
    have one : byteCount ['\n'] = 1 := rfl
    have size := congrArg byteCount parted
    rw [byteCount_append, feed, byteCount_append, one] at size
    rw [lastFeed?, if_pos member, feed, List.dropLast_concat]
    dsimp only
    rw [← size, Nat.sub_sub, Nat.add_sub_cancel_left]
  · rw [lastFeed?, if_neg member, lastLine_of_not_mem member]

/-- The first bytes of a text are cut where its first characters end. -/
theorem cutBytes_take (characters : List Char) (position : Nat) :
    min (byteCount (characters.take position)) (String.ofList characters).utf8ByteSize =
        byteCount (characters.take position) ∧
      cutBytes (String.ofList characters) 0 (byteCount (characters.take position)) =
        .ok (String.ofList (characters.take position)) := by
  have parted := List.take_append_drop position characters
  have size : (String.ofList characters).utf8ByteSize =
      byteCount (characters.take position) + byteCount (characters.drop position) := by
    rw [← byteCount_append, parted]
    rfl
  have cut := cutBytes_before (characters.take position) (characters.drop position)
  rw [parted] at cut
  exact ⟨by rw [size]; exact Nat.min_eq_left (Nat.le_add_right _ _), cut⟩

/-- The line is found and cut by bytes as it is by characters. -/
theorem drawnLineCut_eq (width : List Char → Nat) (source : String) (span : Span) :
    drawnLineCut width source span = .ok (drawnLine width source.toList span) := by
  obtain ⟨characters, rfl⟩ := source.exists_eq_ofList
  obtain ⟨first, earlier⟩ := cutBytes_take characters span.start
  have offset : byteOffset characters span.start = byteCount (characters.take span.start) := rfl
  simp only [drawnLineCut, String.toList_ofList, offset, first, earlier, bind_ok,
    byteCount_lastLine]
  have number : (characters.take span.start).count '\n' = span.line characters - 1 := rfl
  rw [number, drawnLine]
  cases found : (sourceLines characters)[span.line characters - 1]? with
  | none => rfl
  | some code =>
    obtain rfl := SourceLine.eq_text_around found
    obtain ⟨within, ahead⟩ := cutBytes_take (SourceLine.around characters span.start).text
      (span.column characters)
    rw [span.take_column] at within ahead
    simp only [within, ahead, bind_ok, String.toList_ofList, span.take_column]
    rfl

/-- The drawing of a span of the source is made by bytes as it is by characters. -/
theorem drawingCut_eq (width : List Char → Nat) (message : String) {source : String} {span : Span}
    (inBounds : span.InBounds source.toList) :
    drawingCut width message source span = .ok (drawing width message source span) := by
  rw [drawingCut, drawnLineCut_eq, inBounds.cut_eq]
  simp only [bind_ok, Span.text, String.toList_ofList]
  rfl

/-- The bytes of a span are in order and within the source, and both ends are boundaries of
characters. -/
structure Span.OnBoundaries (span : Span) (source : String) : Prop where
  order : byteOffset source.toList span.start ≤ byteOffset source.toList span.stop
  inside : byteOffset source.toList span.stop ≤ source.utf8ByteSize
  starts : String.Pos.Raw.IsValid source ⟨byteOffset source.toList span.start⟩
  stops : String.Pos.Raw.IsValid source ⟨byteOffset source.toList span.stop⟩

/-- So are those of a span of characters of the source. -/
theorem Span.InBounds.onBoundaries {span : Span} {source : String}
    (inBounds : span.InBounds source.toList) : span.OnBoundaries source := by
  obtain ⟨characters, rfl⟩ := source.exists_eq_ofList
  have valid := byteOffset_isValid characters
  have whole : byteOffset characters characters.length =
      (String.ofList characters).utf8ByteSize := by
    rw [byteOffset, List.take_length]
  simp only [String.toList_ofList] at inBounds
  constructor <;> simp only [String.toList_ofList]
  · exact byteOffset_le inBounds.order inBounds.inside
  · rw [← whole]
    exact byteOffset_le inBounds.inside (Nat.le_refl _)
  · exact valid _
  · exact valid _

end Bytes

/-- On the display the columns of two texts add up, and a blank and a bar take one each. -/
structure AddsUp (width : List Char → Nat) : Prop where
  append : ∀ first second, width (first ++ second) = width first + width second
  blank : width [' '] = 1
  bar : width ['|'] = 1

namespace AddsUp

variable {width : List Char → Nat}

/-- Blanks take as many columns as they are. -/
theorem blanks (addsUp : AddsUp width) (count : Nat) :
    width (List.replicate count ' ') = count := by
  induction count with
  | zero =>
    have twice := addsUp.append [] []
    rw [List.nil_append] at twice
    simpa using twice
  | succ count inductionHypothesis =>
    rw [List.replicate_succ', addsUp.append, inductionHypothesis, addsUp.blank]

/-- What stands before the carets takes as many columns as what stands before the text above
them. -/
theorem aligned (addsUp : AddsUp width) (number : Nat) (ahead : List Char) :
    width (emptyMargin width number ++ " " ++ repeated ' ' (width ahead)).toList =
      width ((numberedMargin number).toList ++ ahead) := by
  have label := addsUp.blanks (width (Text.decimal number).toList)
  have before := addsUp.blanks (width ahead)
  have bar : " | ".toList = [' '] ++ (['|'] ++ [' ']) := rfl
  have closing : " |".toList = [' '] ++ ['|'] := rfl
  have blank : " ".toList = [' '] := rfl
  simp only [emptyMargin, numberedMargin, repeated, String.toList_append, String.toList_ofList,
    bar, closing, blank, addsUp.append, addsUp.blank, addsUp.bar, label, before]

end AddsUp

/-- Whatever fault compiling a source gives, its drawing points at what is wrong. The fault has a
span of characters of the source, whose bytes are in order and end at boundaries of characters,
and its line is one more than the line feeds before the span. However many columns texts take, the
long form is made by bytes as it is by characters, so no cut goes wrong. It shows the line that
the span starts on, with carets behind the columns of what stands before the span on that line, as
many as the columns of what the span covers and at least one. A span that starts behind the line
feed that ends the source is shown just past the end of the last line. Where the columns of texts
add up the first caret stands right below the text that it is for. -/
theorem drawings_point_at_flaws {catalogue : Catalogue} {name : Option String} {source : String}
    {fault : Fault} (reported : catalogue.compile name source = .error fault)
    (width : List Char → Nat) :
    ∃ (span : Span) (line : SourceLine source.toList) (ahead : List Char),
      fault.excerpt = some (source, span) ∧
      span.InBounds source.toList ∧ span.OnBoundaries source ∧
      fault.line = some ((source.toList.take span.start).count '\n' + 1) ∧
      fault.prettyCut width = .ok (fault.prettyBy width) ∧
      span.PutBehind line ahead ∧
      fault.prettyBy width = fault.display ++
        illustration width line.number line.text (width ahead)
          (max 1 (width (span.slice source.toList))) fault.cause.message ∧
      (AddsUp width →
        width (emptyMargin width line.number ++ " " ++ repeated ' ' (width ahead)).toList =
          width ((numberedMargin line.number).toList ++ ahead)) := by
  unfold Catalogue.compile at reported
  split at reported
  · cases reported
  · rename_i flaw flawed
    cases reported
    have inBounds := Template.inBounds_of_compile flawed
    obtain ⟨line, ahead, behind, drawn⟩ :=
      exists_drawnLine (Nat.le_trans inBounds.order inBounds.inside)
    have excerpt : ((Fault.ofFlaw source flaw).inTemplate name).excerpt =
        some (source, flaw.span) := rfl
    refine ⟨flaw.span, line, ahead, excerpt, inBounds, inBounds.onBoundaries, rfl, ?_, behind, ?_,
      fun addsUp => addsUp.aligned line.number ahead⟩
    · simp only [Fault.prettyCut, excerpt, drawingCut_eq width _ inBounds, bind_ok, Fault.prettyBy]
      rfl
    · simp only [Fault.prettyBy, excerpt, drawing, drawn width]
      rfl

/-- A source of two lines that ends within a tag, behind the last line feed. -/
def unfinishedSource : String := "é\n\x7b\x7bü\n"

/-- The fault of it. -/
def unfinishedFault : Fault where
  cause := .malformed (.expected (.token (.closing .output)) none)
  template := none
  line := some 3
  excerpt := some (unfinishedSource, ⟨6, 6⟩)
  chain := []

/-- It is found by compiling it. -/
theorem compile_unfinished :
    Catalogue.empty.compile none unfinishedSource = .error unfinishedFault := by
  have found : (match Catalogue.empty.compile none unfinishedSource with
      | .ok _ => none
      | .error fault => some fault) = some unfinishedFault := by decide +kernel
  cases compiled : Catalogue.empty.compile none unfinishedSource with
  | ok template =>
    rw [compiled] at found
    cases found
  | error fault =>
    rw [compiled] at found
    exact congrArg Except.error (Option.some.inj found)

/-- The second line of it is drawn, and the caret stands just past its end. -/
theorem unfinished_points_past_end :
    Catalogue.empty.compile none unfinishedSource = .error unfinishedFault ∧
      (Span.mk 6 6).OnBoundaries unfinishedSource ∧
      unfinishedFault.prettyCut Text.columns = .ok
        ("line 3: expected end expression, found EOF\n\n   |\n 2 | \x7b\x7bü\n" ++
          "   |    ^ expected end expression, found EOF\n") := by
  obtain ⟨span, _, _, excerpt, -, boundaries, -, safe, -⟩ :=
    drawings_point_at_flaws compile_unfinished Text.columns
  obtain rfl : Span.mk 6 6 = span := (Prod.mk.inj (Option.some.inj excerpt)).2
  refine ⟨compile_unfinished, boundaries, ?_⟩
  rw [safe]
  decide +kernel

end Stencil
