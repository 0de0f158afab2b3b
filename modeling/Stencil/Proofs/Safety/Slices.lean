import Mathlib
import Stencil.Proofs.Guards.Flaws
import Stencil.Proofs.Lexing
import Stencil.Proofs.Naming
import Stencil.Proofs.Streaming
import Stencil.Rendering

/-!
# Slices

Cutting a text by bytes goes wrong where they are no boundaries of characters. Where texts are cut
that never happens: a span in bounds can be cut out of its source, a path is cut behind its last
separator, and a pattern at its at signs and behind the digits that follow them, all of which take
one byte.
-/

namespace Stencil

/-- What may go wrong: a cut within a character or outside of the text, a block or an element
that there is not, or a division by zero. -/
inductive Mishap where
  | cut
  | noBlock
  | noElement
  | division
  deriving DecidableEq, Repr

/-- What went well is passed on. -/
theorem bind_ok {α β ε : Type} (value : α) (next : α → Except ε β) :
    (Except.ok value >>= next) = next value := rfl

/-- How many bytes characters take. -/
def byteCount (characters : List Char) : Nat := (String.ofList characters).utf8ByteSize

/-- The bytes of both parts. -/
theorem byteCount_append (first second : List Char) :
    byteCount (first ++ second) = byteCount first + byteCount second := by
  simp [byteCount, String.ofList_append]

/-- The text between two bytes, which have to be boundaries of characters, in order. -/
def cutBytes (text : String) (first last : Nat) : Except Mishap String :=
  if first ≤ last ∧ String.Pos.Raw.IsValid text ⟨first⟩ ∧ String.Pos.Raw.IsValid text ⟨last⟩ then
    .ok (String.Pos.Raw.extract text ⟨first⟩ ⟨last⟩)
  else .error .cut

/-- Characters in the middle of a text can be cut out of it. -/
theorem cutBytes_append (before middle after : List Char) :
    cutBytes (String.ofList (before ++ (middle ++ after))) (byteCount before)
      (byteCount before + byteCount middle) = .ok (String.ofList middle) := by
  have begins : String.Pos.Raw.IsValid (String.ofList (before ++ (middle ++ after)))
      ⟨byteCount before⟩ :=
    String.Pos.Raw.isValid_iff_exists_append.mpr
      ⟨String.ofList before, String.ofList (middle ++ after), String.ofList_append, rfl⟩
  have ends : String.Pos.Raw.IsValid (String.ofList (before ++ (middle ++ after)))
      ⟨byteCount before + byteCount middle⟩ := by
    rw [← byteCount_append]
    refine String.Pos.Raw.isValid_iff_exists_append.mpr
      ⟨String.ofList (before ++ middle), String.ofList after, ?_, rfl⟩
    rw [← String.ofList_append, List.append_assoc]
  rw [cutBytes, if_pos ⟨Nat.le_add_right _ _, begins, ends⟩]
  have extracted := String.extract_of_valid before middle after
  simp only [byteCount, String.utf8ByteSize_ofList, ← List.append_assoc]
  rw [extracted]

/-- The first characters of a text can be cut off. -/
theorem cutBytes_before (before after : List Char) :
    cutBytes (String.ofList (before ++ after)) 0 (byteCount before) =
      .ok (String.ofList before) := by
  have whole := cutBytes_append [] before after
  simpa [byteCount] using whole

/-- So can the last. -/
theorem cutBytes_behind (before after : List Char) :
    cutBytes (String.ofList (before ++ after)) (byteCount before)
      (String.ofList (before ++ after)).utf8ByteSize = .ok (String.ofList after) := by
  have whole := cutBytes_append before after []
  rw [List.append_nil] at whole
  rw [← byteCount_append] at whole
  exact whole

/-- A text can be cut behind a character of one byte. -/
theorem cutBytes_past {c : Char} (one : byteCount [c] = 1) (before after : List Char) :
    cutBytes (String.ofList (before ++ c :: after)) (byteCount before + 1)
      (String.ofList (before ++ c :: after)).utf8ByteSize = .ok (String.ofList after) := by
  have whole : before ++ c :: after = (before ++ [c]) ++ after := by simp
  rw [whole, ← one, ← byteCount_append]
  exact cutBytes_behind (before ++ [c]) after

/-- And up to it, and with it. -/
theorem cutBytes_upTo {c : Char} (one : byteCount [c] = 1) (before after : List Char) :
    cutBytes (String.ofList (before ++ c :: after)) 0 (byteCount before) =
        .ok (String.ofList before) ∧
      cutBytes (String.ofList (before ++ c :: after)) 0 (byteCount before + 1) =
        .ok (String.ofList (before ++ [c])) := by
  refine ⟨cutBytes_before before (c :: after), ?_⟩
  have whole : before ++ c :: after = (before ++ [c]) ++ after := by simp
  rw [whole, ← one, ← byteCount_append]
  exact cutBytes_before (before ++ [c]) after

/-- What a span covers of a source, cut out by bytes. -/
def Span.cut (span : Span) (source : String) : Except Mishap String :=
  if span.stop ≤ source.toList.length then
    cutBytes source (byteOffset source.toList span.start) (byteOffset source.toList span.stop)
  else .error .cut

/-- A span in bounds can be cut. -/
theorem Span.InBounds.cut_eq {span : Span} {source : String}
    (inBounds : span.InBounds source.toList) :
    span.cut source = .ok (span.text source.toList) := by
  have upTo : source.toList.take span.stop =
      source.toList.take span.start ++ span.slice source.toList := by
    rw [Span.slice, ← List.take_add, Nat.add_sub_cancel' inBounds.order]
  have whole : source = String.ofList (source.toList.take span.start ++
      (span.slice source.toList ++ source.toList.drop span.stop)) := by
    rw [← List.append_assoc, ← upTo, List.take_append_drop, String.ofList_toList]
  have ends : byteOffset source.toList span.stop =
      byteCount (source.toList.take span.start) + byteCount (span.slice source.toList) := by
    rw [← byteCount_append, ← upTo]
    rfl
  have inside := cutBytes_append (source.toList.take span.start) (span.slice source.toList)
    (source.toList.drop span.stop)
  rw [← whole, ← ends] at inside
  rw [cut, if_pos inBounds.inside]
  exact inside

section Paths

/-- The byte that the last separator of a path begins at. -/
def lastSeparator? (characters : List Char) : Option Nat :=
  let file := characters.reverse.takeWhile fun c => !TemplateName.isSeparator c
  if file.length = characters.length then none
  else some (byteCount (characters.take (characters.length - file.length - 1)))

/-- What follows the last slash or backslash, cut out by bytes. -/
def Filter.stripPathCut (value : Value) : Except Mishap Value :=
  match value.datum with
  | .text s =>
    match lastSeparator? s.toList with
    | some sign => do return .text (← cutBytes s (sign + 1) s.utf8ByteSize)
    | none => .ok value
  | _ => .ok value

/-- The filter cuts a path behind a separator, which is a boundary of characters. -/
theorem Filter.stripPathCut_eq (value : Value) :
    stripPathCut value = .ok (stripPath value) := by
  obtain ⟨datum, raw⟩ := value
  cases datum with
  | text s =>
    obtain ⟨characters, rfl⟩ := s.exists_eq_ofList
    have same : (fun c : Char => !TemplateName.isSeparator c) = fun c => c ≠ '/' && c ≠ '\\' := by
      funext c
      simp [TemplateName.isSeparator]
    simp only [stripPathCut, stripPath, lastSeparator?, String.toList_ofList, ← same]
    by_cases whole : (characters.reverse.takeWhile fun c => !TemplateName.isSeparator c).length =
        characters.length
    · rw [if_pos whole, if_pos whole]
    · rw [if_neg whole, if_neg whole]
      have parted := List.takeWhile_append_dropWhile (p := fun c => !TemplateName.isSeparator c)
        (l := characters.reverse)
      cases rest : characters.reverse.dropWhile fun c => !TemplateName.isSeparator c with
      | nil =>
        rw [rest, List.append_nil] at parted
        exact absurd (by rw [parted, List.length_reverse]) whole
      | cons sign others =>
        have separates : TemplateName.isSeparator sign = true := by
          have stops := List.head_dropWhile_not (fun c => !TemplateName.isSeparator c)
            (l := characters.reverse) (by simp [rest])
          simpa [rest] using stops
        generalize (characters.reverse.takeWhile fun c => !TemplateName.isSeparator c) = file at *
        have split : characters = others.reverse ++ sign :: file.reverse := by
          rw [rest] at parted
          have turned := congrArg List.reverse parted
          simpa using turned.symm
        have front : characters.take (characters.length - file.length - 1) = others.reverse := by
          have total : characters.length = others.length + (file.length + 1) := by simp [split]
          have count : characters.length - file.length - 1 = others.reverse.length := by
            rw [total, List.length_reverse]
            omega
          rw [count, split, List.take_left]
        have one : byteCount [sign] = 1 := by
          have either : sign = '/' ∨ sign = '\\' := by
            simpa [TemplateName.isSeparator] using separates
          rcases either with rfl | rfl <;> rfl
        have cut := cutBytes_past one others.reverse file.reverse
        rw [← split] at cut
        simp only [front, cut]
        rfl
  | _ => rfl

end Paths

section Patterns

/-- Two texts are written one after the other, or as one. -/
theorem Run.write_append (first second : String) :
    Run.write (first ++ second) = (do Run.write first; Run.write second) := by
  funext world
  rw [Run.bind_apply]
  simp only [Run.write, Sink.write_append]
  cases taken : (world.sink.write first).1 <;> simp [taken]

/-- Digits take one byte each. -/
theorem byteCount_digits {digits : List Char} (all : ∀ c ∈ digits, Text.isDigit c = true) :
    byteCount digits = digits.length := by
  induction digits with
  | nil => rfl
  | cons c rest inductionHypothesis =>
    obtain ⟨digit, others⟩ := List.forall_mem_cons.mp all
    have one : byteCount [c] = 1 := by
      have small : c.val ≤ 127 := by
        have upTo : c ≤ '9' := by simpa using (Bool.and_eq_true_iff.mp digit).2
        exact UInt32.le_trans upTo (by decide)
      simp [byteCount, Char.utf8Size, small]
    have parted : byteCount (c :: rest) = byteCount [c] + byteCount rest :=
      byteCount_append [c] rest
    rw [parted, one, inductionHypothesis others, List.length_cons, Nat.add_comm]

namespace PatternPart

/-- The byte that the first at sign of a text begins at. -/
def sign? (characters : List Char) : Option Nat :=
  if '@' ∈ characters then some (byteCount (characters.takeWhile (· ≠ '@'))) else none

/-- The parts of a pattern, cut out by bytes. A sign without digits ends a text. Every cut leaves
less of the pattern, so a bound of more than its characters is never met. -/
def cutParts : Nat → String → Except Mishap (List PatternPart)
  | 0, _ => .error .cut
  | bound + 1, rest =>
    match sign? rest.toList with
    | none => .ok [text rest.toList]
    | some sign => do
      let behind ← cutBytes rest (sign + 1) rest.utf8ByteSize
      let digits := (behind.toList.takeWhile Text.isDigit).length
      if digits = 0 then
        let before ← cutBytes rest 0 (sign + 1)
        return text before.toList :: (← cutParts bound behind)
      else
        let before ← cutBytes rest 0 sign
        let number ← cutBytes rest (sign + 1) (sign + 1 + digits)
        let onward ← cutBytes rest (sign + 1 + digits) rest.utf8ByteSize
        return text before.toList :: marker (Text.digitsValue number.toList) ::
          (← cutParts bound onward)

/-- Parts are alike if the same is written and executed for them. -/
def Alike (first second : List PatternPart) : Prop :=
  ∀ name items body, eachMarker name items body first = eachMarker name items body second

/-- The same part may come before parts that are alike. -/
theorem Alike.cons {first second : List PatternPart} (alike : Alike first second)
    (part : PatternPart) : Alike (part :: first) (part :: second) := by
  intro name items body
  cases part with
  | text content => simp only [eachMarker, alike name items body]
  | marker number => simp only [eachMarker, alike name items body]

/-- It does not matter where a text is parted. -/
theorem alike_text (first second : List Char) (rest : List PatternPart) :
    Alike (text (first ++ second) :: rest) (text first :: text second :: rest) := by
  intro name items body
  simp only [eachMarker, String.ofList_append, Run.write_append, bind_assoc]

/-- Runs are not changed by what stands before the first sign. -/
theorem splitOn_sign {before : List Char} (free : '@' ∉ before) (behind : List Char) :
    splitOn (· = '@') (before ++ '@' :: behind) = before :: splitOn (· = '@') behind := by
  apply splitOn_run
  · intro c member
    simpa using fun same : c = '@' => free (same ▸ member)
  · rfl

/-- The parts of a pattern with a sign. -/
theorem parts_sign {before : List Char} (free : '@' ∉ before) (behind : List Char) :
    parts (before ++ '@' :: behind) =
      text before :: (splitOn (· = '@') behind).flatMap ofRun := by
  rw [parts, splitOn_sign free]

/-- A text without signs is its own part. -/
theorem parts_of_not_mem {pattern : List Char} (free : '@' ∉ pattern) :
    parts pattern = [text pattern] := by
  have one : splitOn (· = '@') pattern = [pattern] := by
    apply splitOn_of_pure
    intro c member
    simpa using fun same : c = '@' => free (same ▸ member)
  rw [parts, one]
  rfl

/-- Digits at the beginning stand before the first sign. -/
theorem exists_run (behind : List Char) :
    ∃ first runs, splitOn (· = '@') behind = first :: runs ∧
      first.takeWhile Text.isDigit = behind.takeWhile Text.isDigit ∧
      splitOn (· = '@') (behind.dropWhile Text.isDigit) =
        first.dropWhile Text.isDigit :: runs := by
  induction behind with
  | nil => exact ⟨[], [], rfl, rfl, rfl⟩
  | cons c rest inductionHypothesis =>
    obtain ⟨first, runs, split, digits, onward⟩ := inductionHypothesis
    by_cases sign : c = '@'
    · subst sign
      have notDigit : Text.isDigit '@' = false := by decide
      refine ⟨[], splitOn (· = '@') rest, by simp [splitOn], ?_, ?_⟩
      · rw [List.takeWhile_cons, notDigit]
        rfl
      · rw [List.dropWhile_cons, notDigit]
        simp [splitOn]
    · by_cases digit : Text.isDigit c = true
      · refine ⟨c :: first, runs, ?_, ?_, ?_⟩ <;> simp [splitOn, sign, digit, split, digits, onward]
      · have extended : splitOn (· = '@') (c :: rest) = (c :: first) :: runs := by
          simp [splitOn, sign, split]
        refine ⟨c :: first, runs, extended, by simp [digit], ?_⟩
        rw [List.dropWhile_cons, List.dropWhile_cons, if_neg digit, if_neg digit, extended]

/-- The first sign of a text. -/
theorem sign?_append {before : List Char} (free : '@' ∉ before) (behind : List Char) :
    sign? (before ++ '@' :: behind) = some (byteCount before) := by
  have ends : (before ++ '@' :: behind).takeWhile (· ≠ '@') = before := by
    rw [List.takeWhile_append_of_pos]
    · simp
    · intro c member
      simpa using fun same : c = '@' => free (same ▸ member)
  rw [sign?, if_pos (by simp), ends]

section

variable {bound : Nat} {before behind : List Char}

/-- A text without signs is one part. -/
theorem cutParts_of_not_mem {pattern : List Char} (free : '@' ∉ pattern) :
    cutParts (bound + 1) (String.ofList pattern) = .ok [text pattern] := by
  simp [cutParts, sign?, free]

/-- At a sign without digits a pattern is cut behind the sign. -/
theorem cutParts_bare (free : '@' ∉ before) (bare : behind.takeWhile Text.isDigit = []) :
    cutParts (bound + 1) (String.ofList (before ++ '@' :: behind)) = do
      return text (before ++ ['@']) :: (← cutParts bound (String.ofList behind)) := by
  have sign : byteCount ['@'] = 1 := rfl
  simp only [cutParts, String.toList_ofList, sign?_append free, cutBytes_past sign, bind_ok, bare,
    List.length_nil, if_true, (cutBytes_upTo sign before behind).2]

/-- At a marker it is cut before the sign, and before and behind the digits. -/
theorem cutParts_marker (free : '@' ∉ before) (some : behind.takeWhile Text.isDigit ≠ []) :
    cutParts (bound + 1) (String.ofList (before ++ '@' :: behind)) = do
      return text before :: marker (Text.digitsValue (behind.takeWhile Text.isDigit)) ::
        (← cutParts bound (String.ofList (behind.dropWhile Text.isDigit))) := by
  have sign : byteCount ['@'] = 1 := rfl
  have count : (behind.takeWhile Text.isDigit).length ≠ 0 := by simpa using some
  have digits : byteCount (behind.takeWhile Text.isDigit) =
      (behind.takeWhile Text.isDigit).length :=
    byteCount_digits fun c member => List.mem_takeWhile_imp member
  have past : byteCount (before ++ ['@']) = byteCount before + 1 := by
    rw [byteCount_append, sign]
  have whole : before ++ '@' :: behind = (before ++ ['@']) ++
      (behind.takeWhile Text.isDigit ++ behind.dropWhile Text.isDigit) := by
    rw [List.takeWhile_append_dropWhile]
    simp
  have number := cutBytes_append (before ++ ['@']) (behind.takeWhile Text.isDigit)
    (behind.dropWhile Text.isDigit)
  have onward := cutBytes_behind ((before ++ ['@']) ++ behind.takeWhile Text.isDigit)
    (behind.dropWhile Text.isDigit)
  rw [← whole, past, digits] at number
  rw [List.append_assoc, ← whole, byteCount_append, past, digits] at onward
  simp only [cutParts, String.toList_ofList, sign?_append free, cutBytes_past sign, bind_ok,
    if_neg count, (cutBytes_upTo sign before behind).1, number, onward]

/-- The parts of a pattern with a sign but no digits behind it. -/
theorem parts_bare (free : '@' ∉ before) (bare : behind.takeWhile Text.isDigit = []) :
    Alike (text (before ++ ['@']) :: parts behind) (parts (before ++ '@' :: behind)) := by
  obtain ⟨first, runs, split, digits, onward⟩ := exists_run behind
  have whole : parts (before ++ '@' :: behind) =
      text before :: text (['@'] ++ first) :: runs.flatMap ofRun := by
    rw [parts_sign free, split, List.flatMap_cons, ofRun, digits, bare]
    rfl
  have later : parts behind = text first :: runs.flatMap ofRun := by rw [parts, split]
  rw [whole, later]
  intro name items body
  rw [(alike_text ['@'] first _).cons (text before) name items body,
    alike_text before ['@'] _ name items body]

/-- The parts of a pattern with a marker. -/
theorem parts_marker (free : '@' ∉ before) (some : behind.takeWhile Text.isDigit ≠ []) :
    parts (before ++ '@' :: behind) =
      text before :: marker (Text.digitsValue (behind.takeWhile Text.isDigit)) ::
        parts (behind.dropWhile Text.isDigit) := by
  obtain ⟨first, runs, split, digits, onward⟩ := exists_run behind
  have later : parts (behind.dropWhile Text.isDigit) =
      text (first.dropWhile Text.isDigit) :: runs.flatMap ofRun := by
    rw [parts, onward]
  rw [parts_sign free, split, later, List.flatMap_cons, ofRun, digits]
  cases number : behind.takeWhile Text.isDigit with
  | nil => exact absurd number some
  | cons c rest => rfl

end

/-- A pattern can be cut into its parts. -/
theorem cutParts_alike {bound : Nat} {pattern : List Char} (enough : pattern.length < bound) :
    ∃ found, cutParts bound (String.ofList pattern) = .ok found ∧ Alike found (parts pattern) := by
  induction bound generalizing pattern with
  | zero => omega
  | succ bound inductionHypothesis =>
    by_cases signed : '@' ∈ pattern
    · obtain ⟨before, behind, rfl, free⟩ := List.eq_append_cons_of_mem signed
      have shorter : behind.length < bound := by
        rw [List.length_append, List.length_cons] at enough
        omega
      by_cases bare : behind.takeWhile Text.isDigit = []
      · obtain ⟨found, cut, alike⟩ := inductionHypothesis shorter
        refine ⟨text (before ++ ['@']) :: found, ?_, ?_⟩
        · rw [cutParts_bare free bare, cut]
          rfl
        · intro name items body
          rw [alike.cons (text (before ++ ['@'])) name items body,
            parts_bare free bare name items body]
      · have left : (behind.dropWhile Text.isDigit).length < bound :=
          Nat.lt_of_le_of_lt (List.dropWhile_sublist _).length_le shorter
        obtain ⟨found, cut, alike⟩ := inductionHypothesis left
        refine ⟨text before :: marker (Text.digitsValue (behind.takeWhile Text.isDigit)) :: found,
          ?_, ?_⟩
        · rw [cutParts_marker free bare, cut]
          rfl
        · rw [parts_marker free bare]
          exact (alike.cons _).cons _
    · refine ⟨[text pattern], cutParts_of_not_mem signed, ?_⟩
      rw [parts_of_not_mem signed]
      intro name items body
      rfl

end PatternPart

end Patterns

end Stencil
