import Stencil.Proofs.Printing.Lexing
import Stencil.Proofs.Safety.Slices
import Stencil.Proofs.Writing

/-!
# Markers are filled in

A pattern reads as a sequence of units: markers, which are at signs with as many digits as
there are, at least one, and single characters. Every pattern reads in one way, and its units
spell it out. The tag writes the characters as they are, and for each marker what its body
writes for the item at the number of the marker.
-/

namespace Stencil

/-- A unit of a pattern. -/
inductive PatternUnit where
  | plain (c : Char)
  | marker (digits : List Char)

namespace PatternUnit

/-- A number ends where no digit comes next. -/
abbrev EndsNumber (rest : List Char) : Prop := Text.begins Text.isDigit rest = false

/-- A pattern is read from the left. A marker takes all digits that there are; an at sign
without digits is a character like others. -/
inductive Reads : List Char → List PatternUnit → Prop
  | done : Reads [] []
  | plain {c : Char} {rest : List Char} {units : List PatternUnit} :
    (c = '@' → EndsNumber rest) → Reads rest units → Reads (c :: rest) (.plain c :: units)
  | marker {digits rest : List Char} {units : List PatternUnit} :
    digits ≠ [] → (∀ c ∈ digits, Text.isDigit c = true) → EndsNumber rest → Reads rest units →
      Reads ('@' :: (digits ++ rest)) (.marker digits :: units)

/-- The characters of a unit. -/
def spelled : PatternUnit → List Char
  | plain c => [c]
  | marker digits => '@' :: digits

/-- The text that comes of a pattern: characters are written as they are. For a marker the
body is executed, with the item of its number in a scope of its own; nothing is done for a
number that no item has. -/
inductive Fills (name : String) (items : List Value) (body : Run Unit) :
    List PatternUnit → World → String → World → Prop
  | done (world : World) : Fills name items body [] world "" world
  | plain {c : Char} {rest : List PatternUnit} {before after : World} {text : String} :
    Fills name items body rest before text after →
      Fills name items body (.plain c :: rest) before (String.singleton c ++ text) after
  | filled {digits : List Char} {item : Value} {rest : List PatternUnit}
    {before middle after : World} {filling text : String} :
    items[Text.digitsValue digits]? = some item →
      (Run.inScope [(name, item)] body).Writes before filling middle →
        Fills name items body rest middle text after →
          Fills name items body (.marker digits :: rest) before (filling ++ text) after
  | vacant {digits : List Char} {rest : List PatternUnit} {before after : World}
    {text : String} :
    items.length ≤ Text.digitsValue digits → Fills name items body rest before text after →
      Fills name items body (.marker digits :: rest) before text after

/-- What is left behind the digits begins with none. -/
theorem endsNumber_dropWhile (behind : List Char) :
    EndsNumber (behind.dropWhile Text.isDigit) := by
  have stops := List.head?_dropWhile_not Text.isDigit behind
  cases first : (behind.dropWhile Text.isDigit).head? with
  | none => rw [EndsNumber, Text.begins, first, Option.any_none]
  | some c =>
    rw [first] at stops
    rw [EndsNumber, Text.begins, first, Option.any_some, stops]

/-- Digits up to where the number ends are what is taken. -/
theorem takeWhile_digits {digits rest : List Char}
    (all : ∀ c ∈ digits, Text.isDigit c = true) (ends : EndsNumber rest) :
    (digits ++ rest).takeWhile Text.isDigit = digits ∧
      (digits ++ rest).dropWhile Text.isDigit = rest := by
  have taken := Text.takeWhile_run all ends
  have whole := List.takeWhile_append_dropWhile (p := Text.isDigit) (l := digits ++ rest)
  rw [taken] at whole
  exact ⟨taken, List.append_cancel_left whole⟩

/-- Where a number ends there are no digits to take. -/
theorem EndsNumber.takeWhile_eq {rest : List Char} (ends : EndsNumber rest) :
    rest.takeWhile Text.isDigit = [] := by
  have none : ∀ c ∈ ([] : List Char), Text.isDigit c = true := fun _ member => nomatch member
  simpa using (takeWhile_digits none ends).1

/-- No number ends where digits follow. -/
theorem not_endsNumber_append {digits rest : List Char} (some : digits ≠ [])
    (all : ∀ c ∈ digits, Text.isDigit c = true) : ¬ EndsNumber (digits ++ rest) := by
  obtain ⟨digit, others, rfl⟩ := List.exists_cons_of_ne_nil some
  have begins : Text.begins Text.isDigit (digit :: (others ++ rest)) = true := by
    rw [Text.begins, List.head?_cons, Option.any_some]
    exact all digit List.mem_cons_self
  simp [EndsNumber, begins]

/-- Where a number does not end there are digits to take. -/
theorem takeWhile_ne_nil {rest : List Char} (numbered : ¬ EndsNumber rest) :
    rest.takeWhile Text.isDigit ≠ [] := by
  intro none
  have whole := List.takeWhile_append_dropWhile (p := Text.isDigit) (l := rest)
  rw [none, List.nil_append] at whole
  exact numbered (whole ▸ endsNumber_dropWhile rest)

/-- Every pattern can be read. -/
theorem exists_reads (pattern : List Char) : ∃ units, Reads pattern units := by
  -- A marker takes several characters at once, so the induction is on their number.
  induction count : pattern.length using Nat.strongRecOn generalizing pattern with
  | ind length inductionHypothesis =>
    cases pattern with
    | nil => exact ⟨[], .done⟩
    | cons c rest =>
      have shorter : rest.length < length := by simp [← count]
      by_cases bare : c = '@' → EndsNumber rest
      · obtain ⟨units, reads⟩ := inductionHypothesis rest.length shorter rest rfl
        exact ⟨_, .plain bare reads⟩
      · obtain ⟨rfl, numbered⟩ := Classical.not_imp.mp bare
        have left : (rest.dropWhile Text.isDigit).length < length :=
          Nat.lt_of_le_of_lt (List.dropWhile_sublist _).length_le shorter
        obtain ⟨units, reads⟩ := inductionHypothesis _ left _ rfl
        refine ⟨.marker (rest.takeWhile Text.isDigit) :: units, ?_⟩
        have read := Reads.marker (takeWhile_ne_nil numbered)
          (fun _ member => List.mem_takeWhile_imp member) (endsNumber_dropWhile rest) reads
        rwa [List.takeWhile_append_dropWhile] at read

/-- A pattern reads in one way only. -/
theorem Reads.unique {pattern : List Char} {units others : List PatternUnit}
    (reads : Reads pattern units) (readsToo : Reads pattern others) : units = others := by
  induction reads generalizing others with
  | done =>
    cases readsToo
    rfl
  | plain bare _ inductionHypothesis =>
    cases readsToo with
    | plain _ readsToo => rw [inductionHypothesis readsToo]
    | marker some all _ _ => exact absurd (bare rfl) (not_endsNumber_append some all)
  | @marker digits rest units some all ends _ inductionHypothesis =>
    generalize whole : '@' :: (digits ++ rest) = pattern at readsToo
    cases readsToo with
    | done => cases whole
    | plain bare _ =>
      obtain ⟨rfl, rfl⟩ := List.cons.inj whole
      exact absurd (bare rfl) (not_endsNumber_append some all)
    | @marker digitsToo restToo _ _ allToo endsToo readsToo =>
      have same : digits ++ rest = digitsToo ++ restToo := (List.cons.inj whole).2
      obtain ⟨taken, left⟩ := takeWhile_digits all ends
      obtain ⟨takenToo, leftToo⟩ := takeWhile_digits allToo endsToo
      rw [same] at taken left
      obtain rfl : digitsToo = digits := takenToo.symm.trans taken
      obtain rfl : restToo = rest := leftToo.symm.trans left
      rw [inductionHypothesis readsToo]

/-- The units spell the pattern. -/
theorem Reads.spelled_eq {pattern : List Char} {units : List PatternUnit}
    (reads : Reads pattern units) : units.flatMap spelled = pattern := by
  induction reads with
  | done => rfl
  | plain _ _ inductionHypothesis => rw [List.flatMap_cons, inductionHypothesis]; rfl
  | marker _ _ _ _ inductionHypothesis => rw [List.flatMap_cons, inductionHypothesis]; rfl

end PatternUnit

namespace PatternPart

/-- A character by itself may be a part of its own. -/
theorem parts_plain {c : Char} {rest : List Char}
    (bare : c = '@' → PatternUnit.EndsNumber rest) :
    Alike (text [c] :: parts rest) (parts (c :: rest)) := by
  by_cases sign : c = '@'
  · subst sign
    have first : '@' ∉ ([] : List Char) := List.not_mem_nil
    have alike := parts_bare first (bare rfl).takeWhile_eq
    rwa [List.nil_append, List.nil_append] at alike
  · obtain ⟨first, runs, split, -, -⟩ := exists_run rest
    have whole : parts (c :: rest) = text ([c] ++ first) :: runs.flatMap ofRun := by
      simp [parts, splitOn, sign, split]
    have later : parts rest = text first :: runs.flatMap ofRun := by rw [parts, split]
    rw [whole, later]
    exact fun name items body => (alike_text [c] first _ name items body).symm

/-- An empty text adds nothing. -/
theorem alike_empty (rest : List PatternPart) : Alike (text [] :: rest) rest := by
  intro name items body
  have nothing : Run.write (String.ofList []) = pure () := by
    funext world
    simp only [Run.write, String.ofList_nil, Sink.write_empty]
    rfl
  rw [eachMarker, nothing, pure_bind]

/-- The parts of a pattern that begins with a marker. -/
theorem parts_marker_append {digits rest : List Char} (some : digits ≠ [])
    (all : ∀ c ∈ digits, Text.isDigit c = true) (ends : PatternUnit.EndsNumber rest) :
    Alike (parts ('@' :: (digits ++ rest)))
      (marker (Text.digitsValue digits) :: parts rest) := by
  obtain ⟨taken, left⟩ := PatternUnit.takeWhile_digits all ends
  have first : '@' ∉ ([] : List Char) := List.not_mem_nil
  have numbered : (digits ++ rest).takeWhile Text.isDigit ≠ [] := by rwa [taken]
  have parted := parts_marker first numbered
  rw [taken, left, List.nil_append] at parted
  exact parted ▸ alike_empty _

end PatternPart

section

variable {name : String} {items : List Value} {inside : Run Unit} {before after : World}
  {text : String} (streams : Run.Streams (fun _ => True) inside)
include streams

/-- The parts of a pattern are written the same to every sink. -/
theorem streams_eachMarker (parts : List PatternPart) :
    Run.Streams (fun _ => True) (eachMarker name items inside parts) := by
  have keeps : streaming.keeps () (fun _ => True) (eachMarker name items inside parts)
      (eachMarker name items inside parts) :=
    streaming_sound.eachMarker name items (fun _ _ => trivial) (fun _ _ => streams) parts
      (fun _ _ => trivial)
  exact keeps

/-- A text of a pattern is written before the parts behind it. -/
theorem writes_text_iff (content : List Char) (rest : List PatternPart) :
    (eachMarker name items inside (.text content :: rest)).Writes before text after ↔
      ∃ later, (eachMarker name items inside rest).Writes before later after ∧
        text = String.ofList content ++ later := by
  rw [eachMarker, Run.writes_seq_iff (.write _) (streams_eachMarker streams rest)]
  constructor
  · rintro ⟨begun, middle, later, written, writes, rfl⟩
    obtain ⟨rfl, rfl⟩ := (Run.writes_write_iff _).mp written
    exact ⟨later, writes, rfl⟩
  · rintro ⟨later, writes, rfl⟩
    exact ⟨_, _, later, (Run.writes_write_iff _).mpr ⟨rfl, rfl⟩, writes, rfl⟩

/-- For a marker the body is executed before the parts behind it. -/
theorem writes_marker_iff {number : Nat} {item : Value} (found : items[number]? = some item)
    (rest : List PatternPart) :
    (eachMarker name items inside (.marker number :: rest)).Writes before text after ↔
      ∃ filling middle later, (Run.inScope [(name, item)] inside).Writes before filling middle ∧
        (eachMarker name items inside rest).Writes middle later after ∧
        text = filling ++ later := by
  rw [eachMarker, found]
  exact Run.writes_seq_iff (streams.inScope _) (streams_eachMarker streams rest)

/-- What comes of a pattern is what its units are filled with. -/
theorem writes_parts_iff {pattern : List Char} {units : List PatternUnit}
    (reads : PatternUnit.Reads pattern units) :
    (eachMarker name items inside (PatternPart.parts pattern)).Writes before text after ↔
      PatternUnit.Fills name items inside units before text after := by
  induction reads generalizing before text with
  | done =>
    rw [PatternPart.parts_of_not_mem (by simp), writes_text_iff streams, eachMarker]
    constructor
    · rintro ⟨later, writes, rfl⟩
      obtain ⟨rfl, rfl⟩ := Run.writes_pure_iff.mp writes
      exact .done _
    · intro fills
      cases fills
      exact ⟨"", Run.writes_pure_iff.mpr ⟨rfl, rfl⟩, rfl⟩
  | plain bare _ inductionHypothesis =>
    rw [← PatternPart.parts_plain bare name items inside, writes_text_iff streams]
    constructor
    · rintro ⟨later, writes, rfl⟩
      exact .plain (inductionHypothesis.mp writes)
    · intro fills
      cases fills with
      | plain onward => exact ⟨_, inductionHypothesis.mpr onward, rfl⟩
  | @marker digits rest units some all ends _ inductionHypothesis =>
    rw [PatternPart.parts_marker_append some all ends name items inside]
    cases found : items[Text.digitsValue digits]? with
    | none =>
      have beyond : items.length ≤ Text.digitsValue digits := List.getElem?_eq_none_iff.mp found
      rw [eachMarker, found]
      constructor
      · exact fun writes => .vacant beyond (inductionHypothesis.mp writes)
      · intro fills
        cases fills with
        | filled isItem _ _ => cases found.symm.trans isItem
        | vacant _ onward => exact inductionHypothesis.mpr onward
    | some item =>
      rw [writes_marker_iff streams found]
      constructor
      · rintro ⟨filling, middle, later, writes, onward, rfl⟩
        exact .filled found writes (inductionHypothesis.mp onward)
      · intro fills
        cases fills with
        | filled isItem writes onward =>
          cases found.symm.trans isItem
          exact ⟨_, _, _, writes, inductionHypothesis.mpr onward, rfl⟩
        | vacant beyond _ => cases found.symm.trans (List.getElem?_eq_none_iff.mpr beyond)

omit streams in
/-- If the body succeeds for every item then there is something to fill the units with. -/
theorem exists_fills
    (succeeds : ∀ item ∈ items, ∀ world, ∃ text after,
      (Run.inScope [(name, item)] inside).Writes world text after)
    (units : List PatternUnit) (before : World) :
    ∃ text after, PatternUnit.Fills name items inside units before text after := by
  induction units generalizing before with
  | nil => exact ⟨"", before, .done before⟩
  | cons unit rest inductionHypothesis =>
    cases unit with
    | plain c =>
      obtain ⟨text, after, fills⟩ := inductionHypothesis before
      exact ⟨_, after, .plain fills⟩
    | marker digits =>
      cases found : items[Text.digitsValue digits]? with
      | none =>
        obtain ⟨text, after, fills⟩ := inductionHypothesis before
        exact ⟨text, after, .vacant (List.getElem?_eq_none_iff.mp found) fills⟩
      | some item =>
        obtain ⟨filling, middle, writes⟩ :=
          succeeds item (List.mem_of_getElem? found) before
        obtain ⟨text, after, fills⟩ := inductionHypothesis middle
        exact ⟨_, after, .filled found writes fills⟩

end

/-- The items and the pattern of a tag with markers. -/
def markedPattern (items pattern : Expr) : Run (List Value × String) := do
  let items := (← Run.evaluate items).elements
  let pattern ← Run.evaluateText pattern
  return (items, pattern)

/-- What the tag needs to find them does not touch the sink. -/
theorem silent_markedPattern (items pattern : Expr) :
    Run.Silent (fun _ => True) (markedPattern items pattern) :=
  .of_good (fun _ _ => rfl) fun _ => ⟨_, rfl, trivial⟩

/-- A tag with markers finds its pattern, and goes through its parts. -/
theorem execute_markers (station : Station) (name : String) (items pattern : Expr)
    (body : List Stmt) (expand : Expansion) :
    (Stmt.within (.markers name items pattern) body).execute expand station = (do
      let (items, pattern) ← markedPattern items pattern
      eachMarker name items (executeAll expand station body)
        (PatternPart.parts pattern.toList)) := rfl

/-- A tag with markers fills in its pattern. The pattern reads in one way, as markers with as
many digits as there are and single characters, which spell it out. The tag writes the
characters as they are, in order, and for a marker what the body writes in a scope with the
item of that number, or nothing if there is none. Cut at its at signs, the pattern comes to an
end, and the pieces are written alike. If the body always succeeds then so does the tag. -/
theorem markers_fill_patterns (station : Station) (name : String) {items pattern : Expr}
    (body : List Stmt) (depth : Nat) {before opened : World} {found : List Value} {text : String}
    (finds : markedPattern items pattern before = (.ok (found, text), opened)) :
    let inside := executeAll (expand depth) station body
    let tag := (Stmt.within (.markers name items pattern) body).execute (expand depth) station
    (∃! units, PatternUnit.Reads text.toList units) ∧
    (∀ units, PatternUnit.Reads text.toList units →
      units.flatMap PatternUnit.spelled = text.toList ∧
      ∀ written after, tag.Writes before written after ↔
        PatternUnit.Fills name found inside units opened written after) ∧
    (∃ parts, PatternPart.cutParts (text.toList.length + 1) text = .ok parts ∧
      ∀ written after, tag.Writes before written after ↔
        (eachMarker name found inside parts).Writes opened written after) ∧
    ((∀ scope world, ∃ written after, (Run.inScope scope inside).Writes world written after) →
      ∃ written after, tag.Writes before written after) := by
  intro inside tag
  have streams : Run.Streams (fun _ => True) inside := streams_executeAll depth station body
  have goesOn : ∀ {written after}, tag.Writes before written after ↔
      (eachMarker name found inside (PatternPart.parts text.toList)).Writes opened written
        after := by
    intro written after
    rw [show tag = _ from execute_markers station name items pattern body (expand depth),
      Run.writes_bind_of_ok (silent_markedPattern items pattern) finds]
  obtain ⟨units, reads⟩ := PatternUnit.exists_reads text.toList
  obtain ⟨parts, cut, alike⟩ := PatternPart.cutParts_alike (Nat.lt_succ_self text.toList.length)
  rw [String.ofList_toList] at cut
  refine ⟨⟨units, reads, fun _ readsToo => readsToo.unique reads⟩, fun units reads => ?_, ?_, ?_⟩
  · exact ⟨reads.spelled_eq, fun _ _ => goesOn.trans (writes_parts_iff streams reads)⟩
  · exact ⟨parts, cut, fun _ _ => by rw [goesOn, alike name found inside]⟩
  · intro succeeds
    obtain ⟨written, after, fills⟩ :=
      exists_fills (fun item _ => succeeds [(name, item)]) units opened
    exact ⟨written, after, goesOn.mpr ((writes_parts_iff streams reads).mpr fills)⟩

namespace Marking

/-- Two items. -/
def items : List Value := [.text "p", .text "q"]

/-- A world with a list of them. -/
def world : World :=
  { (⟨.empty, .ofEntries [("l", .plain (.list 0 items))], .empty⟩ : Workshop) with
    turns := [], sink := .buffer "" }

/-- A pattern with an at sign before a marker, a number with a zero before it, a number that
is no word, and an at sign at its end. -/
def pattern : String := "@@0-@01é@99999999999999999999@"

/-- What is executed for a marker writes the item. -/
def body : List Stmt := [.output (.path ⟨"x", [], "x"⟩)]

/-- A tag that fills in the pattern. -/
def tag : Run Unit :=
  (Stmt.within (.markers "x" (.path ⟨"l", [], "l"⟩) (.literal (.text pattern))) body).execute
    (expand 1) (.start ⟨0, default⟩)

end Marking

/-- The markers among other at signs are filled in, and the others stay. -/
theorem markers_fill_signs : ∃ units after,
    PatternUnit.Reads Marking.pattern.toList units ∧
      PatternUnit.Fills "x" Marking.items
        (executeAll (expand 1) (.start ⟨0, default⟩) Marking.body) units Marking.world
        "@p-qé@" after := by
  have finds : markedPattern (.path ⟨"l", [], "l"⟩) (.literal (.text Marking.pattern))
      Marking.world = (.ok (Marking.items, Marking.pattern), Marking.world) := rfl
  have caught : (Run.capture Marking.tag Marking.world).1 = .ok "@p-qé@" := by decide +kernel
  have writes : Marking.tag.Writes Marking.world "@p-qé@"
      (Run.capture Marking.tag Marking.world).2 := Prod.ext caught rfl
  obtain ⟨⟨units, reads, -⟩, filled, -, -⟩ :=
    markers_fill_patterns (.start ⟨0, default⟩) "x" Marking.body 1 finds
  exact ⟨units, _, reads, ((filled units reads).2 _ _).mp writes⟩

end Stencil
