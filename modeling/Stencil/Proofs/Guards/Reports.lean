import Stencil.Proofs.Guards.Flaws
import Stencil.Proofs.Nests.Soundness

/-!
# Reports point into the source

Whatever is wrong with a template, what compiling reports is a flaw that points into its source:
flaws of the lexer, of the parser, and of the nesting.
-/

namespace Stencil

open Stencil.Parser

variable {setting : Setting}

/-- A whole expression points into the source. -/
theorem Expr.points_parse (sound : setting.Sound) : Expr.parse.Points setting fun _ => True := by
  constructor
  intro ahead stands
  have read := (Parser.points_bounded sound (ahead.length + 1)).result ahead stands
  simp only [Expr.parse, bind, Except.bind]
  cases found : Parser.bounded (ahead.length + 1) setting ahead with
  | error flaw =>
    rw [found] at read
    exact read
  | ok located =>
    rw [found] at read
    exact ⟨trivial, read.2⟩

namespace Tag

variable (sound : setting.Sound)

include sound

/-- So does a binding. -/
theorem points_binding : binding.Points setting fun _ => True := by
  apply (Points.expect sound _).bind
  intro name _
  apply (Points.expect sound _).bind
  intro _ _
  exact (Expr.points_parse sound).bind fun _ _ => .pure trivial

/-- So do bindings. -/
theorem points_bindings : bindings.Points setting fun _ => True := by
  apply (points_binding sound).bind
  intro first _
  have more (found : List Binding) :
      (binding >>= fun one => pure (some (one :: found))).Points setting fun later =>
        ∀ next, later = some next → True :=
    (points_binding sound).bind fun _ _ => .pure fun _ _ => trivial
  have gathered : (repeatedly (fun (found : List Binding) => do
      if ← takes .comma then return some ((← binding) :: found)
      else if ← isNext .name then return some ((← binding) :: found)
      else return none) [first]).Points setting fun _ => True := by
    apply Points.repeatedly trivial
    intro found _
    apply (Points.takes sound _).bind
    intro parted _
    split
    · exact more found
    · apply (Points.isNext sound _).bind
      intro named _
      split
      · exact more found
      · exact .pure nofun
  exact gathered.bind fun _ _ => .pure trivial

/-- So do the items of a cycle. -/
theorem points_items : items.Points setting fun _ => True := by
  have more (found : List Expr) :
      (Expr.parse >>= fun one => pure (some (one :: found))).Points setting fun later =>
        ∀ next, later = some next → True :=
    (Expr.points_parse sound).bind fun _ _ => .pure fun _ _ => trivial
  have gathered : (repeatedly (fun (found : List Expr) => do
      if ← takes .comma then return some ((← Expr.parse) :: found)
      else if ← isNext (.closing .tag) then return none
      else return some ((← Expr.parse) :: found)) []).Points setting fun _ => True := by
    apply Points.repeatedly trivial
    intro found _
    apply (Points.takes sound _).bind
    intro parted _
    split
    · exact more found
    · apply (Points.isNext sound _).bind
      intro beyond _
      split
      · exact .pure nofun
      · exact more found
  exact gathered.bind fun _ _ => .pure trivial

/-- So does the direction of a range. -/
theorem points_direction : direction.Points setting fun _ => True := by
  apply (Points.next sound _).bind
  intro found stands
  split
  · exact .pure trivial
  · split
    · exact .pure trivial
    · exact .fail stands.inBounds

/-- So does the head of a range. -/
theorem points_range : range.Points setting fun _ => True := by
  apply (Points.expect sound _).bind
  intro name _
  apply (Points.expectWord sound _).bind
  intro _ _
  apply (Expr.points_parse sound).bind
  intro first _
  apply (points_direction sound).bind
  intro down _
  apply (Expr.points_parse sound).bind
  intro last _
  apply (Points.takesWord sound _).bind
  intro stepped _
  dsimp only
  split
  · have step : (some <$> Expr.parse).Points setting fun _ => True :=
      (Expr.points_parse sound).map fun _ _ => trivial
    exact step.bind fun _ _ => .pure trivial
  · exact .pure trivial

/-- So does the head of a loop. -/
theorem points_loopHead : loopHead.Points setting fun _ => True := by
  apply (Points.expect sound _).bind
  intro name _
  apply (Points.expectWord sound _).bind
  intro _ _
  apply (Expr.points_parse sound).bind
  intro items _
  exact (Points.takesWord sound _).bind fun _ _ => .pure trivial

/-- So does the head of a markers region. -/
theorem points_markers : markers.Points setting fun _ => True := by
  apply (Points.expect sound _).bind
  intro name _
  apply (Points.expectWord sound _).bind
  intro _ _
  apply (Expr.points_parse sound).bind
  intro items _
  apply (Points.expectWord sound _).bind
  intro _ _
  exact (Expr.points_parse sound).bind fun _ _ => .pure trivial

/-- So does what a word starts. -/
theorem points_ofWord {word : String} {tag : Parser Tag} (known : ofWord? word = some tag) :
    tag.Points setting fun _ => True := by
  have expressed {change : Expr → Tag} : (change <$> Expr.parse).Points setting fun _ => True :=
    (Expr.points_parse sound).map fun _ _ => trivial
  unfold ofWord? at known
  split at known
  all_goals cases known
  case h_1 | h_2 | h_7 => exact expressed
  case h_3 | h_5 | h_10 | h_15 | h_18 => exact .pure trivial
  case h_4 => exact (points_loopHead sound).map fun _ _ => trivial
  case h_6 => exact (Points.expect sound _).bind fun _ _ => .pure trivial
  case h_8 =>
    apply (Expr.points_parse sound).bind
    intro target _
    apply (Points.takesWord sound _).bind
    intro bound _
    dsimp only
    split
    · exact (points_bindings sound).bind fun _ _ => .pure trivial
    · exact .pure trivial
  case h_9 => exact (points_bindings sound).bind fun _ _ => .pure trivial
  case h_11 =>
    apply (Expr.points_parse sound).bind
    intro first _
    exact (points_items sound).bind fun _ _ => .pure trivial
  case h_12 =>
    apply (Expr.points_parse sound).bind
    intro target _
    apply (Points.expectWord sound _).bind
    intro _ _
    exact (Expr.points_parse sound).bind fun _ _ => .pure trivial
  case h_13 => exact (Expr.points_parse sound).bind fun _ _ => .pure trivial
  case h_14 => exact (points_markers sound).map fun _ _ => trivial
  case h_16 => exact (points_binding sound).map fun _ _ => trivial
  case h_17 => exact (points_range sound).map fun _ _ => trivial

/-- So does a tag. -/
theorem points_parse : Tag.parse.Points setting fun _ => True := by
  apply (Points.expect sound _).bind
  intro word stands
  split
  · exact points_ofWord sound ‹_›
  · exact (Points.takes sound _).bind fun _ _ => .pure trivial
  · exact .pure trivial
  · exact .fail stands.inBounds

end Tag

/-- The tag of a piece stands in the source. -/
def Piece.StandsIn (source : List Char) : Piece → Prop
  | .tag _ span => span.InBounds source
  | _ => True

/-- A piece points into the source, and its tag stands there. -/
theorem Piece.points_parse (sound : setting.Sound) : Piece.parse.Points setting fun found =>
    ∀ piece, found = some (some piece) → piece.StandsIn setting.source := by
  apply (Points.peek sound).bind
  intro found stands
  split
  · exact .pure nofun
  · rename_i first
    have standsFirst := stands first rfl
    apply (Points.next sound _).bind
    intro _ _
    split
    · apply Points.pure
      rintro piece same
      cases same
      trivial
    · apply (Expr.points_parse sound).bind
      intro value _
      apply (Points.expect sound _).bind
      intro _ _
      apply Points.pure
      rintro piece same
      cases same
      trivial
    · apply (Tag.points_parse sound).bind
      intro tag _
      apply (Points.expect sound _).bind
      intro close closes
      apply Points.pure
      rintro piece same
      cases same
      exact standsFirst.inBounds.cover closes.inBounds
    · apply (Points.takes sound _).bind
      intro _ _
      exact (Points.expect sound _).bind fun _ _ => .pure nofun
    · exact .fail standsFirst.inBounds

/-- So do all pieces up to the first flaw, and that flaw. -/
theorem Piece.points_parseUpTo (sound : setting.Sound) (bound : Nat) {ahead : List Lexeme}
    (stands : ∀ lexeme ∈ ahead, lexeme.StandsIn setting.source) :
    (∀ piece ∈ (parseUpTo bound setting ahead).1, piece.StandsIn setting.source) ∧
      ∀ flaw, (parseUpTo bound setting ahead).2 = some flaw →
        flaw.span.InBounds setting.source := by
  induction bound generalizing ahead with
  | zero => exact ⟨nofun, nofun⟩
  | succ bound inductionHypothesis =>
    have read := (points_parse sound).result ahead stands
    rw [parseUpTo]
    split
    · rename_i flaw found
      rw [found] at read
      refine ⟨nofun, ?_⟩
      rintro other same
      cases same
      exact read
    · exact ⟨nofun, nofun⟩
    · rename_i piece rest found
      rw [found] at read
      have later := inductionHypothesis read.2
      refine ⟨?_, later.2⟩
      intro other member
      rcases List.mem_append.mp member with isFirst | isLater
      · exact read.1 other (by rw [Option.mem_toList.mp isFirst])
      · exact later.1 other isLater

namespace Nesting

variable {source : List Char} {nesting : Nesting}

/-- The tags of all open blocks stand in the source. -/
def StandsIn (source : List Char) (nesting : Nesting) : Prop :=
  ∀ span ∈ nesting.opened.map (·.span), span.InBounds source

/-- Where nesting goes on the tags of open blocks stand in the source; else it points there. -/
def Points (source : List Char) : Except Flaw Nesting → Prop
  | .ok nesting => nesting.StandsIn source
  | .error flaw => flaw.span.InBounds source

/-- Adding statements opens and closes no block. -/
@[simp] theorem spans_addAll (statements : List Stmt) :
    (statements.foldl add nesting).opened.map (·.span) = nesting.opened.map (·.span) := by
  rw [addAll_eq]
  obtain ⟨opened, body, blocks, inherits, cycles⟩ := nesting
  cases opened <;> rfl

/-- Adding a statement neither. -/
theorem StandsIn.add (stands : nesting.StandsIn source) (statement : Stmt) :
    (nesting.add statement).StandsIn source := by
  have same : (nesting.add statement).opened.map (·.span) = nesting.opened.map (·.span) :=
    spans_addAll [statement]
  rw [StandsIn, same]
  exact stands

/-- A block that is opened stands in the source. -/
theorem StandsIn.enter (stands : nesting.StandsIn source) (gathered : Gathered) {span : Span}
    (inBounds : span.InBounds source) : (nesting.enter gathered span).StandsIn source :=
  List.forall_mem_cons.mpr ⟨inBounds, stands⟩

/-- Another clause is started where its block stands. -/
theorem points_advance (stands : nesting.StandsIn source) {word : String} {span : Span}
    {onward : Gathered → List Stmt → Option Gathered} (inBounds : span.InBounds source) :
    Points source (nesting.advance word span onward) := by
  cases advanced : nesting.advance word span onward with
  | ok next =>
    obtain ⟨inner, outer, gathered, opened, _, rfl⟩ := advance_eq_ok advanced
    rw [StandsIn, opened] at stands
    exact stands
  | error flaw =>
    unfold advance at advanced
    split at advanced
    · cases advanced
      exact inBounds
    · split at advanced <;> cases advanced
      exact inBounds

/-- A block is closed, or pointed at. -/
theorem points_close (stands : nesting.StandsIn source) {kind : BlockKind} {span : Span}
    (inBounds : span.InBounds source) : Points source (nesting.close kind span) := by
  cases closed : nesting.close kind span with
  | ok next =>
    obtain ⟨inner, outer, opened, _, _, rfl⟩ := close_eq_ok closed
    rw [StandsIn, opened, List.map_cons, List.forall_mem_cons] at stands
    rw [Points, StandsIn, spans_addAll]
    exact stands.2
  | error flaw =>
    unfold close at closed
    split at closed
    · cases closed
      exact inBounds
    · rename_i inner outer opened
      rw [StandsIn, opened, List.map_cons, List.forall_mem_cons] at stands
      split at closed
      · cases closed
        exact inBounds
      · dsimp only at closed
        split at closed
        · split at closed <;> cases closed
          exact stands.1
        · cases closed

/-- A tag is placed, or pointed at. -/
theorem points_placeTag (stands : nesting.StandsIn source) (tag : Tag) {span : Span}
    (inBounds : span.InBounds source) : Points source (nesting.placeTag tag span) := by
  cases tag with
  | condition | loop | block | region => exact stands.enter _ inBounds
  | otherwiseIf | otherwise | empty =>
    simp only [placeTag]
    exact points_advance stands inBounds
  | close kind => exact points_close stands inBounds
  | inherit target =>
    simp only [placeTag]
    split
    · exact inBounds
    · have named : StandsIn source { nesting with inherits := true } := stands
      exact named.add _
  | insert | create | assign => exact stands.add _
  | cycle first others =>
    have counted : StandsIn source { nesting with cycles := nesting.cycles + 1 } := stands
    exact counted.add _

/-- A piece is placed, or pointed at. -/
theorem points_place (stands : nesting.StandsIn source) {piece : Piece}
    (there : piece.StandsIn source) : Points source (nesting.place piece) := by
  cases piece with
  | text | output => exact stands.add _
  | tag tag span => exact points_placeTag stands tag there

/-- So are all pieces. -/
theorem points_placeAll {pieces : List Piece} (stands : nesting.StandsIn source)
    (there : ∀ piece ∈ pieces, piece.StandsIn source) :
    Points source (pieces.foldlM place nesting) := by
  induction pieces generalizing nesting with
  | nil => exact stands
  | cons piece rest inductionHypothesis =>
    rw [List.forall_mem_cons] at there
    have first := points_place stands there.1
    rw [List.foldlM_cons]
    cases placed : nesting.place piece with
    | error flaw =>
      rw [placed] at first
      exact first
    | ok next =>
      rw [placed] at first
      exact inductionHypothesis first there.2

/-- All pieces are nested, or a flaw points into the source. -/
theorem points_ofPieces {pieces : List Piece} {flaw : Option Flaw}
    (there : ∀ piece ∈ pieces, piece.StandsIn source)
    (ends : ∀ found, flaw = some found → found.span.InBounds source) :
    Points source (ofPieces pieces flaw) := by
  have placed : Points source (pieces.foldlM place empty) := points_placeAll nofun there
  unfold ofPieces
  cases placing : pieces.foldlM place empty with
  | error found =>
    rw [placing] at placed
    exact placed
  | ok nesting =>
    rw [placing] at placed
    cases flaw with
    | some found => exact ends found rfl
    | none =>
      simp only [bind, Except.bind, finish]
      split
      · rename_i outermost last
        have member := List.mem_of_getLast? last
        exact placed _ (List.mem_map_of_mem member)
      · exact placed

end Nesting

namespace Lexer

variable {source : List Char} {earlier found : List Lexeme} {state next : State}

/-- The tag that is being read was opened by one of the lexemes. -/
def OpenedBy (lexemes : List Lexeme) (state : State) : Prop :=
  ∀ tag, state.place = .inside tag → ∃ lexeme ∈ lexemes, lexeme.span = tag.opened

/-- Every move keeps it so. -/
theorem OpenedBy.move (opened : OpenedBy earlier state) (move : Move state found next) :
    OpenedBy (earlier ++ found) next := by
  induction move with
  | text | closing | remark | remarkEnd => nofun
  | @opening _ _ _ _ _ delimiter lexeme =>
    intro tag same
    refine ⟨lexeme, ?_, ?_⟩
    · rw [textThen_eq]
      simp
    · cases delimiter <;> cases same <;> rfl
  | skipping later inductionHypothesis => exact inductionHypothesis nofun
  | @token tag =>
    rintro other same
    cases same
    obtain ⟨lexeme, member, stands⟩ := opened tag rfl
    exact ⟨lexeme, List.mem_append_left _ member, stands⟩

/-- A string that does not end is as long as there are characters at most. -/
theorem length_of_quotedLength_error {quote : Char} {escaped : Bool} {rest : List Char}
    {length : Nat} (open_ : quotedLength quote escaped rest = .error length) :
    length ≤ rest.length := by
  fun_induction quotedLength quote escaped rest generalizing length with
  | case1 | case2 =>
    cases open_
    exact Nat.zero_le _
  | case3 | case4 => cases open_
  | case5 escaped c rest _ _ inner later inductionHypothesis =>
    cases open_
    exact Nat.succ_le_succ (inductionHypothesis later)

/-- A token that cannot be read is as long as there are characters at most. -/
theorem length_of_tokenAt_error {inPath : Bool} {c : Char} {rest : List Char} {cause : Malformed}
    {length : Nat} (wrong : tokenAt inPath c rest = .error (cause, length)) :
    length ≤ (c :: rest).length := by
  unfold tokenAt at wrong
  split at wrong
  · cases wrong
  · split at wrong
    · split at wrong
      · cases wrong
      · rename_i open_
        cases wrong
        exact Nat.succ_le_succ (length_of_quotedLength_error open_)
    · split at wrong
      · cases wrong
      · split at wrong
        · cases wrong
        · split at wrong
          · dsimp only at wrong
            split at wrong <;> cases wrong
          · cases wrong
            simp

/-- A delimiter takes two characters. -/
theorem length_of_delimiterAt {text : List Char} {token : Token}
    (found : delimiterAt text = some token) : 2 ≤ text.length := by
  unfold delimiterAt at found
  split at found <;> simp_all

/-- The flaw that stops the lexer points into the source. -/
theorem inBounds_of_flawed (track : OnTrack source earlier state)
    (opened : OpenedBy earlier state) {flaw : Flaw} (stops : step state = .flawed flaw) :
    flaw.span.InBounds source := by
  obtain ⟨place, position, rest⟩ := state
  have there : rest = source.drop position := track.rest
  have inside : position ≤ source.length := track.faithful.inside
  have size := congrArg List.length there
  rw [List.length_drop] at size
  have ahead {length : Nat} (within : length ≤ rest.length) :
      (Span.mk position (position + length)).InBounds source := by
    have bound : position + length ≤ source.length := by omega
    exact ⟨Nat.le_add_right _ _, bound⟩
  cases rest with
  | nil => cases stops
  | cons c rest =>
    cases place with
    | remark alone =>
      simp only [step, remarkStep] at stops
      split at stops <;> cases stops
    | outside lineStart afterAlone =>
      cases afterAlone <;> simp only [step, outsideStep] at stops <;> repeat' split at stops
      all_goals cases stops
    | inside tag =>
      simp only [step, insideStep] at stops
      split at stops
      · cases stops
        obtain ⟨lexeme, member, same⟩ := opened tag rfl
        rw [← same]
        exact (track.faithful.stands lexeme member).1.inBounds
      · rename_i token notOpening delimiter
        split at stops
        · cases stops
        · cases stops
          exact ahead (length_of_delimiterAt delimiter)
      · split at stops
        · rename_i wrong
          cases stops
          exact ahead (length_of_tokenAt_error wrong)
        · cases stops

/-- The flaw that ends the lexemes of a source points into it, and its lexemes stand in it. -/
theorem lexemes_stand (source : List Char) :
    (∀ lexeme ∈ (lexemes source).1, lexeme.StandsIn source) ∧
      ∀ flaw, (lexemes source).2 = some flaw → flaw.span.InBounds source := by
  obtain ⟨last, reads, stops⟩ := lexemes_stops source
  have track : OnTrack source (lexemes source).1 last :=
    reads.preserves OnTrack.move [] (onTrack_start _)
  have opened : OpenedBy (lexemes source).1 last :=
    reads.preserves OpenedBy.move [] nofun
  refine ⟨fun lexeme member => (track.faithful.stands lexeme member).1, ?_⟩
  intro flaw found
  rcases stops with ⟨_, none⟩ | ⟨other, flawed, some⟩
  · rw [none] at found
    cases found
  · rw [some] at found
    cases found
    exact inBounds_of_flawed track opened flawed

end Lexer

/-- Every flaw that compiling reports points into the source. -/
theorem Template.inBounds_of_compile {arity? : String → Option Arity} {name : Option String}
    {source : String} {flaw : Flaw} (reported : compile arity? name source = .error flaw) :
    flaw.span.InBounds source.toList := by
  obtain ⟨stand, ends⟩ := Lexer.lexemes_stand source.toList
  have sound : (setting arity? source (Lexer.lexemes source.toList).2).Sound := ends
  have read : (∀ piece ∈ (pieces arity? source).1, piece.StandsIn source.toList) ∧
      ∀ found, (pieces arity? source).2 = some found → found.span.InBounds source.toList :=
    Piece.points_parseUpTo sound _ fun lexeme member => stand lexeme (List.mem_filter.mp member).1
  have nested := Nesting.points_ofPieces read.1 read.2
  rw [compile_eq] at reported
  cases found : Nesting.ofPieces (pieces arity? source).1 (pieces arity? source).2 with
  | ok nesting =>
    rw [found] at reported
    cases reported
  | error other =>
    rw [found] at reported nested
    cases reported
    exact nested

end Stencil
