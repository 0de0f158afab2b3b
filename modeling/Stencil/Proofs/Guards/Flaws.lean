import Stencil.Proofs.Parsing
import Stencil.Proofs.Lexing.Tracking
import Stencil.Template.Compile

/-!
# Flaws point into the source

Every flaw that is reported points at characters of the source, so that the place can be shown.
The parser keeps to the spans of lexemes, which stand in the source, and to spans that cover
several of them.
-/

namespace Stencil

/-- The span is one of characters of the source. -/
structure Span.InBounds (span : Span) (source : List Char) : Prop where
  order : span.start ≤ span.stop
  inside : span.stop ≤ source.length

/-- A span that covers two spans of the source is one. -/
theorem Span.InBounds.cover {first second : Span} {source : List Char}
    (firstIn : first.InBounds source) (secondIn : second.InBounds source) :
    (first.cover second).InBounds source where
  order := Nat.le_trans (Nat.min_le_left _ _) (Nat.le_trans firstIn.order (Nat.le_max_left _ _))
  inside := Nat.max_le.mpr ⟨firstIn.inside, secondIn.inside⟩

/-- Where a lexeme stands is a span of the source. -/
theorem Lexeme.StandsIn.inBounds {lexeme : Lexeme} {source : List Char}
    (stands : lexeme.StandsIn source) : lexeme.span.InBounds source where
  order := Nat.le_of_lt stands.nonempty
  inside := stands.inside

/-- The setting belongs to its source: the flaw that ends the lexemes points into it. -/
def Setting.Sound (setting : Setting) : Prop :=
  ∀ flaw, setting.flaw = some flaw → flaw.span.InBounds setting.source

namespace Parser

variable {α β : Type} {setting : Setting}

/-- From lexemes that stand in the source a parser makes values of a kind and leaves lexemes
that stand there, or it finds a flaw that points into the source. -/
structure Points (parser : Parser α) (setting : Setting) (good : α → Prop) : Prop where
  result : ∀ ahead, (∀ lexeme ∈ ahead, lexeme.StandsIn setting.source) →
    match parser setting ahead with
    | .ok (value, rest) => good value ∧ ∀ lexeme ∈ rest, lexeme.StandsIn setting.source
    | .error flaw => flaw.span.InBounds setting.source

namespace Points

variable {parser : Parser α} {good : α → Prop}

/-- A value takes no lexeme. -/
theorem pure {value : α} (is : good value) :
    (Pure.pure value : Parser α).Points setting good :=
  ⟨fun _ stands => ⟨is, stands⟩⟩

/-- A failure points where it is said to. -/
theorem fail {cause : Malformed} {span : Span} (inBounds : span.InBounds setting.source) :
    (Parser.fail cause span : Parser α).Points setting good :=
  ⟨fun _ _ => inBounds⟩

/-- So does a sequence, if its parts do. -/
theorem bind {next : α → Parser β} {result : β → Prop} (first : parser.Points setting good)
    (onward : ∀ value, good value → (next value).Points setting result) :
    (parser >>= next).Points setting result := by
  constructor
  intro ahead stands
  have begun := first.result ahead stands
  rw [bind_apply]
  cases read : parser setting ahead with
  | error flaw =>
    rw [read] at begun
    exact begun
  | ok found =>
    rw [read] at begun
    exact (onward found.1 begun.1).result found.2 begun.2

/-- Asking for the setting takes no lexeme. -/
theorem read : (MonadReaderOf.read : Parser Setting).Points setting fun _ => True :=
  ⟨fun _ stands => ⟨trivial, stands⟩⟩

/-- What is done to a value is done to one of its kind. -/
theorem map {change : α → β} {result : β → Prop} (points : parser.Points setting good)
    (changed : ∀ value, good value → result (change value)) :
    (change <$> parser).Points setting result := by
  have sequence : (change <$> parser) = parser >>= fun value => Pure.pure (change value) := rfl
  rw [sequence]
  exact points.bind fun value is => pure (changed value is)

/-- So do steps that are taken as long as there is one. -/
theorem iterate {step : α → Parser (Option α)}
    (steps : ∀ value, good value →
      (step value).Points setting fun later => ∀ next, later = some next → good next)
    (bound : Nat) {value : α} (is : good value) :
    (Parser.iterate step bound value).Points setting good := by
  induction bound generalizing value with
  | zero => exact pure is
  | succ bound inductionHypothesis =>
    rw [iterate_succ]
    apply (steps value is).bind
    intro later onward
    cases later with
    | none => exact pure is
    | some next => exact inductionHypothesis (onward next rfl)

/-- However many there are. -/
theorem repeatedly {step : α → Parser (Option α)} {value : α} (is : good value)
    (steps : ∀ value, good value →
      (step value).Points setting fun later => ∀ next, later = some next → good next) :
    (Parser.repeatedly step value).Points setting good :=
  ⟨fun ahead => (iterate steps (ahead.length + 1) is).result ahead⟩

section

variable (sound : setting.Sound)

include sound

/-- Looking at the next lexeme points into the source. -/
theorem peek : Parser.peek.Points setting fun found =>
    ∀ lexeme, found = some lexeme → lexeme.StandsIn setting.source := by
  constructor
  intro ahead stands
  cases ahead with
  | nil =>
    cases flawed : setting.flaw with
    | none => simp [Parser.peek, flawed]
    | some flaw =>
      simp only [Parser.peek, flawed]
      exact sound flaw flawed
  | cons first rest =>
    refine ⟨?_, stands⟩
    rintro lexeme same
    cases same
    exact stands first List.mem_cons_self

/-- Taking the next lexeme does. -/
theorem next (wanted : Expected) :
    (Parser.next wanted).Points setting fun found => found.StandsIn setting.source := by
  constructor
  intro ahead stands
  cases ahead with
  | nil =>
    cases flawed : setting.flaw with
    | none =>
      simp only [Parser.next, flawed]
      exact ⟨Nat.le_refl _, Nat.le_refl _⟩
    | some flaw =>
      simp only [Parser.next, flawed]
      exact sound flaw flawed
  | cons first rest =>
    rw [List.forall_mem_cons] at stands
    exact stands

/-- Taking a lexeme of a token does. -/
theorem expect (token : Token) :
    (Parser.expect token).Points setting fun found => found.StandsIn setting.source := by
  apply (next sound _).bind
  intro found stands
  split
  · exact pure stands
  · exact fail stands.inBounds

/-- Asking for a token does. -/
theorem isNext (token : Token) : (Parser.isNext token).Points setting fun _ => True :=
  (peek sound).bind fun _ _ => pure trivial

/-- Taking a token if it is there does. -/
theorem takes (token : Token) : (Parser.takes token).Points setting fun _ => True := by
  apply (isNext sound token).bind
  intro found _
  split
  · exact (expect sound token).bind fun _ _ => pure trivial
  · exact pure trivial

/-- Taking a word if it is there does. -/
theorem takesWord (word : String) : (Parser.takesWord word).Points setting fun _ => True := by
  apply (peek sound).bind
  intro found stands
  split
  · split
    · exact (next sound _).bind fun _ _ => pure trivial
    · exact pure trivial
  · exact pure trivial

/-- Taking a word that has to be there does. -/
theorem expectWord (word : String) :
    (Parser.expectWord word).Points setting fun _ => True := by
  apply (next sound _).bind
  intro found stands
  split
  · exact pure trivial
  · exact fail stands.inBounds

end

end Points

end Parser

namespace Expr.Parser

open Stencil.Parser

variable {setting : Setting}

/-- What was read stands in the source. -/
def Stands {α : Type} (setting : Setting) (found : Located α) : Prop :=
  found.2.InBounds setting.source

/-- An escape that is not known stands among the characters of the string. -/
theorem unescape_error {position found : Nat} {text : List Char}
    (unknown : unescape position text = .error found) :
    position ≤ found ∧ found + 2 ≤ position + text.length := by
  fun_induction unescape position text with
  | case1 | case2 => cases unknown
  | case3 position mark rest c known inductionHypothesis =>
    cases later : unescape (position + 2) rest with
    | ok characters => rw [later] at unknown; cases unknown
    | error place =>
      rw [later] at unknown
      cases unknown
      have bound := inductionHypothesis later
      simp only [List.length_cons]
      omega
  | case4 position mark rest unmarked =>
    cases unknown
    simp only [List.length_cons]
    omega
  | case5 position c rest _ _ inductionHypothesis =>
    cases later : unescape (position + 1) rest with
    | ok characters => rw [later] at unknown; cases unknown
    | error place =>
      rw [later] at unknown
      cases unknown
      have bound := inductionHypothesis later
      simp only [List.length_cons]
      omega

/-- As many characters stand in a span as it is long. -/
theorem length_text {lexeme : Lexeme} {source : List Char} (stands : lexeme.StandsIn source) :
    lexeme.text.toList.length = lexeme.span.stop - lexeme.span.start := by
  have inside := stands.inside
  rw [stands.text]
  simp only [Span.text, Span.slice, String.toList_ofList, List.length_take, List.length_drop]
  omega

/-- The literal of a string points into it. -/
theorem points_textLiteral {found : Lexeme} (stands : found.StandsIn setting.source) :
    (textLiteral found).Points setting fun _ => True := by
  unfold textLiteral
  dsimp only
  split
  · exact .pure trivial
  · rename_i position unknown
    have bound := unescape_error unknown
    have size := length_text stands
    have inside := stands.inside
    rw [List.length_dropLast, List.length_drop, size] at bound
    have within : position + 2 ≤ setting.source.length := by omega
    exact .fail ⟨Nat.le_add_right _ _, within⟩

/-- The literal of digits points at them. -/
theorem points_integerLiteral (negative : Bool) (digits : String) {span : Span}
    (inBounds : span.InBounds setting.source) :
    (integerLiteral negative digits span).Points setting fun _ => True := by
  unfold integerLiteral
  dsimp only
  split
  · exact .pure trivial
  · exact .fail inBounds

/-- A filter that does not fit is pointed at. -/
theorem points_checkFilter {filter : Lexeme} {hasArgument : Bool} {span : Span}
    (stands : filter.StandsIn setting.source) (inBounds : span.InBounds setting.source) :
    (checkFilter filter hasArgument span).Points setting fun _ => True := by
  apply Points.read.bind
  intro found _
  split
  · exact .fail stands.inBounds
  · split
    · exact .fail inBounds
    · exact .pure trivial
  · split
    · exact .pure trivial
    · exact .fail inBounds
  · exact .pure trivial

section

variable (sound : setting.Sound)

include sound

/-- A segment of a path points into the source. -/
theorem points_key : key.Points setting (Stands setting) := by
  apply (Points.next sound _).bind
  intro found stands
  split
  · dsimp only
    split
    · exact .pure stands.inBounds
    · exact .fail stands.inBounds
  · split
    · exact .pure stands.inBounds
    · exact .fail stands.inBounds

/-- So does a path. -/
theorem points_path {first : Lexeme} (stands : first.StandsIn setting.source) :
    (path first).Points setting (Stands setting) := by
  have walked : (repeatedly (fun (keys : List (Located Key)) => do
      if ← takes .dot then return some ((← key) :: keys) else return none) []).Points setting
        fun keys => ∀ key ∈ keys, Stands setting key := by
    apply Points.repeatedly
    · nofun
    · intro keys all
      apply (Points.takes sound _).bind
      intro dotted _
      split
      · apply (points_key sound).bind
        intro found inBounds
        apply Points.pure
        rintro next same
        cases same
        exact List.forall_mem_cons.mpr ⟨inBounds, all⟩
      · exact .pure nofun
  apply walked.bind
  intro keys all
  apply Points.read.bind
  intro found _
  apply Points.pure
  unfold Stands
  split
  · exact stands.inBounds
  · exact stands.inBounds.cover (all _ List.mem_cons_self)

variable {whole : Parser (Located Expr)} (points : whole.Points setting (Stands setting))

include points

/-- The arguments of a call point into the source. -/
theorem points_arguments : (arguments whole).Points setting fun _ => True := by
  apply (Points.isNext sound _).bind
  intro closes _
  split
  · exact .pure trivial
  · apply points.bind
    intro first _
    have gathered : (repeatedly (fun (found : List Expr) => do
        if ← takes .comma then return some ((← whole).1 :: found) else return none)
          [first.1]).Points setting fun _ => True := by
      apply Points.repeatedly trivial
      intro found _
      apply (Points.takes sound _).bind
      intro parted _
      split
      · exact points.bind fun _ _ => .pure fun _ _ => trivial
      · exact .pure nofun
    exact gathered.bind fun _ _ => .pure trivial

/-- A primary points into the source. -/
theorem points_primary : (primary whole).Points setting (Stands setting) := by
  apply (Points.next sound _).bind
  intro found stands
  split
  · exact .pure stands.inBounds
  · exact .pure stands.inBounds
  · exact .fail stands.inBounds
  · apply (Points.expect sound _).bind
    intro digits standsToo
    have both := stands.inBounds.cover standsToo.inBounds
    exact (points_integerLiteral _ _ both).bind fun _ _ => .pure both
  · exact (points_integerLiteral _ _ stands.inBounds).bind fun _ _ => .pure stands.inBounds
  · exact (points_textLiteral stands).bind fun _ _ => .pure stands.inBounds
  · apply points.bind
    intro inner inBounds
    exact (Points.expect sound _).bind fun _ _ => .pure inBounds
  · apply (points_path sound stands).bind
    intro named inBounds
    apply (Points.takes sound _).bind
    intro called _
    split
    · apply (points_arguments sound points).bind
      intro given _
      apply (Points.expect sound _).bind
      intro close closes
      exact .pure (inBounds.cover closes.inBounds)
    · exact .pure inBounds
  · exact .fail stands.inBounds

/-- A filter points into the source. -/
theorem points_filterStep {receiver : Located Expr} (inBounds : Stands setting receiver) :
    (filterStep whole receiver).Points setting fun later =>
      ∀ next, later = some next → Stands setting next := by
  apply (Points.takes sound _).bind
  intro piped _
  split
  · apply (Points.expect sound _).bind
    intro filter stands
    apply (Points.takes sound _).bind
    intro parted _
    split
    · apply (points_primary sound points).bind
      intro argument argumentIn
      have both := Span.InBounds.cover inBounds argumentIn
      apply (points_checkFilter stands both).bind
      intro _ _
      apply Points.pure
      rintro next same
      cases same
      exact both
    · have both := Span.InBounds.cover inBounds stands.inBounds
      apply (points_checkFilter stands both).bind
      intro _ _
      apply Points.pure
      rintro next same
      cases same
      exact both
  · exact .pure nofun

/-- A chain of filters points into the source. -/
theorem points_filtered : (filtered whole).Points setting (Stands setting) := by
  apply (points_primary sound points).bind
  intro first inBounds
  exact .repeatedly inBounds fun receiver standing => points_filterStep sound points standing

/-- So does a comparison. -/
theorem points_comparison : (comparison whole).Points setting (Stands setting) := by
  apply (points_filtered sound points).bind
  intro left leftIn
  apply (Points.peek sound).bind
  intro found _
  split
  · apply (Points.next sound _).bind
    intro _ _
    apply (points_filtered sound points).bind
    intro right rightIn
    exact .pure (Span.InBounds.cover leftIn rightIn)
  · exact .pure leftIn

/-- So does a negation. -/
theorem points_negation : (negation whole).Points setting (Stands setting) := by
  have marked : (repeatedly (fun (marks : List Span) => do
      if ← isNext (.keyword .negation) then
        return some ((← next .anything).span :: marks)
      else return none) []).Points setting fun marks =>
        ∀ mark ∈ marks, mark.InBounds setting.source := by
    apply Points.repeatedly
    · nofun
    · intro marks all
      apply (Points.isNext sound _).bind
      intro negates _
      split
      · apply (Points.next sound _).bind
        intro found stands
        apply Points.pure
        rintro next same
        cases same
        exact List.forall_mem_cons.mpr ⟨stands.inBounds, all⟩
      · exact .pure nofun
  apply marked.bind
  intro marks all
  apply (points_comparison sound points).bind
  intro operand inBounds
  apply Points.pure
  induction marks generalizing operand with
  | nil => exact inBounds
  | cons mark rest inductionHypothesis =>
    rw [List.forall_mem_cons] at all
    exact inductionHypothesis all.2 _ (Span.InBounds.cover all.1 inBounds)

omit points in
/-- So do operands joined by a connective. -/
theorem points_connected (connective : Connective) (keyword : Keyword)
    {operand : Parser (Located Expr)} (points : operand.Points setting (Stands setting)) :
    (connected connective keyword operand).Points setting (Stands setting) := by
  apply points.bind
  intro first inBounds
  apply Points.repeatedly inBounds
  intro left leftIn
  apply (Points.takes sound _).bind
  intro joined _
  split
  · apply points.bind
    intro right rightIn
    apply Points.pure
    rintro next same
    cases same
    exact Span.InBounds.cover leftIn rightIn
  · exact .pure nofun

omit points in
/-- So do whole expressions, however deep they are nested. -/
theorem points_bounded (bound : Nat) : (bounded bound).Points setting (Stands setting) := by
  induction bound with
  | zero => exact (Points.next sound _).bind fun _ stands => .fail stands.inBounds
  | succ bound inductionHypothesis =>
    exact points_connected sound _ _
      (points_connected sound _ _ (points_negation sound inductionHypothesis))

end

end Expr.Parser

end Stencil
