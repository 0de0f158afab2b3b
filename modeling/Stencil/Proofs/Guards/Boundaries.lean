import Stencil.Proofs.Spelt.Pieces

/-!
# Where pieces begin

Between an opening delimiter and its closing one stand words, or the text of a comment; outside
of them stand texts. So the lexemes of a source say at every lexeme whether it stands outside or
within which delimiters, also where the source ends too early or a flaw ends the lexemes. Every
piece begins and ends outside, so its first lexeme is a text or an opening delimiter.
-/

namespace Stencil

/-- Where a lexeme stands: outside of all delimiters, or behind an opening one. -/
abbrev Mode := Option Delimiter

namespace Mode

/-- Where the next lexeme stands, if one of the token may stand here. -/
def after : Mode → Token → Option Mode
  | none, .text => some none
  | none, .opening delimiter => some (some delimiter)
  | none, _ => none
  | some .comment, .text => some (some .comment)
  | some .comment, .closing .comment => some none
  | some .comment, _ => none
  | some opened, .closing delimiter => if opened = delimiter then some none else none
  | some opened, token => if token.isWord then some (some opened) else none

/-- Where the next lexeme stands behind some others, if these may stand here. -/
def through (mode : Mode) (lexemes : List Lexeme) : Option Mode :=
  lexemes.foldlM (fun mode lexeme => mode.after lexeme.token) mode

variable {mode last : Mode} {first second lexemes : List Lexeme} {lexeme : Lexeme}
  {opened : Delimiter}

/-- Behind two parts stands what stands behind the second. -/
theorem through_append : mode.through (first ++ second) =
    (mode.through first).bind fun middle => middle.through second :=
  List.foldlM_append

/-- Behind one lexeme. -/
@[simp] theorem through_singleton : mode.through [lexeme] = mode.after lexeme.token := by
  simp [through]

/-- A word stays between its delimiters. -/
theorem after_word {token : Token} (isWord : token.isWord = true) (silent : opened ≠ .comment) :
    after (some opened) token = some (some opened) := by
  cases opened with
  | comment => contradiction
  | output | tag => cases token <;> first | rfl | cases isWord

/-- A closing delimiter leads outside. -/
theorem after_closing : after (some opened) (.closing opened) = some none := by
  cases opened <;> rfl

/-- Words stay between their delimiters. -/
theorem through_words (words : ∀ lexeme ∈ lexemes, lexeme.token.isWord = true)
    (silent : opened ≠ .comment) : through (some opened) lexemes = some (some opened) := by
  induction lexemes with
  | nil => rfl
  | cons lexeme rest inductionHypothesis =>
    rw [List.forall_mem_cons] at words
    have later := inductionHypothesis words.2
    rw [through, List.foldlM_cons, after_word words.1 silent]
    exact later

/-- Texts stay in their comment. -/
theorem through_remarks (texts : ∀ lexeme ∈ lexemes, lexeme.token = .text) :
    through (some .comment) lexemes = some (some .comment) := by
  induction lexemes with
  | nil => rfl
  | cons lexeme rest inductionHypothesis =>
    rw [List.forall_mem_cons] at texts
    have later := inductionHypothesis texts.2
    rw [through, List.foldlM_cons, texts.1]
    exact later

/-- Behind an opening delimiter, what stands in it and its closing delimiter one is outside. -/
theorem through_enclosed {opening closing : Lexeme} {inside : List Lexeme}
    (opens : opening.token = .opening opened) (closes : closing.token = .closing opened)
    (within : through (some opened) inside = some (some opened)) :
    through none (opening :: (inside ++ [closing])) = some none := by
  have enclosed : through (some opened) (inside ++ [closing]) = some none := by
    rw [through_append, within, Option.bind_some, through_singleton, closes, after_closing]
  rw [through, List.foldlM_cons, opens]
  exact enclosed

/-- Blanks do not change where one stands. -/
theorem through_filter (whole : mode.through lexemes = some last) :
    mode.through (lexemes.filter fun lexeme => lexeme.token ≠ .blank) = some last := by
  induction lexemes generalizing mode with
  | nil => exact whole
  | cons lexeme rest inductionHypothesis =>
    rw [through, List.foldlM_cons] at whole
    obtain ⟨next, stands, later⟩ := Option.bind_eq_some_iff.mp whole
    have filtered := inductionHypothesis later
    by_cases blank : lexeme.token = .blank
    · rw [List.filter_cons_of_neg (by simp [blank])]
      rw [blank] at stands
      have same : next = mode := by
        cases mode with
        | none => cases stands
        | some opened => cases opened <;> cases stands <;> rfl
      rwa [← same]
    · rw [List.filter_cons_of_pos (by simp [blank]), through, List.foldlM_cons, stands]
      exact filtered

end Mode

namespace Lexer

/-- Where the next lexeme stands that the lexer reads. -/
def Place.mode : Place → Mode
  | .outside .. => none
  | .inside tag => some tag.delimiter
  | .remark _ => some .comment

/-- The lexemes read so far lead to the place of the lexer; a tag is no comment. -/
structure Leads (lexemes : List Lexeme) (state : State) : Prop where
  through : Mode.through none lexemes = some state.place.mode
  silent : ∀ tag, state.place = .inside tag → tag.delimiter ≠ .comment

variable {source : List Char} {earlier found : List Lexeme} {state next : State}

/-- A text that may be missing stands where texts stand. -/
theorem through_textThen {mode last : Mode} {position : Nat} {text : List Char}
    {delimiter : Lexeme} (stays : mode.after .text = some mode)
    (then_ : mode.after delimiter.token = some last) :
    mode.through (textThen position text delimiter) = some last := by
  unfold textThen
  split
  · exact Mode.through_singleton.trans then_
  · rw [Mode.through, List.foldlM_cons, show (lexeme .text position text).token = .text from rfl,
      stays]
    exact Mode.through_singleton.trans then_

/-- What was read leads on where the lexemes found next do. -/
theorem Leads.append (leads : Leads earlier state)
    (through : state.place.mode.through found = some next.place.mode)
    (silent : ∀ tag, next.place = .inside tag → tag.delimiter ≠ .comment) :
    Leads (earlier ++ found) next where
  through := by
    rw [Mode.through_append, leads.through]
    exact through
  silent := silent

/-- Behind an opening delimiter one stands within it. -/
theorem mode_placeBehind (delimiter : Delimiter) (opened : Span) (alone : Bool) :
    (placeBehind delimiter opened alone).mode = some delimiter := by
  cases delimiter <;> rfl

/-- Every move leads on. -/
theorem Leads.move (leads : Leads earlier state) (move : Move state found next) :
    Leads (earlier ++ found) next := by
  induction move with
  | text | remark => exact leads.append Mode.through_singleton nofun
  | @opening _ alone position text _ delimiter opened _ isOpened =>
    have through : Mode.through none (textThen position (keptText alone text) opened) =
        some (some delimiter) := through_textThen rfl (by rw [isOpened]; rfl)
    refine leads.append (through.trans ?_) ?_
    · rw [mode_placeBehind]
    · intro tag same
      cases delimiter <;> cases same <;> nofun
  | skipping later inductionHypothesis => exact inductionHypothesis ⟨leads.through, nofun⟩
  | @token tag _ _ _ _ _ _ _ read =>
    have silent := leads.silent tag rfl
    refine leads.append ?_ ?_
    · exact Mode.through_singleton.trans (Mode.after_word (tokenAt_isWord read) silent)
    · rintro other same
      cases same
      exact silent
  | closing => exact leads.append (Mode.through_singleton.trans Mode.after_closing) nofun
  | @remarkEnd alone position text =>
    have through : Mode.through (some .comment) (textThen position text
        (lexeme (.closing .comment) (position + text.length) Delimiter.comment.closing)) =
          some none := through_textThen rfl rfl
    exact leads.append through nofun

/-- The lexemes of a source lead somewhere, up to the first flaw if there is one. -/
theorem leads_lexemes (source : List Char) :
    ∃ mode, Mode.through none (lexemes source).1 = some mode := by
  obtain ⟨last, reads, _⟩ := lexemes_stops source
  have leads : Leads (lexemes source).1 last :=
    reads.preserves Leads.move [] ⟨rfl, nofun⟩
  exact ⟨_, leads.through⟩

end Lexer

namespace Piece

variable {setting : Setting} {taken ahead rest : List Lexeme} {found : Option Piece} {mode : Mode}

/-- What is taken for a piece leads from outside to outside. -/
theorem Taken.through (takes : Taken setting taken found) :
    Mode.through none taken = some none := by
  cases takes with
  | text isText => rw [Mode.through_singleton, isText]; rfl
  | output opens closes drawn =>
    exact Mode.through_enclosed opens closes (Mode.through_words drawn.words nofun)
  | tag opens closes drawn =>
    exact Mode.through_enclosed opens closes (Mode.through_words drawn.words nofun)
  | comment opens closes texts =>
    exact Mode.through_enclosed opens closes (Mode.through_remarks texts)

/-- Behind a piece one stands outside again. -/
theorem Begins.through (begins : Begins setting ahead found rest)
    (leads : Mode.through none ahead = some mode) : Mode.through none rest = some mode := by
  obtain ⟨taken, rfl, takes⟩ := begins.taken
  rwa [Mode.through_append, takes.through] at leads

end Piece

/-- The tokens that a piece, or a comment, may begin with. -/
def Token.begins : Token → Bool
  | .text => true
  | .opening _ => true
  | _ => false

/-- A lexeme that stands outside begins a piece. -/
theorem Mode.begins_of_through {mode : Mode} {first : Lexeme} {rest : List Lexeme}
    (leads : Mode.through none (first :: rest) = some mode) : first.token.begins = true := by
  rw [Mode.through, List.foldlM_cons] at leads
  obtain ⟨next, stands, _⟩ := Option.bind_eq_some_iff.mp leads
  cases isToken : first.token <;> rw [isToken] at stands <;> first | rfl | cases stands

end Stencil
