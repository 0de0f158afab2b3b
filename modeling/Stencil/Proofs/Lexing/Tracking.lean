import Mathlib.Tactic.Tauto
import Stencil.Proofs.Lexing.Moves

/-!
# What the lexer leaves out

The lexemes that were read up to a position cover the source up to there without overlapping,
from left to right. What they leave out are blanks on a line that a tag or comment has for
itself: the indentation before its opening delimiter, and the rest of the line behind its
closing delimiter up to the first line feed.

The invariant speaks of the lexemes read so far and of the place that the lexer stands at:
inside of a tag the last delimiter that was read opened it, and behind a tag that was alone on
its line the last two opened and closed it.
-/

namespace Stencil

/-- Delimiters, opening and closing ones. -/
def Token.isDelimiter : Token → Bool
  | .opening _ => true
  | .closing _ => true
  | _ => false

/-- The tokens that stand between the delimiters of tags. -/
def Token.isWord : Token → Bool
  | .text => false
  | .opening _ => false
  | .closing _ => false
  | _ => true

/-- None of them is a delimiter. -/
theorem Token.isDelimiter_of_isWord {token : Token} (isWord : token.isWord = true) :
    token.isDelimiter = false := by
  cases token <;> first | rfl | cases isWord

/-- The lexeme stands in the source: its span is not empty and in bounds, and its text is what
stands there. -/
structure Lexeme.StandsIn (lexeme : Lexeme) (source : List Char) : Prop where
  nonempty : lexeme.span.start < lexeme.span.stop
  inside : lexeme.span.stop ≤ source.length
  text : lexeme.text = lexeme.span.text source

namespace Lexer

/-- Nothing but spaces, tabs and carriage returns stands from one position up to another. -/
def BlankBetween (source : List Char) (first last : Nat) : Prop :=
  ∀ c ∈ (Span.mk first last).slice source, c = ' ' ∨ c = '\t' ∨ c = '\r'

/-- A tag or comment that opens at a position is alone on its line: nothing but blanks stands
before it on the line, and behind its first closing delimiter up to the line end. -/
structure StandsAlone (source : List Char) (delimiter : Delimiter) (opened : Nat) : Prop where
  silent : delimiter ≠ .output
  before : (lastLine (source.take opened)).all Text.isBlank = true
  after : aloneAfter delimiter (source.drop (opened + 2)) = true

/-- A position is passed over: it stands in the indentation of a tag that is alone on its
line, or on the line behind one, after its closing delimiter and no further than the first line
feed. -/
inductive PassedOver (source : List Char) (lexemes : List Lexeme) (position : Nat) : Prop where
  | indentation {opening : Lexeme} {delimiter : Delimiter} (found : opening ∈ lexemes)
      (opens : opening.token = .opening delimiter)
      (alone : StandsAlone source delimiter opening.span.start)
      (before : position < opening.span.start)
      (blank : BlankBetween source position opening.span.start)
  | lineEnd {earlier inner later : List Lexeme} {opening closing : Lexeme} {delimiter : Delimiter}
      (found : lexemes = earlier ++ opening :: (inner ++ closing :: later))
      (opens : opening.token = .opening delimiter) (closes : closing.token = .closing delimiter)
      (within : ∀ lexeme ∈ inner, lexeme.token.isDelimiter = false)
      (alone : StandsAlone source delimiter opening.span.start)
      (behind : closing.span.stop ≤ position)
      (blank : BlankBetween source closing.span.stop position)
      (character : ∃ c, source[position]? = some c ∧ Text.isBlank c = true)

/-- What is passed over stays so when more lexemes are read. -/
theorem PassedOver.append {source : List Char} {lexemes : List Lexeme} {position : Nat}
    (passed : PassedOver source lexemes position) (more : List Lexeme) :
    PassedOver source (lexemes ++ more) position := by
  cases passed with
  | indentation found opens alone before blank =>
    exact .indentation (List.mem_append_left more found) opens alone before blank
  | @lineEnd earlier inner later opening closing _ found opens closes within alone behind blank
      character =>
    have longer : lexemes ++ more =
        earlier ++ opening :: (inner ++ closing :: (later ++ more)) := by
      rw [found, List.append_assoc, List.cons_append, List.append_assoc, List.cons_append]
    exact .lineEnd longer opens closes within alone behind blank character

/-- The characters that are passed over are blanks. -/
theorem PassedOver.blank {source : List Char} {lexemes : List Lexeme} {position : Nat}
    (passed : PassedOver source lexemes position) (inside : position < source.length) :
    ∃ c, source[position]? = some c ∧ (c = ' ' ∨ c = '\t' ∨ c = '\r' ∨ c = '\n') := by
  cases passed with
  | @indentation opening _ _ _ _ before blank =>
    have found : source[position]? = some source[position] := List.getElem?_eq_getElem inside
    have first : source[position] ∈ (Span.mk position opening.span.start).slice source := by
      rw [Span.slice, List.drop_eq_getElem_cons inside]
      obtain ⟨count, same⟩ : ∃ count, opening.span.start - position = count + 1 :=
        ⟨opening.span.start - position - 1, by omega⟩
      rw [same, List.take_succ_cons]
      exact List.mem_cons_self
    rcases blank _ first with is | is | is
    · exact ⟨_, found, Or.inl is⟩
    · exact ⟨_, found, Or.inr (Or.inl is)⟩
    · exact ⟨_, found, Or.inr (Or.inr (Or.inl is))⟩
  | lineEnd _ _ _ _ _ _ _ character =>
    obtain ⟨c, found, blank⟩ := character
    simp only [Text.isBlank, Bool.or_eq_true, decide_eq_true_eq] at blank
    exact ⟨c, found, by tauto⟩

/-- The lexemes read up to a position stand in the source in order, and what they do not cover
was passed over. There are no more of them than characters. -/
structure Faithful (source : List Char) (lexemes : List Lexeme) (reached : Nat) : Prop where
  inside : reached ≤ source.length
  stands : ∀ lexeme ∈ lexemes, lexeme.StandsIn source ∧ lexeme.span.stop ≤ reached
  ordered : lexemes.Pairwise fun earlier later => earlier.span.stop ≤ later.span.start
  few : lexemes.length ≤ reached
  covered : ∀ position < reached,
    (∃ lexeme ∈ lexemes, lexeme.span.start ≤ position ∧ position < lexeme.span.stop) ∨
      PassedOver source lexemes position

/-- Before anything is read nothing is left out. -/
theorem Faithful.nothing (source : List Char) : Faithful source [] 0 where
  inside := Nat.zero_le _
  stands := by simp
  ordered := .nil
  few := Nat.le_refl 0
  covered := fun _ impossible => absurd impossible (Nat.not_lt_zero _)

section

variable {source characters after : List Char} {earlier : List Lexeme} {reached position : Nat}
  {token : Token}

/-- Characters may be passed over. -/
theorem Faithful.skip (faithful : Faithful source earlier reached) (further : reached ≤ position)
    (inside : position ≤ source.length)
    (gap : ∀ between, reached ≤ between → between < position →
      PassedOver source earlier between) : Faithful source earlier position where
  inside := inside
  stands := fun lexeme member =>
    ⟨(faithful.stands lexeme member).1, Nat.le_trans (faithful.stands lexeme member).2 further⟩
  ordered := faithful.ordered
  few := Nat.le_trans faithful.few further
  covered := by
    intro between before
    by_cases old : between < reached
    · exact faithful.covered between old
    · exact Or.inr (gap between (by omega) before)

/-- The characters that stand at a position make a lexeme that stands there. -/
theorem lexeme_standsIn (some : characters ≠ [])
    (there : source.drop position = characters ++ after) :
    (lexeme token position characters).StandsIn source ∧
      position + characters.length ≤ source.length := by
  have size := congrArg List.length there
  have positive : 0 < characters.length := List.length_pos_iff.mpr some
  rw [List.length_drop, List.length_append] at size
  have bound : position + characters.length ≤ source.length := by omega
  refine ⟨⟨?_, bound, ?_⟩, bound⟩
  · simp only [lexeme]
    omega
  · simp only [lexeme, Span.text, Span.slice, Nat.add_sub_cancel_left, there, List.take_left]

/-- A lexeme is added behind what was reached, or behind what is passed over before it. -/
theorem Faithful.add (faithful : Faithful source earlier reached) (further : reached ≤ position)
    (some : characters ≠ []) (there : source.drop position = characters ++ after)
    (gap : ∀ between, reached ≤ between → between < position →
      PassedOver source (earlier ++ [lexeme token position characters]) between) :
    Faithful source (earlier ++ [lexeme token position characters])
      (position + characters.length) := by
  obtain ⟨stands, bound⟩ : (lexeme token position characters).StandsIn source ∧
      position + characters.length ≤ source.length := lexeme_standsIn some there
  have positive : 0 < characters.length := List.length_pos_iff.mpr some
  have few := faithful.few
  refine ⟨bound, ?_, ?_, ?_, ?_⟩
  · intro other member
    rcases List.mem_append.mp member with old | new
    · have before := (faithful.stands other old).2
      exact ⟨(faithful.stands other old).1, by omega⟩
    · rw [List.mem_singleton.mp new]
      exact ⟨stands, Nat.le_refl _⟩
  · apply List.pairwise_append.mpr
    refine ⟨faithful.ordered, List.pairwise_singleton _ _, ?_⟩
    intro first old last new
    rw [List.mem_singleton.mp new]
    exact Nat.le_trans (faithful.stands first old).2 further
  · simp only [List.length_append, List.length_singleton]
    omega
  · intro between before
    by_cases old : between < reached
    · rcases faithful.covered between old with ⟨other, member, covers⟩ | passed
      · exact Or.inl ⟨other, List.mem_append_left _ member, covers⟩
      · exact Or.inr (passed.append _)
    · by_cases skipped : between < position
      · exact Or.inr (gap between (by omega) skipped)
      · apply Or.inl
        exact ⟨_, List.mem_append_right _ List.mem_cons_self, by simp only [lexeme]; omega⟩

/-- A lexeme is added right behind what was reached. -/
theorem Faithful.next (faithful : Faithful source earlier position) (some : characters ≠ [])
    (there : source.drop position = characters ++ after) :
    Faithful source (earlier ++ [lexeme token position characters])
      (position + characters.length) :=
  faithful.add (Nat.le_refl _) some there (by intro between _ _; omega)

/-- A text, unless there is none. -/
def textOnly (position : Nat) (text : List Char) : List Lexeme :=
  if text = [] then [] else [lexeme .text position text]

/-- A text and a delimiter are a text, and then the delimiter. -/
theorem textThen_eq (position : Nat) (text : List Char) (delimiter : Lexeme) :
    textThen position text delimiter = textOnly position text ++ [delimiter] := by
  unfold textThen textOnly
  split <;> rfl

/-- A text without characters is no lexeme, and leaves out nothing. -/
theorem Faithful.text (faithful : Faithful source earlier position)
    (there : source.drop position = characters ++ after) :
    Faithful source (earlier ++ textOnly position characters) (position + characters.length) := by
  by_cases nothing : characters = []
  · subst nothing
    simpa [textOnly] using faithful
  · rw [textOnly, if_neg nothing]
    exact faithful.next nothing there

/-- The last delimiter opened the tag or comment that is being read, and if it is said to be
alone on its line, it is. -/
def Within (source : List Char) (earlier : List Lexeme) (delimiter : Delimiter) (alone : Bool) :
    Prop :=
  ∃ before opening inner, earlier = before ++ opening :: inner ∧
    opening.token = .opening delimiter ∧
    (∀ lexeme ∈ inner, lexeme.token.isDelimiter = false) ∧
    (alone = true → StandsAlone source delimiter opening.span.start)

/-- The last two delimiters opened and closed a tag or comment that is alone on its line, and
nothing was read after it. -/
def BehindAlone (source : List Char) (earlier : List Lexeme) (position : Nat) : Prop :=
  ∃ before opening inner closing delimiter, earlier = before ++ opening :: (inner ++ [closing]) ∧
    opening.token = .opening delimiter ∧ closing.token = .closing delimiter ∧
    (∀ lexeme ∈ inner, lexeme.token.isDelimiter = false) ∧
    StandsAlone source delimiter opening.span.start ∧ closing.span.stop = position

/-- A line starts behind some text. -/
def StartsLine (before : List Char) : Prop := before = [] ∨ ∃ earlier, before = earlier ++ ['\n']

/-- What the place of the lexer says about what was read. -/
def PlaceFits (source : List Char) (earlier : List Lexeme) (position : Nat) : Place → Prop
  | .outside lineStart afterAlone =>
    (lineStart = true → StartsLine (source.take position)) ∧
      (afterAlone = true → BehindAlone source earlier position)
  | .inside tag => Within source earlier tag.delimiter tag.alone
  | .remark alone => Within source earlier .comment alone

/-- The lexer is on track: what it read is faithful, what remains is the rest of the source,
and the place that it stands at fits. -/
structure OnTrack (source : List Char) (earlier : List Lexeme) (state : State) : Prop where
  faithful : Faithful source earlier state.position
  rest : state.rest = source.drop state.position
  fits : PlaceFits source earlier state.position state.place

/-- So it is at the start. -/
theorem onTrack_start (source : List Char) : OnTrack source [] (start source) where
  faithful := .nothing source
  rest := List.drop_zero.symm
  fits := ⟨fun _ => Or.inl List.take_zero, nofun⟩

/-- Within a tag lexemes may be read that are no delimiters. -/
theorem Within.append {delimiter : Delimiter} {alone : Bool} {more : List Lexeme}
    (within : Within source earlier delimiter alone)
    (others : ∀ lexeme ∈ more, lexeme.token.isDelimiter = false) :
    Within source (earlier ++ more) delimiter alone := by
  obtain ⟨before, opening, inner, rfl, opens, plain, stands⟩ := within
  refine ⟨before, opening, inner ++ more, by simp, opens, ?_, stands⟩
  intro lexeme member
  rcases List.mem_append.mp member with old | new
  · exact plain lexeme old
  · exact others lexeme new

/-- The closing delimiter of a tag that is alone on its line leads behind it. -/
theorem Within.close {delimiter : Delimiter} {closing : Lexeme}
    (within : Within source earlier delimiter true) (closes : closing.token = .closing delimiter) :
    BehindAlone source (earlier ++ [closing]) closing.span.stop := by
  obtain ⟨before, opening, inner, rfl, opens, plain, stands⟩ := within
  exact ⟨before, opening, inner, closing, delimiter, by simp, opens, closes, plain, stands rfl, rfl⟩

/-- The text read outside of tags is no delimiter. -/
theorem textOnly_plain :
    ∀ lexeme ∈ textOnly position characters, lexeme.token.isDelimiter = false := by
  intro found member
  unfold textOnly at member
  split at member
  · cases member
  · rw [List.mem_singleton.mp member]
    rfl

/-- The line that a text ends on starts in it, if it holds a line feed or starts a line. -/
theorem lastLine_append {before text : List Char} (starts : StartsLine before ∨ '\n' ∈ text) :
    lastLine (before ++ text) = lastLine text := by
  unfold lastLine
  rw [List.reverse_append, List.takeWhile_append]
  split
  · rename_i whole
    have same : text.reverse.takeWhile (fun c => decide (c ≠ '\n')) = text.reverse :=
      (List.takeWhile_prefix _).eq_of_length whole
    rw [same]
    rcases starts with (rfl | ⟨earlier, rfl⟩) | feed
    · simp
    · simp
    · have plain := List.all_eq_true.mp (same ▸ List.all_takeWhile) '\n' (List.mem_reverse.mpr feed)
      simp at plain
  · rfl

/-- Between two positions among blanks there are only blanks. -/
theorem blankBetween_of_drop {blanks : List Char} {first last : Nat}
    (there : source.drop position = blanks ++ after)
    (blank : ∀ c ∈ blanks, c = ' ' ∨ c = '\t' ∨ c = '\r') (low : position ≤ first)
    (order : first ≤ last) (high : last ≤ position + blanks.length) :
    BlankBetween source first last := by
  have drop : source.drop first = blanks.drop (first - position) ++ after := by
    have further : first = position + (first - position) := by omega
    rw [further, ← List.drop_drop, there, List.drop_append_of_le_length (by omega)]
    simp only [Nat.add_sub_cancel_left]
  intro c member
  rw [Span.slice, drop,
    List.take_append_of_le_length (by simp only [List.length_drop]; omega)] at member
  exact blank c (List.mem_of_mem_drop (List.mem_of_mem_take member))

/-- What is passed over behind a tag that is alone on its line is the rest of the line. -/
theorem Faithful.passLine {blanks feed : List Char} (faithful : Faithful source earlier position)
    (behind : BehindAlone source earlier position)
    (there : source.drop position = (blanks ++ feed) ++ after)
    (blank : ∀ c ∈ blanks, c = ' ' ∨ c = '\t' ∨ c = '\r') (feeds : feed = [] ∨ feed = ['\n']) :
    Faithful source earlier (position + (blanks ++ feed).length) := by
  obtain ⟨before, opening, inner, closing, delimiter, read, opens, closes, plain, alone, rfl⟩ :=
    behind
  have size := congrArg List.length there
  have short : feed.length ≤ 1 := by
    rcases feeds with rfl | rfl <;> simp
  have all : ∀ c ∈ blanks ++ feed, Text.isBlank c = true := by
    intro c member
    rcases List.mem_append.mp member with inBlanks | inFeed
    · rcases blank c inBlanks with rfl | rfl | rfl <;> decide
    · rcases feeds with rfl | rfl
      · cases inFeed
      · rw [List.mem_singleton.mp inFeed]
        decide
  simp only [List.length_drop, List.length_append] at size
  have inside := faithful.inside
  apply faithful.skip
  · omega
  · simp only [List.length_append]
    omega
  · intro between low high
    obtain ⟨index, rfl⟩ := Nat.exists_eq_add_of_le low
    have short : index < (blanks ++ feed).length := by omega
    have found : source[closing.span.stop + index]? = some (blanks ++ feed)[index] := by
      rw [← List.getElem?_drop, there, List.getElem?_append_left short, List.getElem?_eq_getElem]
    refine .lineEnd read opens closes plain alone low ?_ ⟨_, found, all _ (List.getElem_mem short)⟩
    rw [List.append_assoc] at there
    rw [List.length_append] at short
    exact blankBetween_of_drop there blank (Nat.le_refl _) low (by omega)

/-- The rest of a source follows what stands at a position. -/
theorem drop_behind (there : source.drop position = characters ++ after) :
    after = source.drop (position + characters.length) := by
  rw [← List.drop_drop, there, List.drop_left]

/-- The text kept before a tag that is alone on its line, and the rest of that line. -/
theorem keptText_append (text : List Char) : keptText true text ++ lastLine text = text := by
  have ends : lastLine text <:+ text := by
    have reversed := List.reverse_suffix.mpr
      (List.takeWhile_prefix (l := text.reverse) fun c => decide (c ≠ '\n'))
    rwa [List.reverse_reverse] at reversed
  exact List.suffix_iff_eq_append.mp ends

/-- The blanks of a line that ends here are spaces, tabs and carriage returns. -/
theorem blank_of_mem_lastLine {text : List Char} (blank : (lastLine text).all Text.isBlank = true) :
    ∀ c ∈ lastLine text, c = ' ' ∨ c = '\t' ∨ c = '\r' := by
  intro c member
  have isBlank := List.all_eq_true.mp blank c member
  have noFeed : c ≠ '\n' := by
    have is := List.all_eq_true.mp List.all_takeWhile c (List.mem_reverse.mp member)
    simpa using is
  simp only [Text.isBlank, Bool.or_eq_true, decide_eq_true_eq] at isBlank
  tauto

/-- A tag that the lexer takes to be alone on its line is. -/
theorem standsAlone_of_opensAlone {lineStart : Bool} {text : List Char} {delimiter : Delimiter}
    (starts : lineStart = true → StartsLine (source.take position))
    (there : source.drop position = text ++ (delimiter.opening ++ after))
    (alone : opensAlone lineStart text delimiter after = true) :
    StandsAlone source delimiter (position + text.length) := by
  simp only [opensAlone, Bool.and_eq_true, decide_eq_true_eq, aloneBefore, Bool.or_eq_true] at alone
  obtain ⟨⟨silent, line, blank⟩, ending⟩ := alone
  have before : source.take (position + text.length) = source.take position ++ text := by
    rw [List.take_add, there, List.take_left]
  constructor
  · exact silent
  · rw [before, lastLine_append]
    · exact blank
    · rcases line with isStart | feed
      · exact Or.inl (starts isStart)
      · exact Or.inr (by simpa using feed)
  · have behind : after = source.drop (position + text.length + 2) := by
      rw [drop_behind (drop_behind there).symm]
      rfl
    rwa [← behind]

/-- The text before an opening delimiter is read, all of it or without the indentation of a tag
that is alone on its line, and then the delimiter. -/
theorem Faithful.opening {lineStart alone : Bool} {text : List Char} {delimiter : Delimiter}
    (faithful : Faithful source earlier position)
    (starts : lineStart = true → StartsLine (source.take position))
    (there : source.drop position = text ++ (delimiter.opening ++ after))
    (isAlone : alone = opensAlone lineStart text delimiter after) :
    Faithful source
      (earlier ++ textThen position (keptText alone text)
        (lexeme (.opening delimiter) (position + text.length) delimiter.opening))
      (position + text.length + 2) := by
  have opened : source.drop (position + text.length) = delimiter.opening ++ after :=
    (drop_behind there).symm
  have some : delimiter.opening ≠ [] := List.cons_ne_nil _ _
  rw [textThen_eq, ← List.append_assoc]
  cases alone with
  | false => exact (faithful.text there).next some opened
  | true =>
    -- the indentation stands between the text that is kept and the delimiter
    have stands : StandsAlone source delimiter (position + text.length) :=
      standsAlone_of_opensAlone starts there isAlone.symm
    have indented : source.drop position =
        keptText true text ++ (lastLine text ++ (delimiter.opening ++ after)) := by
      rw [← List.append_assoc, keptText_append, there]
    have size := congrArg List.length (keptText_append text)
    rw [List.length_append] at size
    have blank : (lastLine text).all Text.isBlank = true := by
      have parts := isAlone.symm
      simp only [opensAlone, Bool.and_eq_true, aloneBefore] at parts
      exact parts.1.2.2
    apply (faithful.text indented).add (by omega) some opened
    intro between low high
    apply PassedOver.indentation (List.mem_append_right _ List.mem_cons_self) rfl stands high
    exact blankBetween_of_drop (drop_behind indented).symm (blank_of_mem_lastLine blank) low
      (Nat.le_of_lt high) (by simp only [lexeme]; omega)

/-- Every operator is a word. -/
theorem operatorAt_isWord {found : List Char} {length : Nat}
    (operator : operatorAt found = some (token, length)) : token.isWord = true := by
  unfold operatorAt at operator
  split at operator <;> cases operator <;> rfl

/-- Every token that is read inside of a tag is a word. -/
theorem tokenAt_isWord {inPath : Bool} {c : Char} {rest : List Char} {length : Nat}
    (read : tokenAt inPath c rest = .ok (token, length)) : token.isWord = true := by
  unfold tokenAt at read
  split at read
  · cases read
    exact operatorAt_isWord ‹_›
  · split at read
    · split at read <;> cases read
      rfl
    · split at read
      · cases inPath <;> cases read <;> rfl
      · split at read
        · cases read
          rfl
        · split at read
          · dsimp only at read
            split at read <;> cases read <;> rfl
          · cases read

/-- A place inside of a tag or comment fits behind its opening delimiter. -/
theorem placeFits_behind {delimiter : Delimiter} {opened : Span} {alone : Bool}
    (within : Within source earlier delimiter alone) :
    PlaceFits source earlier position (placeBehind delimiter opened alone) := by
  cases delimiter <;> exact within

/-- Every move keeps the lexer on track. -/
theorem OnTrack.move {state next : State} {found : List Lexeme}
    (track : OnTrack source earlier state) (move : Move state found next) :
    OnTrack source (earlier ++ found) next := by
  induction move with
  | @text lineStart position text some plain =>
    have there : source.drop position = text ++ [] := by
      rw [List.append_nil]
      exact track.rest.symm
    exact ⟨track.faithful.next some there, drop_behind there, nofun, nofun⟩
  | @opening lineStart alone position text after delimiter opened isAlone isOpened =>
    subst isOpened
    have there : source.drop position = text ++ (delimiter.opening ++ after) := track.rest.symm
    have starts : lineStart = true → StartsLine (source.take position) := track.fits.1
    refine ⟨track.faithful.opening starts there isAlone, ?_, placeFits_behind ?_⟩
    · exact drop_behind (drop_behind there).symm
    · rw [textThen_eq, ← List.append_assoc]
      refine ⟨_, _, [], rfl, rfl, by simp, ?_⟩
      intro isSet
      exact standsAlone_of_opensAlone starts there (isAlone.symm.trans isSet)
  | @skipping lineStart position rest found next later inductionHypothesis =>
    have behind : BehindAlone source earlier position := track.fits.2 rfl
    have there : source.drop position = rest := track.rest.symm
    apply inductionHypothesis
    obtain ⟨blanks, after, blank, ⟨whole, skipped⟩ | ⟨whole, skipped⟩⟩ := skipLineEnd_cases rest
    · have line : source.drop position = (blanks ++ ['\n']) ++ after := by
        rw [there, whole, List.append_assoc, List.singleton_append]
      have passed := track.faithful.passLine behind line blank (Or.inr rfl)
      have rest := drop_behind line
      rw [List.length_append, List.length_singleton] at passed rest
      rw [skipped]
      refine ⟨passed, rest, ?_, nofun⟩
      intro _
      refine Or.inr ⟨source.take position ++ blanks, ?_⟩
      have size : blanks.length + 1 = (blanks ++ ['\n']).length := by
        rw [List.length_append, List.length_singleton]
      dsimp only
      rw [List.take_add, line, size, List.take_left, List.append_assoc]
    · have line : source.drop position = (blanks ++ []) ++ after := by
        rw [there, whole, List.append_nil]
      have passed := track.faithful.passLine behind line blank (Or.inl rfl)
      rw [List.append_nil] at passed line
      rw [skipped]
      exact ⟨passed, drop_behind line, nofun, nofun⟩
  | @token tag position c taken rest after token begins read =>
    have there : source.drop position = taken ++ after := track.rest.symm
    have some : taken ≠ [] := List.length_pos_iff.mp (tokenAt_length read).1
    have within : Within source earlier tag.delimiter tag.alone := track.fits
    refine ⟨track.faithful.next some there, drop_behind there, within.append ?_⟩
    intro lexeme member
    rw [List.mem_singleton.mp member]
    exact Token.isDelimiter_of_isWord (tokenAt_isWord read)
  | @closing tag position after =>
    have there : source.drop position = tag.delimiter.closing ++ after := track.rest.symm
    have within : Within source earlier tag.delimiter tag.alone := track.fits
    refine ⟨track.faithful.next (List.cons_ne_nil _ _) there, drop_behind there, nofun, ?_⟩
    intro alone
    rw [alone] at within
    exact within.close rfl
  | @remark alone position text some =>
    have there : source.drop position = text ++ [] := by
      rw [List.append_nil]
      exact track.rest.symm
    have within : Within source earlier .comment alone := track.fits
    refine ⟨track.faithful.next some there, drop_behind there, within.append ?_⟩
    intro lexeme member
    rw [List.mem_singleton.mp member]
    rfl
  | @remarkEnd alone position text after =>
    have there : source.drop position = text ++ (Delimiter.comment.closing ++ after) :=
      track.rest.symm
    have within : Within source earlier .comment alone := track.fits
    rw [textThen_eq, ← List.append_assoc]
    refine ⟨(track.faithful.text there).next (List.cons_ne_nil _ _) (drop_behind there).symm,
      drop_behind (drop_behind there).symm, nofun, ?_⟩
    intro isAlone
    rw [show alone = true from isAlone] at within
    exact (within.append textOnly_plain).close rfl

end

end Lexer

end Stencil
