import Stencil.Proofs.Lexing.Lookahead

/-!
# How a tag is read

A tag among the lexemes of a source, and the steps that read it. Where it opens, the lexer knows
whether anything but blanks stands before it on its line, even if the line began within or before
another tag, and looks ahead for its end. If it takes the tag to be alone, none of the lexemes
read so far stands in the indentation; and behind the closing delimiter the next lexeme begins on
the next line.
-/

namespace Stencil

/-- A tag or comment among lexemes: its delimiters and what stands between them, none of it a
delimiter. -/
structure Enclosure where
  delimiter : Delimiter
  opening : Lexeme
  inner : List Lexeme
  closing : Lexeme
  opens : opening.token = .opening delimiter
  closes : closing.token = .closing delimiter
  within : ∀ lexeme ∈ inner, lexeme.token.isDelimiter = false

/-- Its lexemes in order. -/
def Enclosure.lexemes (tag : Enclosure) : List Lexeme := tag.opening :: (tag.inner ++ [tag.closing])

/-- No string in it holds its closing delimiter. -/
def Enclosure.Plain (tag : Enclosure) : Prop :=
  ∀ word ∈ tag.inner, word.token = .quoted → ¬ tag.delimiter.closing <:+: word.text.toList

namespace Lexer

variable {source : List Char} {position : Nat} {earlier : List Lexeme}

/-- A text without a line feed goes on with the line before it. -/
theorem lastLine_append_of_not_mem {before text : List Char} (sameLine : '\n' ∉ text) :
    lastLine (before ++ text) = lastLine before ++ text := by
  have through : ∀ c ∈ text.reverse, decide (c ≠ '\n') = true := by
    intro c member
    rw [decide_eq_true_eq]
    rintro rfl
    exact sameLine (List.mem_reverse.mp member)
  rw [lastLine, List.reverse_append, List.takeWhile_append_of_pos through, List.reverse_append,
    List.reverse_reverse, lastLine]

/-- What is known of the line at a place outside of tags: it starts there, or something other than
blanks stands before the place on it, unless nothing is left to be read. -/
def LineFits (source : List Char) (position : Nat) (rest : List Char) : Place → Prop
  | .outside true afterAlone => StartsLine (source.take position) ∧ afterAlone = false
  | .outside false _ => rest = [] ∨ ∃ c ∈ lastLine (source.take position), Text.isBlank c = false
  | _ => True

/-- The lexer stands at its position in the source, and knows what is on the line. -/
structure Aligned (source : List Char) (state : State) : Prop where
  rest : source.drop state.position = state.rest
  fits : LineFits source state.position state.rest state.place

/-- So it does at the start. -/
theorem aligned_start (source : List Char) : Aligned source (start source) where
  rest := List.drop_zero
  fits := ⟨Or.inl List.take_zero, rfl⟩

/-- A closing delimiter is no blank on its line. -/
theorem lineFits_behind {delimiter : Delimiter} {afterAlone : Bool} {rest after : List Char}
    (there : source.drop position = delimiter.closing ++ after) :
    LineFits source (position + 2) rest (.outside false afterAlone) := by
  refine Or.inr ⟨'\x7d', ?_, by decide⟩
  have read : source.take (position + 2) = source.take position ++ delimiter.closing := by
    rw [List.take_add, there]
    rfl
  have sameLine : '\n' ∉ delimiter.closing := by cases delimiter <;> decide
  rw [read, lastLine_append_of_not_mem sameLine]
  exact List.mem_append_right _ (by simp [Delimiter.closing])

/-- Behind the line of a tag that is alone a line starts, or the tag is still on the line. -/
theorem Aligned.skip {lineStart : Bool} {rest : List Char}
    (aligned : Aligned source ⟨.outside lineStart true, position, rest⟩) :
    Aligned source ⟨.outside (skipLineEnd rest).1 false, position + (skipLineEnd rest).2.1,
      (skipLineEnd rest).2.2⟩ := by
  have there : source.drop position = rest := aligned.rest
  obtain ⟨blanks, after, blank, ⟨whole, skipped⟩ | ⟨whole, skipped⟩⟩ := skipLineEnd_cases rest
  · have line : source.drop position = (blanks ++ ['\n']) ++ after := by
      rw [there, whole, List.append_assoc, List.singleton_append]
    have size : blanks.length + 1 = (blanks ++ ['\n']).length := by
      rw [List.length_append, List.length_singleton]
    rw [skipped, size]
    refine ⟨(drop_behind line).symm, Or.inr ⟨source.take position ++ blanks, ?_⟩, rfl⟩
    dsimp only
    rw [List.take_add, line, List.take_left, List.append_assoc]
  · have line : source.drop position = blanks ++ after := by rw [there, whole]
    rw [skipped]
    refine ⟨(drop_behind line).symm, ?_⟩
    have sameLine : '\n' ∉ blanks := fun member => by simpa using blank _ member
    cases lineStart with
    | true => exact absurd aligned.fits.2 (by decide)
    | false =>
      rcases aligned.fits with nothing | ⟨c, member, visible⟩
      · obtain rfl : rest = [] := nothing
        exact Or.inl (List.append_eq_nil_iff.mp whole.symm).2
      · refine Or.inr ⟨c, ?_, visible⟩
        dsimp only
        rw [List.take_add, line, List.take_left, lastLine_append_of_not_mem sameLine]
        exact List.mem_append_left _ member

/-- It stays so with every move. -/
theorem Aligned.move {state next : State} {found : List Lexeme} (aligned : Aligned source state)
    (move : Move state found next) : Aligned source next := by
  induction move with
  | @text _ position text =>
    have there : source.drop position = text ++ [] := by
      rw [List.append_nil]
      exact aligned.rest
    exact ⟨(drop_behind there).symm, Or.inl rfl⟩
  | @opening _ _ position text after delimiter _ _ isOpened =>
    have there : source.drop position = text ++ (delimiter.opening ++ after) := aligned.rest
    refine ⟨(drop_behind (drop_behind there).symm).symm, ?_⟩
    cases delimiter <;> trivial
  | skipping later inductionHypothesis => exact inductionHypothesis aligned.skip
  | @token tag position _ taken _ after =>
    have there : source.drop position = taken ++ after := aligned.rest
    exact ⟨(drop_behind there).symm, trivial⟩
  | @closing tag position after =>
    have there : source.drop position = tag.delimiter.closing ++ after := aligned.rest
    exact ⟨(drop_behind there).symm, lineFits_behind there⟩
  | @remark _ position text =>
    have there : source.drop position = text ++ [] := by
      rw [List.append_nil]
      exact aligned.rest
    exact ⟨(drop_behind there).symm, trivial⟩
  | @remarkEnd _ position text after =>
    have there : source.drop position = text ++ (Delimiter.comment.closing ++ after) :=
      aligned.rest
    exact ⟨(drop_behind (drop_behind there).symm).symm, lineFits_behind (drop_behind there).symm⟩

/-- And with all that is read. -/
theorem Aligned.reads {state last : State} {found : List Lexeme} (aligned : Aligned source state)
    (reads : Reads state found last) : Aligned source last := by
  induction reads with
  | nothing => exact aligned
  | more taken _ inductionHypothesis =>
    exact inductionHypothesis (aligned.move (move_of_step taken))

/-- The lexer takes a tag to be alone before its end is read exactly if only blanks stand before
it on its line, and behind the first closing delimiter. -/
theorem Aligned.opensAlone_iff {lineStart : Bool} {text after : List Char} {delimiter : Delimiter}
    (aligned : Aligned source
      ⟨.outside lineStart false, position, text ++ (delimiter.opening ++ after)⟩) :
    opensAlone lineStart text delimiter after = true ↔
      StandsAlone source delimiter (position + text.length) := by
  have there : source.drop position = text ++ (delimiter.opening ++ after) := aligned.rest
  have starts : lineStart = true → StartsLine (source.take position) := by
    rintro rfl
    exact aligned.fits.1
  refine ⟨standsAlone_of_opensAlone starts there, fun alone => ?_⟩
  have before : source.take (position + text.length) = source.take position ++ text := by
    rw [List.take_add, there, List.take_left]
  have behind : source.drop (position + text.length + 2) = after :=
    (drop_behind (drop_behind there).symm).symm
  have ending := alone.after
  have indented := alone.before
  rw [behind] at ending
  rw [before] at indented
  simp only [opensAlone, aloneBefore, Bool.and_eq_true, decide_eq_true_eq, Bool.or_eq_true,
    List.contains_iff_mem]
  have line : lineStart = true ∨ '\n' ∈ text := by
    cases lineStart with
    | true => exact Or.inl rfl
    | false =>
      by_cases feed : '\n' ∈ text
      · exact Or.inr feed
      · rw [lastLine_append_of_not_mem feed] at indented
        rcases aligned.fits with nothing | ⟨c, member, visible⟩
        · simp [Delimiter.opening] at nothing
        · have blank := List.all_eq_true.mp indented c (List.mem_append_left _ member)
          rw [visible] at blank
          cases blank
  refine ⟨⟨alone.silent, line, ?_⟩, ending⟩
  rwa [lastLine_append (line.imp_left starts)] at indented

/-- What is kept of the text before a tag that is alone ends where its line begins. -/
theorem keptText_le {text after : List Char} {delimiter : Delimiter} {between : Nat}
    (starts : StartsLine (source.take position) ∨ '\n' ∈ text)
    (there : source.drop position = text ++ (delimiter.opening ++ after))
    (before : between < position + text.length)
    (sameLine : '\n' ∉ (Span.mk between (position + text.length)).slice source) :
    position + (keptText true text).length ≤ between := by
  have line : lastLine text = lastLine (source.take between) ++
      (Span.mk between (position + text.length)).slice source := by
    have opened : position + text.length = between + (position + text.length - between) := by omega
    rw [← lastLine_append_of_not_mem sameLine, ← lastLine_append starts]
    congr 1
    rw [Span.slice, ← List.take_add, ← opened, List.take_add, there, List.take_left]
  have size := congrArg List.length there
  have indentation := congrArg List.length line
  have whole := congrArg List.length (keptText_append text)
  simp only [List.length_append, List.length_drop, Span.slice, List.length_take,
    Delimiter.opening, List.length_cons, List.length_nil] at size indentation whole
  omega

/-- A lexeme that was read was read in one of the steps. -/
theorem Reads.at {state last : State} {found before after : List Lexeme} {one : Lexeme}
    (reads : Reads state found last) (split : found = before ++ one :: after) :
    ∃ earlier middle first second next later, Reads state earlier middle ∧
      step middle = .read (first ++ one :: second) next ∧ Reads next later last ∧
        before = earlier ++ first ∧ after = second ++ later := by
  induction reads generalizing before with
  | nothing => simp at split
  | @more state middle last found later taken rest inductionHypothesis =>
    -- it is among those that were read later, or the first step read it
    have goesOn {between : List Lexeme} (isBefore : before = found ++ between)
        (isLater : later = between ++ one :: after) :
        ∃ earlier middle first second next later, Reads state earlier middle ∧
          step middle = .read (first ++ one :: second) next ∧ Reads next later last ∧
            before = earlier ++ first ∧ after = second ++ later := by
      obtain ⟨earlier, place, first, second, next, left, reads, step, ends, rfl, same⟩ :=
        inductionHypothesis isLater
      refine ⟨found ++ earlier, place, first, second, next, left, .more taken reads, step, ends, ?_,
        same⟩
      rw [isBefore, List.append_assoc]
    rcases List.append_eq_append_iff.mp split with
      ⟨between, isBefore, isLater⟩ | ⟨read, isFound, isRest⟩
    · exact goesOn isBefore isLater
    · cases read with
      | nil =>
        rw [List.append_nil] at isFound
        exact goesOn (by rw [isFound, List.append_nil]) (by simpa using isRest.symm)
      | cons same second =>
        obtain ⟨rfl, rfl⟩ := List.cons.inj isRest
        exact ⟨[], state, before, second, middle, later, .nothing state, isFound ▸ taken, rest, rfl,
          rfl⟩

/-- Of a text and the delimiter behind it, only the delimiter is no text. -/
theorem textThen_split {text : List Char} {delimiter one : Lexeme} {first second : List Lexeme}
    (split : textThen position text delimiter = first ++ one :: second)
    (isDelimiter : one.token ≠ .text) :
    first = textOnly position text ∧ one = delimiter ∧ second = [] := by
  unfold textThen at split
  unfold textOnly
  cases first with
  | nil =>
    split at split <;> rename_i nothing
    · cases split
      simp [nothing]
    · cases split
      exact absurd rfl isDelimiter
  | cons same first =>
    split at split <;> rename_i nothing
    · simp at split
    · cases first with
      | nil =>
        cases split
        simp [nothing]
      | cons other first => simp at split

/-- Nothing of the indentation of a tag is in a lexeme before it. -/
def Unindented (source : List Char) (before : List Lexeme) (opening : Lexeme) : Prop :=
  ∀ position < opening.span.start, '\n' ∉ (Span.mk position opening.span.start).slice source →
    ∀ lexeme ∈ before, lexeme.span.stop ≤ position

/-- Where a move reads an opening delimiter, the lexer goes on behind it, and takes the tag to be
alone exactly if it looks like that. The indentation of such a tag is not read. -/
theorem Move.opened {state next : State} {found first second : List Lexeme} {one : Lexeme}
    {delimiter : Delimiter} (move : Move state found next) (aligned : Aligned source state)
    (reached : ∀ lexeme ∈ earlier, lexeme.span.stop ≤ state.position)
    (split : found = first ++ one :: second) (opens : one.token = .opening delimiter) :
    ∃ alone : Bool, (alone = true ↔ StandsAlone source delimiter one.span.start) ∧
      (alone = true → Unindented source (earlier ++ first) one) ∧ second = [] ∧
        one.span.stop = one.span.start + 2 ∧ next = ⟨placeBehind delimiter one.span alone,
          one.span.stop, source.drop one.span.stop⟩ := by
  have notText : one.token ≠ .text := by rw [opens]; nofun
  induction move with
  | text | remark | closing =>
    have member : one ∈ first ++ one :: second := by simp
    rw [← split, List.mem_singleton] at member
    rw [member] at opens
    cases opens
  | @token _ _ _ _ _ _ token _ read =>
    have member : one ∈ first ++ one :: second := by simp
    rw [← split, List.mem_singleton] at member
    rw [member] at opens
    obtain rfl : token = .opening delimiter := opens
    cases tokenAt_isWord read
  | remarkEnd =>
    obtain ⟨-, same, -⟩ := textThen_split split notText
    rw [same] at opens
    cases opens
  | skipping later inductionHypothesis =>
    refine inductionHypothesis aligned.skip (fun lexeme member => ?_) split
    exact Nat.le_trans (reached lexeme member) (Nat.le_add_right _ _)
  | @opening lineStart alone position text after opener opened isAlone isOpened =>
    obtain ⟨isText, rfl, isLast⟩ := textThen_split split notText
    subst isOpened
    cases opens
    have there : source.drop position = text ++ (delimiter.opening ++ after) := aligned.rest
    have opened : source.drop (position + text.length) = delimiter.opening ++ after :=
      (drop_behind there).symm
    refine ⟨alone, isAlone ▸ aligned.opensAlone_iff, ?_, isLast, rfl, ?_⟩
    · rintro rfl
      intro between before sameLine lexeme member
      have line : StartsLine (source.take position) ∨ '\n' ∈ text := by
        have parts := isAlone.symm
        simp only [opensAlone, aloneBefore, Bool.and_eq_true, Bool.or_eq_true,
          List.contains_iff_mem] at parts
        refine parts.1.2.1.imp_left ?_
        rintro rfl
        exact aligned.fits.1
      have kept := keptText_le line there before sameLine
      rcases List.mem_append.mp member with old | new
      · have early : lexeme.span.stop ≤ position := reached lexeme old
        omega
      · rw [isText, textOnly] at new
        split at new
        · cases new
        · rw [List.mem_singleton.mp new]
          exact kept
    · congr 1
      exact drop_behind opened

/-- What is read inside of a tag up to the next delimiter are evident words, and the delimiter
closes the tag. -/
theorem Reads.inside {tag : OpenTag} {rest : List Char} {last : State}
    {inner after : List Lexeme} {closing : Lexeme}
    (reads : Reads ⟨.inside tag, position, rest⟩ (inner ++ closing :: after) last)
    (within : ∀ lexeme ∈ inner, lexeme.token.isDelimiter = false)
    (closes : closing.token.isDelimiter = true) :
    ∃ behind, rest = characters inner ++ (tag.delimiter.closing ++ behind) ∧
      closing.span.stop = position + (characters inner).length + 2 ∧
        Reads ⟨.outside false tag.alone, closing.span.stop, behind⟩ after last ∧
          ∀ lexeme ∈ inner, Evident tag.delimiter lexeme.token lexeme.text.toList := by
  induction inner generalizing tag position rest with
  | nil =>
    generalize isFound : [] ++ closing :: after = found at reads
    cases reads with
    | nothing => cases isFound
    | more taken later =>
      cases move_of_step taken with
      | token begins read =>
        cases isFound
        have isWord := Token.isDelimiter_of_isWord (tokenAt_isWord read)
        cases closes.symm.trans isWord
      | closing =>
        cases isFound
        exact ⟨_, rfl, rfl, later, nofun⟩
  | cons word inner inductionHypothesis =>
    rw [List.forall_mem_cons] at within
    generalize isFound : (word :: inner) ++ closing :: after = found at reads
    cases reads with
    | nothing => cases isFound
    | more taken later =>
      cases move_of_step taken with
      | @token _ _ _ word _ left token begins read =>
        cases isFound
        obtain ⟨behind, same, stop, reads, evident⟩ := inductionHypothesis later within.2
        have first : Evident tag.delimiter token word := by
          have whole : (word ++ left).take word.length = word := List.take_left
          rw [← whole, ← begins]
          exact tokenAt_evident read
        have text : (lexeme token position word).text.toList = word := String.toList_ofList
        refine ⟨behind, ?_, ?_, reads, ?_⟩
        · rw [characters_cons, text, same, List.append_assoc]
        · rw [characters_cons, text, stop, List.length_append]
          omega
        · rw [List.forall_mem_cons, text]
          exact ⟨first, evident⟩
      | closing =>
        cases isFound
        cases within.1

/-- What stands before the first delimiter among lexemes is determined. -/
theorem firstDelimiter_unique {inner other after rest : List Lexeme} {closing ending : Lexeme}
    (same : inner ++ closing :: after = other ++ ending :: rest)
    (within : ∀ lexeme ∈ inner, lexeme.token.isDelimiter = false)
    (plain : ∀ lexeme ∈ other, lexeme.token.isDelimiter = false)
    (closes : closing.token.isDelimiter = true) (ends : ending.token.isDelimiter = true) :
    closing = ending ∧ after = rest := by
  have missing {lexeme : Lexeme} {lexemes more left : List Lexeme}
      (delimiter : lexeme.token.isDelimiter = true) (read : lexemes = more ++ lexeme :: left)
      (others : ∀ lexeme ∈ lexemes, lexeme.token.isDelimiter = false) : False := by
    have other := others lexeme (by simp [read])
    rw [delimiter] at other
    cases other
  rcases List.append_eq_append_iff.mp same with
    ⟨between, isOther, isRest⟩ | ⟨between, isInner, isRest⟩
  · cases between with
    | nil => exact List.cons.inj isRest
    | cons first between =>
      obtain ⟨rfl, _⟩ := List.cons.inj isRest
      exact (missing closes isOther plain).elim
  · cases between with
    | nil =>
      obtain ⟨same, rest⟩ := List.cons.inj isRest
      exact ⟨same.symm, rest.symm⟩
    | cons first between =>
      obtain ⟨rfl, _⟩ := List.cons.inj isRest
      exact (missing ends isInner within).elim

/-- What is read of a comment up to its end is the text before the first delimiter that closes
it. -/
theorem Reads.remark {alone : Bool} {rest : List Char} {last : State}
    {inner after : List Lexeme} {closing : Lexeme}
    (reads : Reads ⟨.remark alone, position, rest⟩ (inner ++ closing :: after) last)
    (within : ∀ lexeme ∈ inner, lexeme.token.isDelimiter = false)
    (closes : closing.token.isDelimiter = true) :
    ∃ text behind, splitPair '#' '\x7d' rest = some (text, behind) ∧
      closing.span.stop = position + text.length + 2 ∧
        Reads ⟨.outside false alone, closing.span.stop, behind⟩ after last := by
  generalize isFound : inner ++ closing :: after = found at reads
  cases reads with
  | nothing => simp at isFound
  | @more _ middle _ first later taken left =>
    cases rest with
    | nil => cases taken
    | cons c rest =>
      have taken : remarkStep alone position (c :: rest) = .read first middle := taken
      unfold remarkStep at taken
      split at taken
      · -- a comment without an end leaves nothing, but its closing delimiter was read
        cases taken
        cases left with
        | more next => cases next
        | nothing =>
          have member : closing ∈ inner ++ closing :: after := by simp
          rw [isFound, List.append_nil, List.mem_singleton] at member
          rw [member] at closes
          cases closes
      · rename_i text behind split
        cases taken
        have isRead : inner ++ closing :: after = textOnly position text ++
            lexeme (.closing .comment) (position + text.length) Delimiter.comment.closing ::
              later := by
          rw [isFound, List.append_cons (textOnly position text), ← textThen_eq]
          rfl
        obtain ⟨rfl, rfl⟩ := firstDelimiter_unique isRead within textOnly_plain closes rfl
        exact ⟨text, behind, split, rfl, left⟩

/-- Behind the opening delimiter of a tag the lexer reads up to its closing one. Where the
look-ahead takes the tag to be alone, only blanks follow; where only blanks follow, the look-ahead
takes a plain tag to be alone. -/
theorem Reads.closed {tag : Enclosure} {opened : Span} {alone : Bool} {rest : List Char}
    {last : State} {after : List Lexeme}
    (reads : Reads ⟨placeBehind tag.delimiter opened alone, position, rest⟩
      (tag.inner ++ tag.closing :: after) last) :
    ∃ text behind, rest = text ++ (tag.delimiter.closing ++ behind) ∧
      tag.closing.span.stop = position + text.length + 2 ∧
        Reads ⟨.outside false alone, tag.closing.span.stop, behind⟩ after last ∧
          (aloneAfter tag.delimiter rest = true → BlankLine behind) ∧
            (tag.Plain → BlankLine behind → aloneAfter tag.delimiter rest = true) := by
  have closes : tag.closing.token.isDelimiter = true := by
    rw [tag.closes]
    rfl
  cases isDelimiter : tag.delimiter with
  | comment =>
    rw [isDelimiter] at reads
    obtain ⟨text, behind, split, stop, later⟩ := reads.remark tag.within closes
    have seen : aloneAfter .comment rest = true ↔ BlankLine behind := aloneAfter_of_splitPair split
    exact ⟨text, behind, splitPair_append _ _ _ _ _ split, stop, later, seen.mp, fun _ => seen.mpr⟩
  | output | tag =>
    rw [isDelimiter] at reads
    obtain ⟨behind, rfl, stop, later, evident⟩ := reads.inside tag.within closes
    refine ⟨_, behind, rfl, stop, later, blankLine_of_aloneAfter evident, fun plain => ?_⟩
    rw [Enclosure.Plain, isDelimiter] at plain
    exact aloneAfter_of_blankLine evident plain

end Lexer

end Stencil
