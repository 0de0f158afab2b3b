import Stencil.Token.Lexer

/-!
# The moves of the lexer

What one step of the lexer can read, as a relation: text up to the end or up to an opening
delimiter, one token of a tag or its closing delimiter, the text of a comment or its closing
delimiter. After a tag that was alone on its line the end of the line is passed over first.
The characters that a move reads are the first of those that remain, so every move leaves
fewer, and a run goes on until the lexer stops. Whatever a move preserves, a run preserves.
-/

namespace Stencil.Lexer

/-- A text, unless there is none, and the delimiter after it. -/
def textThen (position : Nat) (text : List Char) (delimiter : Lexeme) : List Lexeme :=
  if text = [] then [delimiter] else [lexeme .text position text, delimiter]

/-- Whether a tag that opens between a text and what follows is alone on its line. -/
def opensAlone (lineStart : Bool) (text : List Char) (delimiter : Delimiter)
    (after : List Char) : Bool :=
  delimiter ≠ .output && aloneBefore lineStart text && aloneAfter delimiter after

/-- The text before a tag without the indentation of a tag that is alone on its line. -/
def keptText (alone : Bool) (text : List Char) : List Char :=
  if alone then text.take (text.length - (lastLine text).length) else text

/-- Where the lexer stands behind an opening delimiter. -/
def placeBehind (delimiter : Delimiter) (opened : Span) (alone : Bool) : Place :=
  match delimiter with
  | .comment => .remark alone
  | _ => .inside ⟨delimiter, opened, alone, false⟩

/-- What one step can read. -/
inductive Move : State → List Lexeme → State → Prop where
  | text {lineStart : Bool} {position : Nat} {text : List Char} (some : text ≠ [])
      (plain : splitOpening text = (text, none)) :
      Move ⟨.outside lineStart false, position, text⟩ [lexeme .text position text]
        ⟨.outside false false, position + text.length, []⟩
  | opening {lineStart alone : Bool} {position : Nat} {text after : List Char}
      {delimiter : Delimiter} {opened : Lexeme}
      (isAlone : alone = opensAlone lineStart text delimiter after)
      (isOpened : opened = lexeme (.opening delimiter) (position + text.length) delimiter.opening) :
      Move ⟨.outside lineStart false, position, text ++ (delimiter.opening ++ after)⟩
        (textThen position (keptText alone text) opened)
        ⟨placeBehind delimiter opened.span alone, position + text.length + 2, after⟩
  | skipping {lineStart : Bool} {position : Nat} {rest : List Char} {found : List Lexeme}
      {next : State}
      (later : Move ⟨.outside (skipLineEnd rest).1 false, position + (skipLineEnd rest).2.1,
        (skipLineEnd rest).2.2⟩ found next) :
      Move ⟨.outside lineStart true, position, rest⟩ found next
  | token {tag : OpenTag} {position : Nat} {c : Char} {taken rest after : List Char}
      {token : Token} (begins : c :: rest = taken ++ after)
      (read : tokenAt tag.inPath c rest = .ok (token, taken.length)) :
      Move ⟨.inside tag, position, taken ++ after⟩ [lexeme token position taken]
        ⟨.inside { tag with inPath := continuesPath tag.inPath token }, position + taken.length,
          after⟩
  | closing {tag : OpenTag} {position : Nat} {after : List Char} :
      Move ⟨.inside tag, position, tag.delimiter.closing ++ after⟩
        [lexeme (.closing tag.delimiter) position tag.delimiter.closing]
        ⟨.outside false tag.alone, position + 2, after⟩
  | remark {alone : Bool} {position : Nat} {text : List Char} (some : text ≠ []) :
      Move ⟨.remark alone, position, text⟩ [lexeme .text position text]
        ⟨.remark alone, position + text.length, []⟩
  | remarkEnd {alone : Bool} {position : Nat} {text after : List Char} :
      Move ⟨.remark alone, position, text ++ (Delimiter.comment.closing ++ after)⟩
        (textThen position text
          (lexeme (.closing .comment) (position + text.length) Delimiter.comment.closing))
        ⟨.outside false alone, position + text.length + 2, after⟩

/-- The text before the first opening delimiter, that delimiter and what follows are all. -/
theorem splitOpening_append {rest text after : List Char} {delimiter : Delimiter}
    (split : splitOpening rest = (text, some (delimiter, after))) :
    rest = text ++ (delimiter.opening ++ after) := by
  fun_induction splitOpening rest generalizing text with
  | case1 => cases split
  | case2 | case3 | case4 => cases split; rfl
  | case5 c rest =>
    rename_i inner inductionHypothesis
    obtain ⟨rfl, found⟩ := Prod.mk.inj split
    have later : rest = inner.1 ++ (delimiter.opening ++ after) :=
      inductionHypothesis (Prod.ext rfl found)
    rw [List.cons_append, ← later]

/-- Without an opening delimiter all is text. -/
theorem splitOpening_of_none {rest : List Char} (none : (splitOpening rest).2 = none) :
    splitOpening rest = (rest, .none) := by
  fun_induction splitOpening rest with
  | case1 => rfl
  | case2 | case3 | case4 => cases none
  | case5 c rest _ _ _ inner inductionHypothesis =>
    have later : inner = (rest, .none) := inductionHypothesis none
    rw [later]

/-- A closing delimiter that starts here is the first of the characters. -/
theorem closing_append_of_delimiterAt {c : Char} {rest : List Char} {delimiter : Delimiter}
    (found : delimiterAt (c :: rest) = some (.closing delimiter)) :
    c :: rest = delimiter.closing ++ rest.drop 1 := by
  unfold delimiterAt at found
  split at found <;> simp_all [Delimiter.closing, Delimiter.closer]
  all_goals subst delimiter; rfl

/-- An operator has one or two characters, which are there. -/
theorem operatorAt_length {text : List Char} {token : Token} {length : Nat}
    (found : operatorAt text = some (token, length)) : 0 < length ∧ length ≤ text.length := by
  unfold operatorAt at found
  split at found <;> cases found <;> simp

/-- A string ends within the characters that follow its first quote. -/
theorem quotedLength_bound {quote : Char} {escaped : Bool} {rest : List Char} {length : Nat}
    (closed : quotedLength quote escaped rest = .ok length) :
    0 < length ∧ length ≤ rest.length := by
  fun_induction quotedLength quote escaped rest generalizing length with
  | case1 | case2 => cases closed
  | case3 => cases closed; simp
  | case4 escaped c rest _ _ inner later inductionHypothesis =>
    cases closed
    have bound := inductionHypothesis later
    simp only [List.length_cons]
    omega
  | case5 => cases closed

/-- A token has at least one character, and no more than there are. -/
theorem tokenAt_length {inPath : Bool} {c : Char} {rest : List Char} {token : Token}
    {length : Nat} (read : tokenAt inPath c rest = .ok (token, length)) :
    0 < length ∧ length ≤ (c :: rest).length := by
  have run : ∀ kind : Char → Bool, (rest.takeWhile kind).length ≤ rest.length := fun kind =>
    (List.takeWhile_sublist kind).length_le
  unfold tokenAt at read
  split at read
  · rename_i found operator
    cases read
    exact operatorAt_length operator
  · split at read
    · split at read
      · rename_i closed
        cases read
        have bound := quotedLength_bound closed
        simp only [List.length_cons]
        omega
      · cases read
    · simp only [List.length_cons]
      split at read
      · cases read
        have bound := run Text.isDigit
        omega
      · split at read
        · cases read
          have bound := run Text.isBlank
          omega
        · have bound := run Text.isNameContinue
          split at read
          · dsimp only at read
            split at read <;> cases read <;> simp only [List.length_cons] <;> omega
          · cases read

/-- What a step reads inside of a tag. -/
theorem move_of_insideStep {tag : OpenTag} {position : Nat} {c : Char} {rest : List Char}
    {found : List Lexeme} {next : State}
    (taken : insideStep tag position c rest = .read found next) :
    Move ⟨.inside tag, position, c :: rest⟩ found next := by
  unfold insideStep at taken
  split at taken
  · cases taken
  · rename_i token other delimiter
    split at taken
    · rename_i closes
      cases taken
      rw [closes] at delimiter ⊢
      rw [closing_append_of_delimiterAt delimiter, List.drop_one]
      exact .closing
    · cases taken
  · split at taken
    · cases taken
    · rename_i token length read
      cases taken
      have bound := (tokenAt_length read).2
      have whole : c :: rest = (c :: rest).take length ++ (c :: rest).drop length :=
        (List.take_append_drop _ _).symm
      have size : ((c :: rest).take length).length = length := List.length_take_of_le bound
      have move : Move ⟨.inside tag, position, (c :: rest).take length ++ (c :: rest).drop length⟩
          _ _ := .token whole (by rw [size]; exact read)
      rwa [← whole, size] at move

/-- What a step reads of a comment. -/
theorem move_of_remarkStep {alone : Bool} {position : Nat} {rest : List Char}
    {found : List Lexeme} {next : State} (some : rest ≠ [])
    (taken : remarkStep alone position rest = .read found next) :
    Move ⟨.remark alone, position, rest⟩ found next := by
  unfold remarkStep at taken
  split at taken
  · cases taken
    exact .remark some
  · rename_i text after split
    cases taken
    rw [splitPair_append _ _ _ _ _ split]
    exact .remarkEnd

/-- What a step reads outside of tags. -/
theorem move_of_outsideStep {lineStart : Bool} {position : Nat} {rest : List Char}
    {found : List Lexeme} {next : State} (some : rest ≠ [])
    (taken : outsideStep lineStart position rest = .read found next) :
    Move ⟨.outside lineStart false, position, rest⟩ found next := by
  unfold outsideStep at taken
  split at taken
  · rename_i text split
    have plain : splitOpening rest = (rest, none) := splitOpening_of_none (by rw [split])
    obtain rfl : rest = text := (Prod.mk.inj (plain.symm.trans split)).1
    cases taken
    exact .text some plain
  · rename_i text delimiter after split
    cases taken
    rw [splitOpening_append split]
    have move : Move ⟨.outside lineStart false, position, text ++ (delimiter.opening ++ after)⟩
        _ _ := .opening rfl rfl
    cases delimiter <;> exact move

/-- A step that reads something makes a move. -/
theorem move_of_step {state next : State} {found : List Lexeme}
    (taken : step state = .read found next) : Move state found next := by
  obtain ⟨place, position, rest⟩ := state
  cases rest with
  | nil => cases taken
  | cons c rest =>
    cases place with
    | inside tag => exact move_of_insideStep taken
    | remark alone => exact move_of_remarkStep (List.cons_ne_nil c rest) taken
    | outside lineStart afterAlone =>
      cases afterAlone with
      | false => exact move_of_outsideStep (List.cons_ne_nil c rest) taken
      | true =>
        simp only [step] at taken
        split at taken
        · cases taken
        · rename_i some
          exact .skipping (move_of_outsideStep some taken)

/-- A step that finds nothing stands at the end, or before the end of the last line. -/
theorem finished_of_step {state : State} (ended : step state = .finished) :
    state.rest = [] ∨
      ∃ lineStart, state.place = .outside lineStart true ∧ (skipLineEnd state.rest).2.2 = [] := by
  obtain ⟨place, position, rest⟩ := state
  cases rest with
  | nil => exact Or.inl rfl
  | cons c rest =>
    refine Or.inr ?_
    cases place with
    | inside tag =>
      simp only [step, insideStep] at ended
      repeat' split at ended
      all_goals cases ended
    | remark alone =>
      simp only [step, remarkStep] at ended
      split at ended <;> cases ended
    | outside lineStart afterAlone =>
      cases afterAlone with
      | false =>
        simp only [step, outsideStep] at ended
        split at ended <;> cases ended
      | true =>
        simp only [step] at ended
        split at ended
        · rename_i nothing
          exact ⟨lineStart, rfl, nothing⟩
        · simp only [outsideStep] at ended
          split at ended <;> cases ended

/-- What is passed over at the end of a line: blanks, and one line feed if there is one. -/
theorem skipLineEnd_cases (rest : List Char) :
    ∃ blanks after, (∀ c ∈ blanks, c = ' ' ∨ c = '\t' ∨ c = '\r') ∧
      (rest = blanks ++ '\n' :: after ∧ skipLineEnd rest = (true, blanks.length + 1, after) ∨
        rest = blanks ++ after ∧ skipLineEnd rest = (false, blanks.length, after)) := by
  let isBlank : Char → Bool := fun c => c = ' ' || c = '\t' || c = '\r'
  have blank : ∀ c ∈ rest.takeWhile isBlank, c = ' ' ∨ c = '\t' ∨ c = '\r' := by
    intro c member
    have is := List.all_eq_true.mp List.all_takeWhile c member
    simpa [isBlank, or_assoc] using is
  have whole : rest = rest.takeWhile isBlank ++ rest.drop (rest.takeWhile isBlank).length :=
    (List.prefix_iff_eq_append.mp (List.takeWhile_prefix isBlank)).symm
  refine ⟨rest.takeWhile isBlank, (skipLineEnd rest).2.2, blank, ?_⟩
  unfold skipLineEnd
  dsimp only
  split
  · rename_i after found
    left
    exact ⟨found ▸ whole, rfl⟩
  · right
    exact ⟨whole, rfl⟩

/-- Every move leaves fewer characters. -/
theorem Move.shrinks {state next : State} {found : List Lexeme} (move : Move state found next) :
    next.rest.length < state.rest.length := by
  induction move with
  | text some => exact List.length_pos_iff.mpr some
  | opening | closing | remarkEnd => simp +arith [Delimiter.opening, Delimiter.closing]
  | @skipping _ _ rest _ _ _ inductionHypothesis =>
    have fewer : (skipLineEnd rest).2.2.length ≤ rest.length := by
      obtain ⟨blanks, after, _, ⟨rfl, skipped⟩ | ⟨rfl, skipped⟩⟩ := skipLineEnd_cases rest
      · simp only [skipped, List.length_append, List.length_cons]
        omega
      · simp only [skipped, List.length_append]
        omega
    exact Nat.lt_of_lt_of_le inductionHypothesis fewer
  | token begins read =>
    have some := (tokenAt_length read).1
    simp only [List.length_append]
    omega
  | remark some => exact List.length_pos_iff.mpr some

/-- Steps one after the other, with all that they read. -/
inductive Reads : State → List Lexeme → State → Prop where
  | nothing (state : State) : Reads state [] state
  | more {state middle last : State} {found later : List Lexeme}
      (taken : step state = .read found middle) (rest : Reads middle later last) :
      Reads state (found ++ later) last

/-- What every move preserves of the lexemes read and the state reached, all steps preserve. -/
theorem Reads.preserves {kept : List Lexeme → State → Prop}
    (preserved : ∀ {earlier state found next}, kept earlier state → Move state found next →
      kept (earlier ++ found) next)
    {state last : State} {later : List Lexeme} (reads : Reads state later last)
    (earlier : List Lexeme) (holds : kept earlier state) : kept (earlier ++ later) last := by
  induction reads generalizing earlier with
  | nothing => rwa [List.append_nil]
  | more taken rest inductionHypothesis =>
    rw [← List.append_assoc]
    exact inductionHypothesis _ (preserved holds (move_of_step taken))

/-- The lexer can take no further step: nothing is left to be read, or there is a flaw. -/
def Stops (state : State) (flaw : Option Flaw) : Prop :=
  step state = .finished ∧ flaw = none ∨ ∃ found, step state = .flawed found ∧ flaw = some found

/-- With more steps than there are characters a run goes on until the lexer stops. The number of
steps is not what ends it: every step that reads something leaves fewer characters. -/
theorem run_stops (steps : Nat) (state : State) (enough : state.rest.length < steps) :
    ∃ last, Reads state (run steps state).1 last ∧ Stops last (run steps state).2 := by
  induction steps generalizing state with
  | zero => omega
  | succ steps inductionHypothesis =>
    cases taken : step state with
    | finished =>
      rw [run, taken]
      exact ⟨state, .nothing state, Or.inl ⟨taken, rfl⟩⟩
    | flawed flaw =>
      rw [run, taken]
      exact ⟨state, .nothing state, Or.inr ⟨flaw, taken, rfl⟩⟩
    | read found next =>
      have fewer : next.rest.length < state.rest.length := (move_of_step taken).shrinks
      obtain ⟨last, reads, stops⟩ := inductionHypothesis next (by omega)
      rw [run, taken]
      exact ⟨last, .more taken reads, stops⟩

/-- The lexemes of a template are what is read from its start until the lexer stops. -/
theorem lexemes_stops (source : List Char) :
    ∃ last, Reads (start source) (lexemes source).1 last ∧ Stops last (lexemes source).2 :=
  run_stops _ _ (Nat.lt_succ_self _)

end Stencil.Lexer
