import Stencil.Proofs.Guards.Stacks
import Stencil.Proofs.Lexing.Tracking

/-!
# Lexemes that were looked into

The lexer can be run with a cursor into the source instead of the characters that remain, and
its lexemes can be read off the source by their spans. The parser takes for granted what they
look like: a keyword is one of those there are, a string has a quote at either end, and a number
consists of digits. All of this is guarded here, and no guard fails.
-/

namespace Stencil

/-- A string has its quote at either end, apart from each other. -/
def isQuoted (text : List Char) : Bool :=
  match text with
  | [] => false
  | first :: rest => (first = '"' || first = '\x27') && rest.getLast? = some first

namespace Lexeme

/-- Reads a lexeme off the source, and looks into its text as its token asks for. -/
def inspect (source : List Char) (lexeme : Lexeme) : Except Failure Lexeme :=
  if lexeme.span.start ≤ lexeme.span.stop ∧ lexeme.span.stop ≤ source.length then
    let text := lexeme.span.slice source
    let read := String.ofList text
    match lexeme.token with
    | .keyword _ =>
      match Keyword.ofWord? read with
      | some keyword => .ok ⟨.keyword keyword, read, lexeme.span⟩
      | none => .error (.crash (.keyword read))
    | .number =>
      if text.all Text.isDigit then .ok ⟨.number, read, lexeme.span⟩
      else .error (.crash (.digits read))
    | .index =>
      if text.all Text.isDigit then .ok ⟨.index, read, lexeme.span⟩
      else .error (.crash (.digits read))
    | .quoted =>
      if isQuoted text then .ok ⟨.quoted, read, lexeme.span⟩
      else .error (.crash (.quotes read))
    | token => .ok ⟨token, read, lexeme.span⟩
  else .error (.crash (.slice lexeme.span))

/-- The text is one that its token may have. -/
def Worded (token : Token) (text : List Char) : Prop :=
  match token with
  | .keyword keyword => Keyword.ofWord? (String.ofList text) = some keyword
  | .number => text.all Text.isDigit = true
  | .index => text.all Text.isDigit = true
  | .quoted => isQuoted text = true
  | _ => True

/-- A lexeme that stands in the source with such a text can be read off it. -/
theorem inspect_eq {source : List Char} {lexeme : Lexeme} (stands : lexeme.StandsIn source)
    (worded : Worded lexeme.token lexeme.text.toList) : lexeme.inspect source = .ok lexeme := by
  obtain ⟨token, text, span⟩ := lexeme
  obtain ⟨nonempty, inside, same⟩ := stands
  obtain rfl : text = span.text source := same
  simp only [Span.text, String.toList_ofList] at worded
  rw [inspect, if_pos ⟨Nat.le_of_lt nonempty, inside⟩]
  cases token <;> simp_all [Worded, Span.text]

end Lexeme

namespace Lexer

variable {source : List Char}

/-- No operator is a word whose text matters. -/
theorem operatorAt_worded {text characters : List Char} {token : Token} {length : Nat}
    (operator : operatorAt text = some (token, length)) : Lexeme.Worded token characters := by
  unfold operatorAt at operator
  split at operator <;> cases operator <;> trivial

/-- A string ends in its quote. -/
theorem getLast_of_quotedLength {quote : Char} {escaped : Bool} {rest : List Char} {length : Nat}
    (closed : quotedLength quote escaped rest = .ok length) :
    (rest.take length).getLast? = some quote := by
  fun_induction quotedLength quote escaped rest generalizing length with
  | case1 | case2 => cases closed
  | case3 escaped c rest _ ends =>
    cases closed
    simp_all
  | case4 escaped c rest _ _ inner later inductionHypothesis =>
    cases closed
    have last := inductionHypothesis later
    rw [List.take_succ_cons, List.getLast?_cons, last]
    rfl
  | case5 => cases closed

/-- What is read inside of a tag has a text that its token may have. -/
theorem tokenAt_worded {inPath : Bool} {c : Char} {rest : List Char} {token : Token}
    {length : Nat} (read : tokenAt inPath c rest = .ok (token, length)) :
    Lexeme.Worded token ((c :: rest).take length) := by
  have run (kind : Char → Bool) : (c :: rest).take ((rest.takeWhile kind).length + 1) =
      c :: rest.takeWhile kind := by
    rw [List.take_succ_cons, ← List.prefix_iff_eq_take.mp (List.takeWhile_prefix kind)]
  unfold tokenAt at read
  split at read
  · cases read
    exact operatorAt_worded ‹_›
  · split at read
    · rename_i quote
      split at read
      · rename_i closed
        cases read
        have last := getLast_of_quotedLength closed
        simpa [Lexeme.Worded, isQuoted, last] using quote
      · cases read
    · split at read
      · rename_i digit
        cases read
        rw [run]
        have digits : (c :: rest.takeWhile Text.isDigit).all Text.isDigit = true := by
          rw [List.all_cons, digit, List.all_takeWhile]
          rfl
        cases inPath <;> exact digits
      · split at read
        · cases read
          trivial
        · split at read
          · dsimp only at read
            split at read
            · rename_i keyword known
              cases read
              rw [List.length_cons, run]
              cases inPath with
              | true => cases known
              | false => exact known
            · cases read
              trivial
          · cases read

/-- What a move reads stands in the source, with texts that the tokens may have. -/
theorem Move.worded {state next : State} {found : List Lexeme} (move : Move state found next) :
    ∀ lexeme ∈ found, Lexeme.Worded lexeme.token lexeme.text.toList := by
  have pair {position : Nat} {text : List Char} {delimiter : Lexeme}
      (plain : Lexeme.Worded delimiter.token delimiter.text.toList) :
      ∀ lexeme ∈ textThen position text delimiter,
        Lexeme.Worded lexeme.token lexeme.text.toList := by
    intro lexeme member
    rw [textThen_eq] at member
    rcases List.mem_append.mp member with isText | isDelimiter
    · unfold textOnly at isText
      split at isText
      · cases isText
      · rw [List.mem_singleton.mp isText]
        trivial
    · rw [List.mem_singleton.mp isDelimiter]
      exact plain
  induction move with
  | text | closing | remark =>
    intro lexeme member
    rw [List.mem_singleton.mp member]
    trivial
  | opening _ isOpened =>
    subst isOpened
    exact pair trivial
  | skipping _ inductionHypothesis => exact inductionHypothesis
  | @token _ position _ taken _ _ token begins read =>
    have worded := tokenAt_worded read
    have same : (Lexer.lexeme token position taken).text.toList = taken := String.toList_ofList
    rw [begins, List.take_left] at worded
    intro lexeme member
    rw [List.mem_singleton.mp member, same]
    exact worded
  | remarkEnd => exact pair trivial

/-- The lexemes of a source, read with a cursor and looked into, and the flaw that ends them. -/
def guarded (source : List Char) : Nat → Place → Nat → Except Failure (List Lexeme × Option Flaw)
  | 0, _, _ => .error (.crash .endless)
  | steps + 1, place, cursor =>
    if cursor ≤ source.length then
      match step ⟨place, cursor, source.drop cursor⟩ with
      | .finished => .ok ([], none)
      | .flawed flaw => .ok ([], some flaw)
      | .read found next => do
        let looked ← found.mapM (Lexeme.inspect source)
        let later ← guarded source steps next.place next.position
        return (looked ++ later.1, later.2)
    else .error (.crash (.slice ⟨cursor, cursor⟩))

/-- What can be looked into one by one can be looked into. -/
theorem mapM_inspect {found : List Lexeme}
    (looked : ∀ lexeme ∈ found, lexeme.inspect source = .ok lexeme) :
    found.mapM (Lexeme.inspect source) = .ok found := by
  induction found with
  | nil => rfl
  | cons lexeme rest inductionHypothesis =>
    rw [List.forall_mem_cons] at looked
    rw [List.mapM_cons, looked.1, inductionHypothesis looked.2]
    rfl

/-- With a cursor the lexer that is on track reads the same lexemes. -/
theorem guarded_eq {earlier : List Lexeme} {state : State} (track : OnTrack source earlier state)
    {steps : Nat} (enough : state.rest.length < steps) :
    guarded source steps state.place state.position = .ok (run steps state) := by
  induction steps generalizing earlier state with
  | zero => omega
  | succ steps inductionHypothesis =>
    have same : (⟨state.place, state.position, source.drop state.position⟩ : State) = state := by
      rw [← track.rest]
    rw [guarded, if_pos track.faithful.inside, same, run]
    cases taken : step state with
    | finished | flawed => rfl
    | read found next =>
      have move := move_of_step taken
      have further := track.move move
      have shorter := move.shrinks
      have looked : ∀ lexeme ∈ found, lexeme.inspect source = .ok lexeme := by
        intro lexeme member
        have stands := (further.faithful.stands lexeme (List.mem_append_right _ member)).1
        exact Lexeme.inspect_eq stands (move.worded lexeme member)
      simp only [mapM_inspect looked, inductionHypothesis further (by omega : _ < steps)]
      rfl

/-- The lexemes of a source. -/
theorem guarded_lexemes (source : List Char) :
    guarded source (source.length + 1) (.outside true false) 0 = .ok (lexemes source) :=
  guarded_eq (onTrack_start source) (Nat.lt_succ_self _)

end Lexer

end Stencil
