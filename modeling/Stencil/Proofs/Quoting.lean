import Stencil.Expr.Parser
import Stencil.Token.Lexer

/-!
# Texts between quotes

How a text may be written between two quotes: a backslash, the quote itself and a line end only
after a backslash, and every other character as it is or, where there is a mark for it, after a
backslash too. Two scanners read what is written. The lexer looks for the quote that closes, the
parser for what the characters stand for, and both take a backslash for the start of an escape
exactly if an even number of backslashes stands right before it.
-/

namespace Stencil

namespace Text

/-- The marks that may stand after a backslash, each with the character it stands for. -/
def escapes : List (Char × Char) :=
  [('n', '\n'), ('r', '\r'), ('t', '\t'), ('\\', '\\'), ('"', '"'), ('\x27', '\x27')]

/-- What is written between two quotes stands for the text. -/
inductive Quoted (quote : Char) : List Char → List Char → Prop
  | nil : Quoted quote [] []
  | plain {c : Char} {text written : List Char} (free : c ∉ [quote, '\\', '\n', '\r'])
    (rest : Quoted quote text written) : Quoted quote (c :: text) (c :: written)
  | escaped {mark c : Char} {text written : List Char} (stands : (mark, c) ∈ escapes)
    (rest : Quoted quote text written) : Quoted quote (c :: text) ('\\' :: mark :: written)

/-- The two characters that a text may be written between. -/
def quotes : List Char := ['"', '\x27']

/-- The parser knows a mark exactly if it may stand after a backslash. -/
theorem escaped?_eq_some_iff {mark c : Char} :
    Expr.Parser.escaped? mark = some c ↔ (mark, c) ∈ escapes := by
  constructor
  · intro known
    unfold Expr.Parser.escaped? at known
    split at known <;> cases known <;> decide
  · intro stands
    have all : ∀ entry ∈ escapes, Expr.Parser.escaped? entry.1 = some entry.2 := by decide
    exact all (mark, c) stands

/-- No mark is a line end. -/
theorem mark_ne {mark c : Char} (stands : (mark, c) ∈ escapes) : mark ≠ '\r' ∧ mark ≠ '\n' := by
  have all : ∀ entry ∈ escapes, entry.1 ≠ '\r' ∧ entry.1 ≠ '\n' := by decide
  exact all (mark, c) stands

/-- There is a mark for every character that needs one. -/
theorem exists_mark {quote c : Char} (isQuote : quote ∈ quotes)
    (bound : c ∈ [quote, '\\', '\n', '\r']) : ∃ mark, (mark, c) ∈ escapes := by
  have marked : ∀ quote ∈ quotes, ∀ c ∈ [quote, '\\', '\n', '\r'],
      (escapes.any fun entry => entry.2 = c) = true := by
    simp [quotes, escapes]
  obtain ⟨⟨mark, stood⟩, found, same⟩ := List.any_eq_true.mp (marked quote isQuote c bound)
  exact ⟨mark, of_decide_eq_true same ▸ found⟩

/-- Every text can be written between two quotes of either kind. -/
theorem exists_quoted {quote : Char} (isQuote : quote ∈ quotes) (text : List Char) :
    ∃ written, Quoted quote text written := by
  induction text with
  | nil => exact ⟨[], .nil⟩
  | cons c text inductionHypothesis =>
    obtain ⟨written, quoted⟩ := inductionHypothesis
    by_cases bound : c ∈ [quote, '\\', '\n', '\r']
    · obtain ⟨mark, stands⟩ := exists_mark isQuote bound
      exact ⟨'\\' :: mark :: written, .escaped stands quoted⟩
    · exact ⟨c :: written, .plain bound quoted⟩

namespace Quoted

variable {quote : Char} {text written : List Char}

/-- The lexer finds what is written up to the quote that closes. -/
theorem quotedLength_eq (quoted : Quoted quote text written) (isQuote : quote ∈ quotes)
    (after : List Char) :
    Lexer.quotedLength quote false (written ++ quote :: after) = .ok (written.length + 1) := by
  have apart : ∀ quote ∈ quotes, quote ≠ '\\' ∧ quote ≠ '\r' ∧ quote ≠ '\n' := by
    simp [quotes]
  obtain ⟨notBackslash, notCarriage, notFeed⟩ := apart quote isQuote
  induction quoted with
  | nil => simp [Lexer.quotedLength, notCarriage, notFeed]
  | plain free rest inductionHypothesis =>
    simp only [List.mem_cons, List.not_mem_nil, or_false, not_or] at free
    simp [Lexer.quotedLength, free, inductionHypothesis]
  | escaped stands rest inductionHypothesis =>
    simp [Lexer.quotedLength, mark_ne stands, notBackslash.symm, inductionHypothesis]

/-- The parser reads what is written as the text. -/
theorem unescape_eq (quoted : Quoted quote text written) (position : Nat) :
    Expr.Parser.unescape position written = .ok text := by
  induction quoted generalizing position with
  | nil => rfl
  | plain free rest inductionHypothesis =>
    simp only [List.mem_cons, not_or] at free
    rw [Expr.Parser.unescape]
    · simp [inductionHypothesis, Except.map]
    · exact fun same => (free.2.1 same).elim
    · exact fun _ _ same => (free.2.1 same).elim
  | escaped stands rest inductionHypothesis =>
    rw [Expr.Parser.unescape, escaped?_eq_some_iff.mpr stands]
    simp [inductionHypothesis, Except.map]

end Quoted

/-- How many backslashes stand at the end. -/
def backslashesAtEnd (text : List Char) : Nat := (text.reverse.takeWhile (· = '\\')).length

/-- A backslash stands at the place, no other one escapes it, and the character behind it is no
mark. -/
def StraysAt (text : List Char) (place : Nat) : Prop :=
  text[place]? = some '\\' ∧ backslashesAtEnd (text.take place) % 2 = 0 ∧
    ∃ mark, text[place + 1]? = some mark ∧ ∀ c, (mark, c) ∉ escapes

/-- A character that is no backslash ends the run of those before it. -/
theorem backslashesAtEnd_cons {c : Char} (other : c ≠ '\\') (text : List Char) :
    backslashesAtEnd (c :: text) = backslashesAtEnd text := by
  unfold backslashesAtEnd
  rw [List.reverse_cons, List.takeWhile_append]
  split
  · rename_i whole
    simp [other, whole]
  · rfl

/-- A backslash and the character behind it do not change whether the run of backslashes at the
end is even. -/
theorem backslashesAtEnd_pair (mark : Char) (text : List Char) :
    backslashesAtEnd ('\\' :: mark :: text) % 2 = backslashesAtEnd text % 2 := by
  unfold backslashesAtEnd
  rw [List.reverse_cons, List.reverse_cons, List.append_assoc, List.takeWhile_append]
  split
  · rename_i whole
    by_cases same : mark = '\\'
    · simp [same, whole]
    · simp [same, whole]
  · rfl

/-- Behind a character that is no backslash, a backslash is unescaped if it is without it. -/
theorem straysAt_cons {c : Char} (other : c ≠ '\\') {text : List Char} {place : Nat} :
    StraysAt (c :: text) (place + 1) ↔ StraysAt text place := by
  simp [StraysAt, backslashesAtEnd_cons other]

/-- So it is behind a backslash with the character behind that. -/
theorem straysAt_pair {mark : Char} {text : List Char} {place : Nat} :
    StraysAt ('\\' :: mark :: text) (place + 2) ↔ StraysAt text place := by
  simp [StraysAt, backslashesAtEnd_pair]

/-- The character behind a backslash that nothing escapes is itself escaped. -/
theorem not_straysAt_one {mark : Char} {text : List Char} :
    ¬ StraysAt ('\\' :: mark :: text) 1 := by
  simp [StraysAt, backslashesAtEnd]

/-- The parser points at the first backslash that is not escaped and has no mark behind it. -/
theorem unescape_of_straysAt {text : List Char} {place : Nat} (strays : StraysAt text place)
    (first : ∀ earlier < place, ¬ StraysAt text earlier) (position : Nat) :
    Expr.Parser.unescape position text = .error (position + place) := by
  -- The induction is on what the parser has read: one character, or a backslash and a mark.
  fun_induction Expr.Parser.unescape position text generalizing place with
  | case1 => simp [StraysAt] at strays
  | case2 =>
    obtain ⟨_, _, mark, behind, _⟩ := strays
    simp at behind
  | case3 position mark rest c known inductionHypothesis =>
    have stands := escaped?_eq_some_iff.mp known
    match place with
    | 0 =>
      obtain ⟨_, _, other, behind, unknown⟩ := strays
      cases behind
      exact absurd stands (unknown c)
    | 1 => exact absurd strays not_straysAt_one
    | place + 2 =>
      have read := inductionHypothesis (straysAt_pair.mp strays) fun earlier before found =>
        first (earlier + 2) (by omega) (straysAt_pair.mpr found)
      rw [read, Nat.add_right_comm, Nat.add_assoc]
      rfl
  | case4 position mark rest unknown =>
    have here : StraysAt ('\\' :: mark :: rest) 0 := by
      refine ⟨rfl, rfl, mark, rfl, fun c stands => ?_⟩
      rw [escaped?_eq_some_iff.mpr stands] at unknown
      cases unknown
    obtain rfl : place = 0 := by
      by_cases start : place = 0
      · exact start
      · exact absurd here (first 0 (by omega))
    rfl
  | case5 position c rest alone other inductionHypothesis =>
    have plain : c ≠ '\\' := by
      rintro rfl
      cases rest with
      | nil => exact alone rfl rfl
      | cons mark later => exact other mark later rfl rfl
    match place with
    | 0 =>
      obtain ⟨here, _⟩ := strays
      exact absurd (Option.some.inj here) plain
    | place + 1 =>
      have read := inductionHypothesis ((straysAt_cons plain).mp strays) fun earlier before found =>
        first (earlier + 1) (by omega) ((straysAt_cons plain).mpr found)
      rw [read, Nat.add_right_comm, Nat.add_assoc]
      rfl

end Text

end Stencil
