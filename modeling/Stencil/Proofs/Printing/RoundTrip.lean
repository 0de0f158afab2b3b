import Mathlib
import Stencil.Proofs.Fitting.Templates
import Stencil.Proofs.Grammar.Completeness
import Stencil.Proofs.Printing.Image
import Stencil.Proofs.Printing.Spelling
import Stencil.Proofs.Sessions

/-!
# Printing and reading

An expression that the parser read is printed as a text that reads as the expression again,
where no variable in it is spelled like a keyword. Such a variable is only ever read right
after an index, and is a keyword everywhere else.
-/

namespace Stencil

namespace Source

/-- The characters of a value that is written with some words. -/
theorem toList_hole (words : List Word) :
    (hole (String.ofList (Word.spell words))).toList =
      '\x7b' :: '\x7b' :: (Word.spell (.blank :: (words ++ [.blank])) ++ ['\x7d', '\x7d']) := by
  simp [hole, Word.blank]

end Source

namespace Lexer

/-- The lexeme that opens a value that is written. -/
def holeOpening : Lexeme := lexeme (.opening .output) 0 Delimiter.output.opening

/-- The lexeme that closes it. -/
def holeClosing (position : Nat) : Lexeme :=
  lexeme (.closing .output) position Delimiter.output.closing

/-- The first step of a template that starts with the delimiter of a value reads that. -/
theorem step_hole (text : List Char) :
    step (start ('\x7b' :: '\x7b' :: text)) =
      .read [holeOpening] ⟨.inside ⟨.output, holeOpening.span, false, false⟩, 2, text⟩ := rfl

/-- Words behind the delimiter are read word for word, whatever is behind them. -/
theorem lexemes_begun {words : List Word} {after : List Char}
    (legible : Word.Legible false words after) :
    ∃ later, (lexemes ('\x7b' :: '\x7b' :: (Word.spell words ++ after))).1 =
      holeOpening :: (Word.layOut 2 words ++ later) := by
  obtain ⟨spare, length⟩ := Nat.exists_eq_add_of_le legible.length_le
  have steps : ('\x7b' :: '\x7b' :: (Word.spell words ++ after)).length + 1 =
      (words.length + (spare + after.length + 2)) + 1 := by
    simp only [List.length_cons, List.length_append, length]
    omega
  rw [lexemes, steps, run, step_hole]
  simp only []
  rw [run_of_legible _ legible]
  exact ⟨_, rfl⟩

/-- Separate words between delimiters are read word for word. -/
theorem lexemes_hole {words : List Word} (legible : Word.Legible false words ['\x7d', '\x7d']) :
    lexemes ('\x7b' :: '\x7b' :: (Word.spell words ++ ['\x7d', '\x7d'])) =
      (holeOpening :: (Word.layOut 2 words ++ [holeClosing (2 + (Word.spell words).length)]),
        none) := by
  have shorter := legible.length_le
  obtain ⟨spare, length⟩ := Nat.exists_eq_add_of_le shorter
  have steps : ('\x7b' :: '\x7b' :: (Word.spell words ++ ['\x7d', '\x7d'])).length + 1 =
      (words.length + (spare + 4)) + 1 := by
    simp only [List.length_cons, List.length_append, List.length_nil, length]
    omega
  rw [lexemes, steps, run, step_hole]
  simp only []
  rw [run_of_legible _ legible]
  rfl

end Lexer

/-- Behind the first delimiter stands an expression with the second one. -/
theorem Piece.parse_hole (setting : Setting) (rest : List Lexeme) :
    Piece.parse setting (Lexer.holeOpening :: rest) =
      (do
        let value ← Expr.parse
        let _ ← Parser.expect (.closing .output)
        return some (some (.output value)) : Parser (Option (Option Piece))) setting rest := by
  have token : Lexer.holeOpening.token = .opening .output := rfl
  rw [Piece.parse, Parser.bind_of_ok (Parser.peek_cons _)]
  simp only []
  rw [Parser.bind_of_ok (Parser.next_cons _ _)]
  simp only [token]

/-- An expression between the delimiters is read as a value to write out. -/
theorem Piece.parseAll_hole {setting : Setting} (complete : setting.flaw = none)
    {lexemes : List Lexeme} {value : Expr}
    (spelled : Grammar.Spells setting .disjunction lexemes value) (position : Nat) :
    Piece.parseAll setting (Lexer.holeOpening :: (lexemes ++ [Lexer.holeClosing position])) =
      ([.output value], none) := by
  have read : Expr.parse setting (lexemes ++ [Lexer.holeClosing position]) =
      .ok (value, [Lexer.holeClosing position]) := Expr.parse_of_spells spelled rfl []
  have closes : Parser.expect (.closing .output) setting [Lexer.holeClosing position] =
      .ok (Lexer.holeClosing position, []) := Parser.expect_cons rfl
  have piece : Piece.parse setting
      (Lexer.holeOpening :: (lexemes ++ [Lexer.holeClosing position])) =
        .ok (some (some (.output value)), []) := by
    rw [Piece.parse_hole, Parser.bind_of_ok read, Parser.bind_of_ok closes]
    rfl
  have nothing : Piece.parse setting [] = .ok (none, []) := by
    have end_ : Parser.peek setting [] = .ok (none, []) := by
      simp [Parser.peek, complete]
    rw [Piece.parse, Parser.bind_of_ok end_]
    rfl
  rw [Piece.parseAll, Piece.parseUpTo, piece]
  simp only [List.length_cons, Piece.parseUpTo, nothing]
  rfl

section

open Expr.Parser Stencil.Parser

/-- An expression that begins with a flawed primary is flawed so. -/
theorem Expr.parse_of_primary {setting : Setting} {first : Lexeme} {rest : List Lexeme}
    {flaw : Flaw} (token : first.token ≠ .keyword .negation)
    (flawed : ∀ whole, primary whole setting (first :: rest) = .error flaw) :
    Expr.parse setting (first :: rest) = .error flaw := by
  have compared : ∀ whole, comparison whole setting (first :: rest) = .error flaw := fun whole =>
    bind_of_error _ (bind_of_error _ (flawed whole))
  have negated : ∀ whole, negation whole setting (first :: rest) = .error flaw := fun whole =>
    (negation_of_other token rest).trans (compared whole)
  have whole : bounded ((first :: rest).length + 1) setting (first :: rest) = .error flaw :=
    bind_of_error _ (bind_of_error _ (negated _))
  rw [Expr.parse, whole]
  rfl

end

/-- A template that begins with a flawed expression to write out has no pieces before the flaw. -/
theorem Piece.parseAll_of_error {setting : Setting} {rest : List Lexeme} {flaw : Flaw}
    (failed : Expr.parse setting rest = .error flaw) :
    Piece.parseAll setting (Lexer.holeOpening :: rest) = ([], some flaw) := by
  have piece : Piece.parse setting (Lexer.holeOpening :: rest) = .error flaw := by
    rw [Piece.parse_hole]
    exact Parser.bind_of_error _ failed
  rw [Piece.parseAll, Piece.parseUpTo, piece]

namespace Word

variable {words : List Word}

/-- Separate words are legible between the delimiters. -/
theorem Separate.legible_hole (separate : Separate words) :
    Legible false (.blank :: (words ++ [.blank])) ['\x7d', '\x7d'] := by
  obtain ⟨c, rest, same, visible⟩ := separate.visible
  refine legible_cons_of_ends reads_blank ?_ rfl (legible_append.mpr
    ⟨separate.legible _ rfl, legible_cons_of_ends reads_blank rfl rfl trivial⟩)
  simp [blank, parted, same, Text.begins, visible]

/-- They are laid out between the delimiters. -/
theorem Separate.lexemes_hole (separate : Separate words) :
    (Lexer.lexemes (Source.hole (String.ofList (spell words))).toList).2 = none ∧
      ∃ position, (Lexer.lexemes (Source.hole (String.ofList (spell words))).toList).1.filter
        (fun lexeme => lexeme.token ≠ .blank) =
          Lexer.holeOpening :: (shown 3 words ++ [Lexer.holeClosing position]) := by
  have lexed := Lexer.lexemes_hole separate.legible_hole
  rw [← Source.toList_hole] at lexed
  have between : shown 2 (.blank :: (words ++ [.blank])) = shown 3 words := by
    rw [shown_blank, shown_append, shown_blank, shown_nil, List.append_nil]
  rw [lexed, ← between]
  exact ⟨rfl, _, by simp [shown, Lexer.holeOpening, Lexer.holeClosing, Lexer.lexeme]; rfl⟩

/-- There they stand. -/
theorem standAt_hole (words : List Word) :
    StandAt (Source.hole (String.ofList (spell words))).toList 3 words := by
  rw [Source.toList_hole]
  exact ⟨' ' :: ['\x7d', '\x7d'], by simp [blank]⟩

end Word

/-- Separate words that spell an expression are read as a value to write out. -/
theorem Template.compile_hole {arity? : String → Option Arity} {words : List Word} {value : Expr}
    (separate : Word.Separate words)
    (spelled : Grammar.Spells (setting arity? (Source.hole (String.ofList (Word.spell words))) none)
      .disjunction (Word.shown 3 words) value) (name : Option String) :
    compile arity? name (Source.hole (String.ofList (Word.spell words))) =
      .ok ⟨name, Source.hole (String.ofList (Word.spell words)), [.output value], [], false⟩ := by
  obtain ⟨flawless, position, shown⟩ := separate.lexemes_hole
  have read : pieces arity? (Source.hole (String.ofList (Word.spell words))) =
      ([.output value], none) := by
    unfold pieces
    simp only [shown, flawless]
    exact Piece.parseAll_hole rfl spelled position
  rw [compile, read]
  rfl

namespace Expr

variable {arity? : String → Option Arity} {expression : Expr}

end Expr

mutual

/-- Printing changes nothing for what takes a path as it is printed. -/
theorem Expr.obeys_respelled {path : Path → Bool} (filter : String → Bool)
    (kept : ∀ named, path (Path.respelled named) = path named) (expression : Expr) :
    expression.respelled.obeys path filter = expression.obeys path filter := by
  cases expression with
  | literal value => rfl
  | path named => exact kept named
  | call named arguments =>
    simp only [Expr.respelled, Expr.obeys, kept, exprsObey_respelled filter kept arguments]
  | filtered receiver name argument =>
    simp only [Expr.respelled, Expr.obeys, Expr.obeys_respelled filter kept receiver,
      optionObeys_respelled filter kept argument]
  | negated operand => exact Expr.obeys_respelled filter kept operand
  | connected connective left right =>
    simp only [Expr.respelled, Expr.obeys, Expr.obeys_respelled filter kept left,
      Expr.obeys_respelled filter kept right]
  | compared relation left right =>
    simp only [Expr.respelled, Expr.obeys, Expr.obeys_respelled filter kept left,
      Expr.obeys_respelled filter kept right]
termination_by structural expression

/-- The same for all expressions of a list. -/
theorem exprsObey_respelled {path : Path → Bool} (filter : String → Bool)
    (kept : ∀ named, path (Path.respelled named) = path named) (expressions : List Expr) :
    exprsObey path filter (exprsRespelled expressions) = exprsObey path filter expressions := by
  cases expressions with
  | nil => rfl
  | cons first rest =>
    simp only [exprsRespelled, exprsObey, Expr.obeys_respelled filter kept first,
      exprsObey_respelled filter kept rest]
termination_by structural expressions

/-- The same for an expression that need not be there. -/
theorem optionObeys_respelled {path : Path → Bool} (filter : String → Bool)
    (kept : ∀ named, path (Path.respelled named) = path named) (expression : Option Expr) :
    optionObeys path filter (optionRespelled expression) = optionObeys path filter expression := by
  cases expression with
  | none => rfl
  | some expression => exact Expr.obeys_respelled filter kept expression
termination_by structural expression

end

namespace Expr

variable {arity? : String → Option Arity} {expression : Expr}

end Expr

end Stencil
