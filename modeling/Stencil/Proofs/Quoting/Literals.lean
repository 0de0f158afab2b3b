import Stencil.Proofs.Chronicle.Emissions
import Stencil.Proofs.Lexing
import Stencil.Proofs.Printing.RoundTrip

/-!
# String literals

A text that is written between quotes is one lexeme, whatever it holds, and rendering a template
that writes out the literal gives the text. A backslash that is not escaped and has no mark
behind it is a flaw, and the parser points at the first one.
-/

namespace Stencil

/-- The word of a string literal: two quotes with something written between them. -/
def Word.literal (quote : Char) (written : List Char) : Word :=
  ⟨.quoted, quote :: (written ++ [quote])⟩

namespace Lexer

/-- The lexer looks no further than to the quote that closes. -/
theorem quotedLength_take {quote : Char} {escaped : Bool} {text : List Char} {length : Nat}
    (closes : quotedLength quote escaped text = .ok length) (other : List Char) :
    quotedLength quote escaped (text.take length ++ other) = .ok length := by
  fun_induction quotedLength quote escaped text generalizing length with
  | case1 => cases closes
  | case2 => cases closes
  | case3 escaped c rest inside ends =>
    cases closes
    simp [quotedLength, inside, ends]
  | case4 escaped c rest inside onward read found inductionHypothesis =>
    cases closes
    simp [quotedLength, inside, onward, inductionHypothesis found]
  | case5 => cases closes

/-- If the lexer reads a literal up to a quote, it does so whatever is behind that quote. -/
theorem quotedLength_of_delimited {quote : Char} (isQuote : quote ∈ Text.quotes) {inPath : Bool}
    {inside after : List Char}
    (delimited : tokenAt inPath quote (inside ++ quote :: after) =
      .ok (.quoted, inside.length + 2)) (other : List Char) :
    quotedLength quote false (inside ++ quote :: other) = .ok (inside.length + 1) := by
  have closes : quotedLength quote false (inside ++ quote :: after) = .ok (inside.length + 1) := by
    rw [tokenAt_quoted inPath isQuote] at delimited
    split at delimited
    · rename_i length read
      rw [read]
      injection delimited with same
      have size : length + 1 = inside.length + 2 := (Prod.mk.inj same).2
      exact congrArg Except.ok (by omega)
    · cases delimited
  have cut : (inside ++ quote :: after).take (inside.length + 1) = inside ++ [quote] := by
    rw [List.take_length_add_append]
    rfl
  have onward := quotedLength_take closes other
  rwa [cut, List.append_assoc] at onward

end Lexer

namespace Word

variable {quote : Char} {inside : List Char}

/-- Behind a blank a literal is read, if the quote that closes is the last. -/
theorem legible_literal (isQuote : quote ∈ Text.quotes)
    (closes : ∀ after,
      Lexer.quotedLength quote false (inside ++ quote :: after) = .ok (inside.length + 1))
    (after : List Char) : Legible false [blank, literal quote inside] after := by
  have apart : ∀ quote ∈ Text.quotes, Text.isBlank quote = false := by
    simp [Text.quotes, Text.isBlank]
  have reads : Legible false [literal quote inside] after :=
    ⟨reads_quoted isQuote closes, rfl, trivial⟩
  refine legible_cons_of_ends reads_blank ?_ rfl reads
  simp [parted, blank, literal, Text.begins, apart quote isQuote]

end Word

namespace Source

/-- A string literal between the delimiters of a value that is written. -/
def ofLiteral (quote : Char) (written : List Char) : String :=
  hole (String.ofList (Word.spell [.literal quote written]))

/-- A template that begins with a string literal, and goes on somehow. -/
def fromLiteral (quote : Char) (inside after : List Char) : String :=
  "\x7b\x7b " ++ String.ofList ((Word.literal quote inside).text ++ after)

/-- The characters of such a template are the words, with others behind them. -/
theorem toList_fromLiteral (quote : Char) (inside after : List Char) :
    (fromLiteral quote inside after).toList =
      '\x7b' :: '\x7b' :: (Word.spell [.blank, .literal quote inside] ++ after) := by
  simp [fromLiteral, Word.blank]

end Source

section

variable {quote : Char} {written : List Char}

/-- A literal is a word by itself. -/
theorem Word.separate_literal (isQuote : quote ∈ Text.quotes) {text : List Char}
    (quoted : Text.Quoted quote text written) : Separate [literal quote written] := by
  have visible : ∀ quote ∈ Text.quotes, Text.isBlank quote = false := by
    simp [Text.quotes, Text.isBlank]
  exact separate_single (reads_quoted isQuote (quoted.quotedLength_eq isQuote))
    ⟨quote, _, rfl, visible quote isQuote⟩ fun _ _ => rfl

/-- It is one lexeme, whatever the text holds. -/
theorem Lexer.lexemes_literal (isQuote : quote ∈ Text.quotes) {text : List Char}
    (quoted : Text.Quoted quote text written) :
    lexemes (Source.ofLiteral quote written).toList =
      ([holeOpening, lexeme .blank 2 [' '],
        lexeme .quoted 3 (Word.literal quote written).text,
        lexeme .blank (written.length + 5) [' '], holeClosing (written.length + 6)], none) := by
  have blankAt : 3 + (written.length + 1 + 1) = written.length + 5 := by omega
  have closingAt : 2 + (written.length + 2 + 1 + 1) = written.length + 6 := by omega
  rw [Source.ofLiteral, Source.toList_hole,
    lexemes_hole (Word.separate_literal isQuote quoted).legible_hole]
  simp [Word.layOut, Word.literal, Word.blank, blankAt, closingAt]

/-- A template that writes out a literal compiles to its text. -/
theorem Template.compile_literal (isQuote : quote ∈ Text.quotes) {text : String}
    (quoted : Text.Quoted quote text.toList written) (arity? : String → Option Arity)
    (name : Option String) :
    compile arity? name (Source.ofLiteral quote written) =
      .ok ⟨name, Source.ofLiteral quote written, [.output (.literal (.text text))], [], false⟩ := by
  let found := Lexer.lexeme .quoted 3 (Word.literal quote written).text
  have plain : Expr.Parser.unescape (found.span.start + 1)
      (found.text.toList.drop 1).dropLast = .ok text.toList := by
    simp only [found, Lexer.lexeme, Word.literal, String.toList_ofList, List.drop_one,
      List.tail_cons, List.dropLast_concat]
    exact quoted.unescape_eq _
  have spelled : Grammar.Spells (setting arity? (Source.ofLiteral quote written) none) .primary
      [found] (.literal (.text (String.ofList text.toList))) := .text found _ rfl plain
  rw [String.ofList_toList] at spelled
  exact compile_hole (Word.separate_literal isQuote quoted) (spelled.loosen (Nat.zero_le _)) name

end

/-- A template that writes out a text renders to it, unless a policy is active. -/
theorem Workshop.render_literal {shop : Workshop} {handle : Handle} {text : String}
    (wholly : handle.template.inherits = false)
    (isLiteral : handle.template.body = [.output (.literal (.text text))])
    (inactive : shop.context.activeEscaper? = none) : shop.render handle = (.ok text, shop) := by
  apply render_of_body wholly
  intro expand
  have emitted : (Station.start handle).emit (.text text)
      { shop with turns := [], sink := .buffer "" } =
        (.ok (), { shop with turns := [], sink := .buffer text }) := by
    rw [Station.emit_of_inactive rfl rfl inactive]
    simp [Run.write, Sink.write]
    rfl
  have stated : executeAll expand (.start handle) [.output (.literal (.text text))]
      { shop with turns := [], sink := .buffer "" } = (do
        (Station.start handle).emit (.text text)
        pure ()) { shop with turns := [], sink := .buffer "" } := rfl
  rw [isLiteral, stated, Run.bind_apply, emitted]
  rfl

namespace Expr

open Stencil.Expr.Parser Stencil.Parser

/-- A literal with a backslash that strays is flawed there. -/
theorem parse_of_straysAt {quote : Char} {inside : List Char} {place : Nat}
    (strays : Text.StraysAt inside place)
    (first : ∀ earlier < place, ¬ Text.StraysAt inside earlier) (setting : Setting)
    (position : Nat) (rest : List Lexeme) :
    Expr.parse setting
        (Lexer.lexeme .quoted position (Word.literal quote inside).text :: rest) =
      .error ⟨.unknownEscape, ⟨position + 1 + place, position + 3 + place⟩⟩ := by
  have read := Text.unescape_of_straysAt strays first (position + 1)
  have literal : textLiteral (Lexer.lexeme .quoted position (Word.literal quote inside).text)
      setting rest = .error ⟨.unknownEscape, ⟨position + 1 + place, position + 3 + place⟩⟩ := by
    simp only [textLiteral, Lexer.lexeme, Word.literal, String.toList_ofList, List.drop_one,
      List.tail_cons, List.dropLast_concat, read, fail]
    rw [show position + 1 + place + 2 = position + 3 + place by omega]
  apply parse_of_primary (by simp [Lexer.lexeme])
  intro whole
  have token : (Lexer.lexeme .quoted position (Word.literal quote inside).text).token = .quoted :=
    rfl
  rw [primary, bind_of_ok (next_cons _ _)]
  simp only [token]
  exact bind_of_error _ literal

end Expr

/-- A template that begins with it is flawed there. -/
theorem Template.compile_of_straysAt {quote : Char} {inside : List Char} {place : Nat}
    (isQuote : quote ∈ Text.quotes)
    (closes : ∀ after,
      Lexer.quotedLength quote false (inside ++ quote :: after) = .ok (inside.length + 1))
    (strays : Text.StraysAt inside place)
    (first : ∀ earlier < place, ¬ Text.StraysAt inside earlier) (after : List Char)
    (arity? : String → Option Arity) (name : Option String) :
    compile arity? name (Source.fromLiteral quote inside after) =
      .error ⟨.unknownEscape, ⟨4 + place, 6 + place⟩⟩ := by
  have legible : Word.Legible false [.blank, .literal quote inside] after :=
    Word.legible_literal isQuote closes after
  obtain ⟨later, found⟩ := Lexer.lexemes_begun legible
  rw [← Source.toList_fromLiteral] at found
  let literal := Lexer.lexeme .quoted 3 (Word.literal quote inside).text
  let rest := later.filter fun lexeme => lexeme.token ≠ .blank
  have ahead : (Lexer.lexemes (Source.fromLiteral quote inside after).toList).1.filter
      (fun lexeme => lexeme.token ≠ .blank) = Lexer.holeOpening :: literal :: rest := by
    rw [found]
    rfl
  have flawed : pieces arity? (Source.fromLiteral quote inside after) =
      ([], some ⟨.unknownEscape, ⟨4 + place, 6 + place⟩⟩) := by
    unfold pieces
    simp only [ahead]
    exact Piece.parseAll_of_error (Expr.parse_of_straysAt strays first _ 3 rest)
  rw [compile, flawed]
  rfl

/-- String literals carry any text. Every text can be written between two quotes of either kind;
so written, between the delimiters of a value, it is one lexeme whatever it holds, the template
compiles, and unless a policy is active it renders to the text. Where the lexer finds the end of
a literal in which a backslash that is not escaped has no mark behind it, the first such
backslash and the character behind it are pointed at: wherever an expression is asked for, and
so by a catalogue that compiles a template which begins with the literal. -/
theorem literals_carry_any_text {quote : Char} (isQuote : quote ∈ Text.quotes) :
    (∀ text, ∃ written, Text.Quoted quote text written) ∧
    (∀ (text : String) (written : List Char), Text.Quoted quote text.toList written →
      Lexer.lexemes (Source.ofLiteral quote written).toList =
        ([Lexer.holeOpening, Lexer.lexeme .blank 2 [' '],
          Lexer.lexeme .quoted 3 (Word.literal quote written).text,
          Lexer.lexeme .blank (written.length + 5) [' '],
          Lexer.holeClosing (written.length + 6)], none) ∧
      ∀ (arity? : String → Option Arity) (name : Option String), ∃ template,
        Template.compile arity? name (Source.ofLiteral quote written) = .ok template ∧
        ∀ (shop : Workshop) (handle : Handle), handle.template = template →
          shop.context.activeEscaper? = none → shop.render handle = (.ok text, shop)) ∧
    ∀ (inside after : List Char) (inPath : Bool),
      Lexer.tokenAt inPath quote (inside ++ quote :: after) = .ok (.quoted, inside.length + 2) →
      ∀ place, Text.StraysAt inside place →
        (∀ earlier < place, ¬ Text.StraysAt inside earlier) →
          (∀ (setting : Setting) (position : Nat) (rest : List Lexeme),
            Expr.parse setting
              (Lexer.lexeme .quoted position (Word.literal quote inside).text :: rest) =
                .error ⟨.unknownEscape, ⟨position + 1 + place, position + 3 + place⟩⟩) ∧
          ∀ (catalogue : Catalogue) (name : Option String), ∃ fault,
            catalogue.compile name (Source.fromLiteral quote inside after) = .error fault ∧
              fault.cause.kind = .syntactic ∧ fault.template = name ∧
              fault.excerpt =
                some (Source.fromLiteral quote inside after, ⟨4 + place, 6 + place⟩) := by
  refine ⟨Text.exists_quoted isQuote, ?_, ?_⟩
  · intro text written quoted
    refine ⟨Lexer.lexemes_literal isQuote quoted, fun arity? name => ?_⟩
    refine ⟨_, Template.compile_literal isQuote quoted arity? name, ?_⟩
    intro shop handle same inactive
    exact Workshop.render_literal (by rw [same]) (by rw [same]) inactive
  · intro inside after inPath delimited place strays first
    have closes := Lexer.quotedLength_of_delimited isQuote delimited
    refine ⟨Expr.parse_of_straysAt strays first, fun catalogue name => ?_⟩
    have flawed := Template.compile_of_straysAt isQuote closes strays first after
      catalogue.arity? name
    exact ⟨_, by rw [Catalogue.compile, flawed], rfl, rfl, rfl⟩

/-- Backslashes before quotes, closing delimiters and a line end; and three backslashes of which
the last is followed by a letter that is no mark. -/
theorem literals_carry_backslashes :
    '"' ∈ Text.quotes ∧
      (∃ template, Template.compile (fun _ => none) none
          "\x7b\x7b \"\\\\\\\"\x7d\x7d\x27\\n\" \x7d\x7d" = .ok template ∧
        (Workshop.render ⟨.empty, .empty, .empty⟩ ⟨0, template⟩).1 = .ok "\\\"\x7d\x7d\x27\n") ∧
      ∃ fault, Catalogue.empty.compile (some "page") "\x7b\x7b \"é\\\\\\é\" \x7d\x7d" =
          .error fault ∧ fault.cause.kind = .syntactic ∧ fault.template = some "page" ∧
        fault.excerpt = some ("\x7b\x7b \"é\\\\\\é\" \x7d\x7d", ⟨7, 9⟩) := by
  have isQuote : '"' ∈ Text.quotes := by decide
  obtain ⟨-, carries, flawed⟩ := literals_carry_any_text isQuote
  refine ⟨isQuote, ?_, ?_⟩
  · have quoted : Text.Quoted '"' "\\\"\x7d\x7d\x27\n".toList
        ['\\', '\\', '\\', '"', '\x7d', '\x7d', '\x27', '\\', 'n'] :=
      .escaped (by decide) (.escaped (by decide) (.plain (by decide) (.plain (by decide)
        (.plain (by decide) (.escaped (by decide) .nil)))))
    obtain ⟨template, compiled, renders⟩ := (carries _ _ quoted).2 (fun _ => none) none
    refine ⟨template, compiled, ?_⟩
    rw [renders ⟨.empty, .empty, .empty⟩ ⟨0, template⟩ rfl rfl]
  · have strays : Text.StraysAt ['é', '\\', '\\', '\\', 'é'] 3 :=
      ⟨rfl, rfl, 'é', rfl, by simp [Text.escapes]⟩
    have first : ∀ earlier < 3, ¬ Text.StraysAt ['é', '\\', '\\', '\\', 'é'] earlier := by
      intro earlier before
      obtain rfl | rfl | rfl : earlier = 0 ∨ earlier = 1 ∨ earlier = 2 := by omega
      · simp [Text.StraysAt]
      · simp [Text.StraysAt, Text.escapes]
      · simp [Text.StraysAt, Text.backslashesAtEnd]
    exact (flawed _ [' ', '\x7d', '\x7d'] false rfl 3 strays first).2 .empty (some "page")

end Stencil
