import Stencil.Proofs.Chronicle.Emissions
import Stencil.Proofs.Lexing
import Stencil.Proofs.Numerals
import Stencil.Proofs.Printing.RoundTrip

/-!
# Integer literals

Digits behind a minus sign or not are a literal, as long as the number is a word. Rendering a
template that writes out the literal gives the decimal numeral of the word, as the policy
escapes it. If the number is no word, the template is flawed where the literal stands.
-/

namespace Stencil

namespace Expr.Parser

open Stencil.Parser

variable {setting : Setting} {whole : Parser (Located Expr)} {minus digits : Lexeme}
  {rest : List Lexeme}

/-- An integer that is no word is a flaw. -/
theorem integerLiteral_of_beyond {negative : Bool} {digits : String} (span : Span)
    (beyond : Text.toWord? (Text.signed negative (Text.digitsValue digits.toList)) = none) :
    integerLiteral negative digits span setting rest = .error ⟨.integerRange, span⟩ := by
  unfold Text.signed at beyond
  unfold integerLiteral
  simp only [beyond]
  rfl

/-- The flaw lies where the digits are. -/
theorem primary_of_beyond (token : digits.token = .number)
    (beyond : Text.toWord? (Text.signed false (Text.digitsValue digits.text.toList)) = none) :
    primary whole setting (digits :: rest) = .error ⟨.integerRange, digits.span⟩ := by
  rw [primary, bind_of_ok (next_cons _ _)]
  simp only [token]
  exact bind_of_error _ (integerLiteral_of_beyond _ beyond)

/-- If there is a minus sign then it lies where the sign and the digits are. -/
theorem primary_of_beyond_opposite (sign : minus.token = .minus) (token : digits.token = .number)
    (beyond : Text.toWord? (Text.signed true (Text.digitsValue digits.text.toList)) = none) :
    primary whole setting (minus :: digits :: rest) =
      .error ⟨.integerRange, minus.span.cover digits.span⟩ := by
  rw [primary, bind_of_ok (next_cons _ _)]
  simp only [sign]
  rw [bind_of_ok (expect_cons token)]
  exact bind_of_error _ (integerLiteral_of_beyond _ beyond)

end Expr.Parser

/-- Digits, at least one, behind a minus sign or not. -/
structure Numeral where
  negative : Bool
  digits : List Char
  some : digits ≠ []
  all : ∀ c ∈ digits, Text.isDigit c = true

namespace Numeral

variable (numeral : Numeral)

/-- The number that it is the numeral of. -/
def number : Int := Text.signed numeral.negative (Text.digitsValue numeral.digits)

/-- Its characters. -/
def text : List Char := if numeral.negative then '-' :: numeral.digits else numeral.digits

/-- The words that it is written with. -/
def words : List Word :=
  if numeral.negative then [⟨.minus, ['-']⟩, ⟨.number, numeral.digits⟩]
  else [⟨.number, numeral.digits⟩]

/-- The source of a template that writes it out. -/
def source : String := Source.hole (String.ofList numeral.text)

/-- The words spell the characters. -/
theorem spell_words : Word.spell numeral.words = numeral.text := by
  unfold words text
  split <;> simp

/-- The digits read as their value. -/
theorem readDigits_digits :
    Text.readDigits numeral.digits = .some (Text.digitsValue numeral.digits) := by
  rw [Text.readDigits, if_pos]
  simpa [numeral.some] using numeral.all

/-- The digits are a word by themselves. -/
theorem separate_digits : Word.Separate [⟨.number, numeral.digits⟩] := by
  refine Word.separate_single (Word.reads_digits numeral.readDigits_digits) ?_
    fun after clear => clear.parts nofun nofun
  obtain ⟨c, rest, same⟩ := List.exists_cons_of_ne_nil numeral.some
  have digit : Text.isDigit c = true := numeral.all c (same ▸ List.mem_cons_self)
  refine ⟨c, rest, same, Bool.eq_false_iff.mpr fun blank => ?_⟩
  exact Text.not_mem_of_kind blank (by decide) (Text.mem_of_isDigit digit)

/-- The words are separate. -/
theorem separate_words : Word.Separate numeral.words := by
  unfold words
  split
  · refine ⟨⟨'-', _, rfl, by decide⟩, fun after clear => ?_⟩
    exact ⟨Word.reads_sign (by decide) fun _ => rfl, rfl,
      numeral.separate_digits.legible after clear⟩
  · exact numeral.separate_digits

/-- If the number is a word then they are a way to write it. -/
theorem spells_words (setting : Setting) (position : Nat) {word : Int64}
    (taken : Text.toWord? numeral.number = .some word) :
    Grammar.Spells setting .primary (Word.shown position numeral.words)
      (.literal (.integer word)) := by
  unfold number Text.signed at taken
  unfold words
  split
  · rename_i negative
    rw [if_pos negative] at taken
    rw [Word.shown_cons (by simp), Word.shown_cons (by simp)]
    exact .opposite _ _ word rfl rfl (by simpa [Lexer.lexeme] using taken)
  · rename_i positive
    rw [if_neg positive] at taken
    rw [Word.shown_cons (by simp)]
    exact .number _ word rfl (by simpa [Lexer.lexeme] using taken)

/-- If it is none then they are flawed wherever an expression is asked for. -/
theorem parse_of_beyond (setting : Setting) (position : Nat) (rest : List Lexeme)
    (beyond : Text.toWord? numeral.number = .none) :
    Expr.parse setting (Word.shown position numeral.words ++ rest) =
      .error ⟨.integerRange, ⟨position, position + numeral.text.length⟩⟩ := by
  unfold number at beyond
  unfold words text
  split
  · rename_i negative
    rw [negative] at beyond
    rw [Word.shown_cons (by simp), Word.shown_cons (by simp)]
    refine (Expr.parse_of_primary (by simp [Lexer.lexeme]) fun whole =>
      Expr.Parser.primary_of_beyond_opposite rfl rfl
        (by simpa [Lexer.lexeme] using beyond)).trans ?_
    simp [Span.cover, Lexer.lexeme, Nat.add_assoc, Nat.add_comm 1]
  · rename_i positive
    rw [Bool.eq_false_of_not_eq_true positive] at beyond
    rw [Word.shown_cons (by simp)]
    exact Expr.parse_of_primary (by simp [Lexer.lexeme]) fun whole =>
      Expr.Parser.primary_of_beyond rfl (by simpa [Lexer.lexeme] using beyond)

/-- If the number is a word then a template that writes out the numeral compiles to it. -/
theorem compile_of_word (arity? : String → Option Arity) (name : Option String) {word : Int64}
    (taken : Text.toWord? numeral.number = .some word) :
    Template.compile arity? name numeral.source =
      .ok ⟨name, numeral.source, [.output (.literal (.integer word))], [], false⟩ := by
  have spelled := numeral.spells_words
    (Template.setting arity? (Source.hole (String.ofList (Word.spell numeral.words))) none) 3 taken
  have compiled := Template.compile_hole numeral.separate_words
    (spelled.loosen (Nat.zero_le _)) name
  rwa [spell_words] at compiled

/-- If it is none then the template is flawed. -/
theorem compile_of_beyond (arity? : String → Option Arity) (name : Option String)
    (beyond : Text.toWord? numeral.number = .none) :
    Template.compile arity? name numeral.source =
      .error ⟨.integerRange, ⟨3, 3 + numeral.text.length⟩⟩ := by
  obtain ⟨flawless, position, shown⟩ := numeral.separate_words.lexemes_hole
  rw [spell_words] at shown flawless
  have flawed : Template.pieces arity? numeral.source =
      ([], .some ⟨.integerRange, ⟨3, 3 + numeral.text.length⟩⟩) := by
    unfold Template.pieces source
    simp only [shown]
    exact Piece.parseAll_of_error (numeral.parse_of_beyond _ 3 _ beyond)
  rw [Template.compile, flawed]
  rfl

/-- Every word has a numeral. -/
theorem exists_numeral (word : Int64) :
    ∃ numeral : Numeral, numeral.text = (toString word.toInt).toList ∧
      numeral.number = word.toInt := by
  obtain ⟨some, all, value⟩ :=
    Text.digits_of_readDigits (Text.readDigits_toDigits word.toInt.natAbs)
  refine ⟨⟨decide (word.toInt < 0), _, some, all⟩, ?_, ?_⟩
  · rw [← Text.decimalWord_eq, Text.toList_decimalWord, text]
    simp only [decide_eq_true_eq]
  · rw [number, value, Text.signed]
    simp only [decide_eq_true_eq]
    split <;> omega

end Numeral

namespace Workshop

/-- A template that writes out a word renders to its numeral, as the policy escapes it. -/
theorem render_integer {shop : Workshop} {handle : Handle} {word : Int64}
    (wholly : handle.template.inherits = false)
    (isLiteral : handle.template.body = [.output (.literal (.integer word))]) :
    shop.render handle = (.ok (shop.context.escape (toString word.toInt)).1,
      { shop with context := (shop.context.escape (toString word.toInt)).2 }) := by
  let escaped := shop.context.escape (toString word.toInt)
  let after : World := { shop with
    context := escaped.2, turns := [], sink := .buffer escaped.1 }
  have executed : ∀ expand, executeAll expand (.start handle) handle.template.body
      { shop with turns := [], sink := .buffer "" } = (.ok (), after) := by
    intro expand
    have emitted : (Station.start handle).emit (.integer word)
        { shop with turns := [], sink := .buffer "" } = (.ok (), after) := by
      have written : (Value.integer word).written = toString word.toInt :=
        Text.decimalWord_eq word
      rw [Station.emit_of_plain rfl rfl, written]
      simp [Run.write, Sink.write, after, escaped]
    have stated : executeAll expand (.start handle) [.output (.literal (.integer word))]
        { shop with turns := [], sink := .buffer "" } = (do
          (Station.start handle).emit (.integer word)
          pure ()) { shop with turns := [], sink := .buffer "" } := rfl
    rw [isLiteral, stated, Run.bind_apply, emitted]
    rfl
  exact render_of_executed wholly executed rfl

end Workshop

/-- Integers survive text. A numeral that is written out compiles if its number is a word, however
many digits it has, and whether it is taken digit by digit or as a whole; otherwise the template
is flawed where the numeral stands. It is evaluated to the word, and renders to the decimal
numeral of the word, as the policy escapes it. The decimal numeral of a word is one of those, and
a text that holds it, with white space around it, counts as the word. The filter that adds
makes one integer of two values that count as integers if the sum is a word; otherwise it puts
texts one after the other, and leaves any other value as it is. -/
theorem integers_survive_text :
    (∀ (numeral : Numeral) (arity? : String → Option Arity) (name : Option String),
      Text.accumulated? numeral.negative numeral.digits = Text.toWord? numeral.number ∧
      (Text.IsWord numeral.number → ∃ template word,
        Template.compile arity? name numeral.source = .ok template ∧
        word.toInt = numeral.number ∧
        template.body = [.output (.literal (.integer word))] ∧
        (∀ filters context, (Expr.literal (.integer word)).evaluate filters context =
          pure (.integer word)) ∧
        ∀ (shop : Workshop) (handle : Handle), handle.template = template →
          shop.render handle = (.ok (shop.context.escape (toString word.toInt)).1,
            { shop with context := (shop.context.escape (toString word.toInt)).2 })) ∧
      (¬ Text.IsWord numeral.number →
        Template.compile arity? name numeral.source =
          .error ⟨.integerRange, ⟨3, 3 + numeral.text.length⟩⟩)) ∧
    (∀ word : Int64,
      (∃ numeral : Numeral, numeral.text = (toString word.toInt).toList ∧
        numeral.number = word.toInt) ∧
      ∀ (before after : List Char) (raw : Bool),
        (∀ c ∈ before, Text.isWhiteSpace c = true) → (∀ c ∈ after, Text.isWhiteSpace c = true) →
          let value : Value := ⟨.text (String.ofList before ++ toString word.toInt ++
            String.ofList after), raw⟩
          value.toInteger = word ∧ value.integerLike? = some word) ∧
    (∃ filter, Filter.builtins.get? "add" = some filter ∧ ∀ value argument,
      filter.apply value (some argument) = pure (Filter.add value argument)) ∧
    ∀ (value argument : Value) (first second : Int64),
      value.integerLike? = some first → argument.integerLike? = some second →
        (Text.IsWord (first.toInt + second.toInt) → ∃ sum,
          Filter.add value argument = .integer sum ∧ sum.toInt = first.toInt + second.toInt) ∧
        (¬ Text.IsWord (first.toInt + second.toInt) →
          (∀ text other, value.datum = .text text → argument.datum = .text other →
            Filter.add value argument = .text (text ++ other)) ∧
          ((∀ text other, value.datum = .text text → argument.datum ≠ .text other) →
            Filter.add value argument = value)) := by
  refine ⟨fun numeral arity? name => ⟨Text.accumulated?_eq _ _, fun isWord => ?_, fun beyond => ?_⟩,
    fun word => ⟨Numeral.exists_numeral word, fun before after raw blankBefore blankAfter => ?_⟩,
    Filter.exists_adder, fun value argument first second isInteger isIntegerToo =>
      ⟨fun isWord => ?_, fun beyond => ⟨fun text other isText isTextToo => ?_, fun others => ?_⟩⟩⟩
  · have taken := Text.toWord?_of_isWord isWord
    refine ⟨_, _, numeral.compile_of_word arity? name taken, Text.toInt_of_toWord? _ _ taken, rfl,
      fun _ _ => rfl, fun shop handle same => ?_⟩
    exact Workshop.render_integer (by rw [same]) (by rw [same])
  · exact numeral.compile_of_beyond arity? name (Text.toWord?_of_not_isWord beyond)
  · have read := Text.readWord_around word blankBefore blankAfter
    rw [Text.decimalWord_eq] at read
    exact ⟨congrArg (·.getD 0) read, read⟩
  · exact Filter.add_of_isWord isInteger isIntegerToo isWord
  · exact Filter.add_of_texts isInteger isIntegerToo beyond isText isTextToo
  · exact Filter.add_of_others isInteger isIntegerToo beyond others

/-- The least word with zeros before it is a literal, and the successor of the greatest is
none. White space around a numeral does not count when integers are added. -/
theorem integers_survive_zeros :
    (∃ (template : Template) (word : Int64),
      Template.compile (fun _ => none) none (Source.hole "-009223372036854775808") =
        .ok template ∧ word.toInt = -9223372036854775808 ∧
        (Workshop.render ⟨.empty, .empty, .empty⟩ ⟨0, template⟩).1 =
          .ok "-9223372036854775808") ∧
      Template.compile (fun _ => none) none (Source.hole "9223372036854775808") =
        .error ⟨.integerRange, ⟨3, 22⟩⟩ ∧
      (Value.text "\t42\n").toInteger = 42 ∧
      ∃ sum, Filter.add (.text "\t42\n") (.integer 1) = .integer sum ∧ sum.toInt = 43 := by
  obtain ⟨literals, texts, -, sums⟩ := integers_survive_text
  have counts := (texts 42).2 ['\t'] ['\n'] false
    (List.forall_mem_singleton.mpr (by decide)) (List.forall_mem_singleton.mpr (by decide))
  refine ⟨?_, ?_, ?_, ?_⟩
  · let numeral : Numeral :=
      ⟨true, "009223372036854775808".toList, by decide, List.all_eq_true.mp (by decide)⟩
    have isLeast : numeral.number = -9223372036854775808 := by decide +kernel
    obtain ⟨-, compiles, -⟩ := literals numeral (fun _ => none) none
    obtain ⟨template, word, compiled, same, -, -, renders⟩ :=
      compiles (by rw [isLeast]; decide)
    refine ⟨template, word, compiled, same.trans isLeast, ?_⟩
    rw [renders _ ⟨0, template⟩ rfl, same, isLeast]
    rfl
  · let numeral : Numeral :=
      ⟨false, "9223372036854775808".toList, by decide, List.all_eq_true.mp (by decide)⟩
    have isNext : numeral.number = 9223372036854775808 := by decide +kernel
    obtain ⟨-, -, flawed⟩ := literals numeral (fun _ => none) none
    exact flawed (by rw [isNext]; decide)
  · exact counts.1
  · exact (sums _ (.integer 1) 42 1 counts.2 rfl).1 (by decide)

/-- Added to the greatest word, one does not make another integer: the word stays as it is. -/
theorem add_keeps_greatest :
    (Value.integer Int64.maxValue).integerLike? = some Int64.maxValue ∧
      (Value.integer 1).integerLike? = some 1 ∧
      Filter.add (.integer Int64.maxValue) (.integer 1) = .integer Int64.maxValue ∧
      Int64.maxValue.toInt ≠ Int64.maxValue.toInt + (1 : Int64).toInt ∧
      (Template.compile Catalogue.empty.arity? none
          (Source.hole "9223372036854775807|add:1")).toOption.map
        (fun template => (Workshop.render ⟨.empty, .empty, .empty⟩ ⟨0, template⟩).1) =
          some (.ok "9223372036854775807") :=
  ⟨rfl, rfl, rfl, by decide, by decide +kernel⟩

end Stencil
