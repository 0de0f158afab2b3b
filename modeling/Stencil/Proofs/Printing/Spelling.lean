import Stencil.Proofs.Printing.Lexing

/-!
# What is printed is written so

The words of an expression, laid out where they stand in a template, are a way to write the
expression.
-/

namespace Stencil

open Grammar

namespace Text

/-- A word fits. -/
theorem toWord?_toInt (word : Int64) : toWord? word.toInt = some word := by
  have lower := Int64.le_toInt word
  have upper := Int64.toInt_lt word
  have fits : fitsWord word.toInt = true := by
    simp only [fitsWord, Bool.and_eq_true, decide_eq_true_eq]
    exact ⟨by omega, by omega⟩
  rw [toWord?, if_pos fits, Int64.ofInt_toInt]

end Text

namespace Word

/-- The words stand in a template at a position. -/
def StandAt (source : List Char) (position : Nat) (words : List Word) : Prop :=
  spell words <+: source.drop position

/-- Some words stand there with others after them if both stand where they are laid out. -/
theorem standAt_append {source : List Char} {position : Nat} {before after : List Word} :
    StandAt source position (before ++ after) ↔
      StandAt source position before ∧
        StandAt source (position + (spell before).length) after := by
  unfold StandAt
  rw [spell_append]
  constructor
  · rintro ⟨rest, same⟩
    rw [List.append_assoc] at same
    refine ⟨⟨spell after ++ rest, same⟩, rest, ?_⟩
    rw [← List.drop_drop, ← same, List.drop_left]
  · rintro ⟨⟨rest, same⟩, later, sameLater⟩
    rw [← List.drop_drop, ← same, List.drop_left] at sameLater
    exact ⟨later, by rw [List.append_assoc, sameLater, same]⟩

/-- The same for one word and others. -/
theorem standAt_cons {source : List Char} {position : Nat} {word : Word} {rest : List Word} :
    StandAt source position (word :: rest) ↔
      StandAt source position [word] ∧
        StandAt source (position + word.text.length) rest := by
  have split : StandAt source position ([word] ++ rest) ↔ _ := standAt_append
  simpa using split

/-- Where words stand, their characters are cut out of the template. -/
theorem text_of_standAt {source : List Char} {position : Nat} {words : List Word}
    (stand : StandAt source position words) :
    Span.text ⟨position, position + (spell words).length⟩ source =
      String.ofList (spell words) := by
  rw [Span.text, Span.slice, Nat.add_sub_cancel_left, ← List.prefix_iff_eq_take.mp stand]

end Word

/-- A segment is an index that fits, kept with its numeral, or has a name. -/
def Key.tallies : Key → Bool
  | field _ => true
  | index number written =>
    Text.readDigits written.toList = some number && number < Text.wordCount

/-- As it is printed, a segment tallies if its index can be written. -/
theorem Key.tallies_respelled (key : Key) : key.respelled.tallies = key.fits := by
  cases key with
  | field name => rfl
  | index number written =>
    simp [respelled, tallies, fits, Text.decimal, Text.readDigits_toDigits]

namespace Path

/-- The segments of a path, laid out from a position on. -/
def segmentsAt : Nat → List Key → List Segment
  | _, [] => []
  | position, key :: rest =>
    ⟨Lexer.lexeme .dot position ['.'],
      Lexer.lexeme key.origin.token (position + 1) key.origin.text, key⟩ ::
        segmentsAt (position + 1 + key.origin.text.length) rest

/-- No word of a segment is blank. -/
theorem visible_origin (key : Key) : key.origin.token ≠ .blank := by
  cases key <;> simp [Key.origin, Word.name]

/-- The segments are shown as the lexemes that they are laid out as. -/
theorem shown_originKeys (position : Nat) (keys : List Key) :
    Word.shown position (originKeys keys) =
      (segmentsAt position keys).flatMap Segment.lexemes := by
  induction keys generalizing position with
  | nil => rfl
  | cons key rest inductionHypothesis =>
    simp only [originKeys, List.flatMap_cons, List.cons_append, List.nil_append]
      at inductionHypothesis ⊢
    rw [Word.shown_cons (by simp), Word.shown_cons (visible_origin key), inductionHypothesis]
    rfl

/-- They are the segments of the path. -/
theorem keys_segmentsAt (position : Nat) (keys : List Key) :
    (segmentsAt position keys).map Segment.key = keys := by
  induction keys generalizing position with
  | nil => rfl
  | cons key rest inductionHypothesis =>
    simp only [segmentsAt, List.map_cons, inductionHypothesis]

/-- The last of them ends where the words of the path do. -/
theorem getLast?_segmentsAt (position : Nat) (key : Key) (rest : List Key) :
    ∃ last, (segmentsAt position (key :: rest)).getLast? = some last ∧
      position ≤ last.found.span.start ∧
      last.found.span.stop = position + (Word.spell (originKeys (key :: rest))).length := by
  induction rest generalizing position key with
  | nil =>
    refine ⟨⟨Lexer.lexeme .dot position ['.'],
      Lexer.lexeme key.origin.token (position + 1) key.origin.text, key⟩, rfl, ?_, ?_⟩
    · simp only [Lexer.lexeme]
      omega
    · simp only [Lexer.lexeme, originKeys, List.flatMap_cons, List.flatMap_nil, Word.spell_append,
        Word.spell_cons, Word.spell_nil, List.length_append, List.length_cons, List.length_nil]
      omega
  | cons other rest inductionHypothesis =>
    obtain ⟨last, isLast, starts, stops⟩ :=
      inductionHypothesis (position + 1 + key.origin.text.length) other
    refine ⟨last, ?_, ?_, ?_⟩
    · rw [segmentsAt, List.getLast?_cons_of_ne_nil (by simp [segmentsAt])]
      exact isLast
    · omega
    · rw [stops]
      simp only [originKeys, List.flatMap_cons, Word.spell_append, Word.spell_cons, Word.spell_nil,
        List.length_append, List.length_cons, List.length_nil]
      omega

/-- A path stands where its words are laid out. -/
theorem pathSpan_segmentsAt (position : Nat) (path : Path) :
    pathSpan (Lexer.lexeme .name position path.head.toList)
        (segmentsAt (position + path.head.toList.length) path.keys) =
      ⟨position, position + (Word.spell path.origin).length⟩ := by
  have length : (Word.spell path.origin).length =
      path.head.toList.length + (Word.spell (originKeys path.keys)).length := by
    rw [origin, Word.spell_cons, List.length_append]
    rfl
  rw [length]
  cases keys : path.keys with
  | nil => simp [pathSpan, segmentsAt, Lexer.lexeme, originKeys]
  | cons key rest =>
    obtain ⟨last, isLast, starts, stops⟩ :=
      getLast?_segmentsAt (position + path.head.toList.length) key rest
    rw [pathSpan, isLast]
    simp only [Lexer.lexeme, Span.cover, stops, Span.mk.injEq]
    omega

/-- The lexemes of every segment are a way to write it. -/
theorem spelled_segmentsAt (position : Nat) (keys : List Key)
    (tallies : keys.all Key.tallies = true) :
    ∀ segment ∈ segmentsAt position keys, segment.Spelled := by
  induction keys generalizing position with
  | nil => exact fun _ mem => nomatch mem
  | cons key rest inductionHypothesis =>
    simp only [List.all_cons, Bool.and_eq_true] at tallies
    intro segment mem
    rcases List.mem_cons.mp mem with rfl | later
    · refine ⟨rfl, ?_⟩
      cases key with
      | field name => exact .inr ⟨rfl, by simp [Lexer.lexeme, Key.origin, Word.name]⟩
      | index number written =>
        simp only [Key.tallies, Bool.and_eq_true, decide_eq_true_eq] at tallies
        obtain ⟨_, _, value⟩ := Text.digits_of_readDigits tallies.1.1
        have text : (Lexer.lexeme .index (position + 1) written.toList).text = written :=
          String.ofList_toList
        refine .inl ⟨rfl, ?_, ?_⟩
        · simpa [Key.origin, text, value] using tallies.1.2
        · simp [Key.origin, text, value]
    · exact inductionHypothesis _ tallies.2 segment later

/-- The words that a path is kept with are a way to write it. -/
theorem spells_origin {source : List Char} {position : Nat} {path : Path}
    (tallies : path.keys.all Key.tallies = true)
    (same : path.written = String.ofList (Word.spell path.origin))
    (stand : Word.StandAt source position path.origin) :
    SpellsPath source (Word.shown position path.origin) path := by
  have shape : SpellsPath source _ _ :=
    .path (Lexer.lexeme .name position path.head.toList)
      (segmentsAt (position + path.head.toList.length) path.keys) rfl
      (spelled_segmentsAt _ _ tallies)
  have head : (Lexer.lexeme .name position path.head.toList).text = path.head :=
    String.ofList_toList
  rw [pathSpan_segmentsAt, Word.text_of_standAt stand, keys_segmentsAt, ← shown_originKeys, head,
    ← same] at shape
  rw [origin, Word.shown_cons (by simp [Word.name])]
  exact shape

/-- The words of a path are a way to write it as it is printed. -/
theorem spells_words {source : List Char} {position : Nat} (path : Path)
    (fits : path.fits = true) (stand : Word.StandAt source position path.words) :
    SpellsPath source (Word.shown position path.words) path.respelled := by
  have tallies : path.respelled.keys.all Key.tallies = true := by
    rw [← fits]
    simp [Path.fits, respelled, List.all_map, Function.comp_def, Key.tallies_respelled]
  rw [← origin_respelled] at stand ⊢
  exact spells_origin tallies (by rw [origin_respelled]; rfl) stand

end Path

/-- The words of a literal are a way to write it. -/
theorem Literal.spells_words (setting : Setting) (position : Nat) (value : Literal) :
    Spells setting .primary (Word.shown position value.words) (.literal value) := by
  cases value with
  | boolean value =>
    cases value with
    | true => exact .truth _ rfl
    | false => exact .falsehood _ rfl
  | integer number =>
    have digits : ∀ position, Text.digitsValue
        (Lexer.lexeme .number position (Nat.toDigits 10 number.toInt.natAbs)).text.toList =
          number.toInt.natAbs := by
      intro position
      rw [Lexer.lexeme, String.toList_ofList]
      exact (Text.digits_of_readDigits (Text.readDigits_toDigits _)).2.2
    by_cases negative : number.toInt < 0
    · have words : (Literal.integer number).words =
          [⟨.minus, ['-']⟩, ⟨.number, Nat.toDigits 10 number.toInt.natAbs⟩] := by
        simp [Literal.words, negative]
      rw [words, Word.shown_cons (by simp), Word.shown_cons (by simp)]
      refine .opposite _ _ number rfl rfl ?_
      rw [digits, show -((number.toInt.natAbs : Nat) : Int) = number.toInt by omega]
      exact Text.toWord?_toInt number
    · have words : (Literal.integer number).words =
          [⟨.number, Nat.toDigits 10 number.toInt.natAbs⟩] := by
        simp [Literal.words, negative]
      rw [words, Word.shown_cons (by simp)]
      refine .number _ number rfl ?_
      rw [digits, show ((number.toInt.natAbs : Nat) : Int) = number.toInt by omega]
      exact Text.toWord?_toInt number
  | text content =>
    have plain : ∀ string : Lexeme,
        string.text.toList = '"' :: (content.toList.flatMap Text.escape ++ ['"']) →
          Expr.Parser.unescape (string.span.start + 1) (string.text.toList.drop 1).dropLast =
            .ok content.toList := by
      intro string same
      rw [same, List.drop_one, List.tail_cons, List.dropLast_concat]
      exact (Text.quoted_escape content.toList).unescape_eq _
    have spelled : Spells setting .primary (Word.shown position (Literal.text content).words) _ :=
      .text (Lexer.lexeme .quoted position
        ('"' :: (content.toList.flatMap Text.escape ++ ['"']))) content.toList rfl
        (plain _ String.toList_ofList)
    rw [String.ofList_toList] at spelled
    exact spelled

namespace Grammar

/-- What is written where a rank is asked for may stand where one is asked for that binds
looser. -/
theorem Spells.loosen {setting : Setting} {rank asked : Rank} {lexemes : List Lexeme}
    {value : Expr} (spelled : Spells setting rank lexemes value)
    (looser : asked.tightness ≤ rank.tightness) : Spells setting asked lexemes value := by
  obtain ⟨steps, reached⟩ := Nat.exists_eq_add_of_le looser
  induction steps generalizing asked with
  | zero =>
    have same : asked = rank := by
      cases asked <;> cases rank <;> first | rfl | cases reached
    exact same ▸ spelled
  | succ steps inductionHypothesis =>
    have tighter : asked.tighter.tightness = asked.tightness + 1 := by
      cases asked with
      | primary =>
        have most : rank.tightness ≤ Rank.primary.tightness := by cases rank <;> decide
        omega
      | _ => rfl
    exact .looser (inductionHypothesis (by omega) (by omega))

end Grammar

/-- Wherever the words of an expression stand, they are a way to write it as it is printed. -/
def Expr.Printed (setting : Setting) (expression : Expr) : Prop :=
  ∀ position, Word.StandAt setting.source position expression.words →
    Spells setting expression.rank (Word.shown position expression.words) expression.respelled

/-- So are the words of an operand, in parentheses if it binds looser than what is asked
for. -/
theorem Expr.Printed.enclosed {setting : Setting} {expression : Expr}
    (printed : expression.Printed setting) (asked : Rank) {position : Nat}
    (stand : Word.StandAt setting.source position
      (Rank.enclose asked expression.rank expression.words)) :
    Spells setting asked
      (Word.shown position (Rank.enclose asked expression.rank expression.words))
      expression.respelled := by
  unfold Rank.enclose at stand ⊢
  split
  · rename_i tight
    rw [if_pos tight] at stand
    exact (printed position stand).loosen tight
  · rename_i loose
    rw [if_neg loose, Word.standAt_cons, Word.standAt_append] at stand
    have inner : Spells setting .disjunction _ _ :=
      (printed _ stand.2.1).loosen (Nat.zero_le _)
    rw [Word.shown_cons (by simp [Word.opening]), Word.shown_append,
      Word.shown_cons (by simp [Word.closing])]
    exact (Spells.parens _ _ rfl rfl inner).loosen (by cases asked <;> decide)

section

variable {setting : Setting}

/-- A filter is printed, with its argument if it has one. -/
theorem Expr.Printed.filtered {receiver : Expr} {filter : String} {argument : Option Expr}
    (printed : receiver.Printed setting)
    (argued : ∀ given, argument = some given → given.Printed setting)
    (admitted : (setting.arity? filter).any (·.admits argument.isSome) = true) :
    (Expr.filtered receiver filter argument).Printed setting := by
  intro position stand
  obtain ⟨standsInner, stands⟩ := Word.standAt_append.mp stand
  obtain ⟨_, stands⟩ := Word.standAt_cons.mp stands
  obtain ⟨_, stands⟩ := Word.standAt_cons.mp stands
  have inner := printed.enclosed .filtered standsInner
  rw [Expr.words, Word.shown_append, Word.shown_cons (by simp),
    Word.shown_cons (by simp [Word.name])]
  cases argument with
  | none => exact .filter _ _ rfl rfl String.ofList_toList admitted inner
  | some given =>
    obtain ⟨_, stands⟩ := Word.standAt_cons.mp stands
    have argument := (argued given rfl).enclosed .primary stands
    rw [optionWords, Word.shown_cons (by simp)]
    exact .filterWith _ _ _ rfl rfl String.ofList_toList rfl admitted inner argument

/-- The arguments of a call after the first are printed with their commas. -/
theorem spells_laterWords {rest : List Expr}
    (printed : ∀ argument ∈ rest, argument.Printed setting) {position : Nat}
    (stand : Word.StandAt setting.source position (laterWords rest)) :
    ∃ others : List Argument,
      Word.shown position (laterWords rest) = others.flatMap Argument.all ∧
        exprsRespelled rest = others.map Argument.value ∧
          ∀ argument ∈ others, argument.comma.token = .comma ∧
            Spells setting .disjunction argument.lexemes argument.value := by
  induction rest generalizing position with
  | nil => exact ⟨[], rfl, rfl, fun _ mem => nomatch mem⟩
  | cons first rest inductionHypothesis =>
    obtain ⟨_, stands⟩ := Word.standAt_cons.mp stand
    obtain ⟨_, stands⟩ := Word.standAt_cons.mp stands
    obtain ⟨standsFirst, standsRest⟩ := Word.standAt_append.mp stands
    have own : Spells setting .disjunction _ _ :=
      (printed first (.head _) _ standsFirst).loosen (Nat.zero_le _)
    obtain ⟨others, shown, values, all⟩ :=
      inductionHypothesis (fun argument mem => printed argument (.tail _ mem)) standsRest
    refine ⟨⟨Lexer.lexeme .comma position [','], Word.shown (position + 1 + 1) first.words,
      first.respelled⟩ :: others, ?_, ?_, ?_⟩
    · rw [laterWords, Word.shown_cons (by simp), Word.shown_blank, Word.shown_append]
      exact congrArg (_ :: _ ++ ·) shown
    · rw [exprsRespelled, values, List.map_cons]
    · intro argument mem
      rcases List.mem_cons.mp mem with rfl | later
      · exact ⟨rfl, own⟩
      · exact all argument later

/-- A call is printed with its arguments. -/
theorem Expr.Printed.call {path : Path} {arguments : List Expr} (fits : path.fits = true)
    (printed : ∀ argument ∈ arguments, argument.Printed setting) :
    (Expr.call path arguments).Printed setting := by
  intro position stand
  obtain ⟨standsPath, stands⟩ := Word.standAt_append.mp stand
  obtain ⟨_, stands⟩ := Word.standAt_cons.mp stands
  have named := path.spells_words fits standsPath
  rw [Expr.words, Word.shown_append, Word.shown_cons (by simp [Word.opening]), Word.shown_append,
    Word.shown_cons (by simp [Word.closing])]
  cases arguments with
  | nil => exact .call _ _ named rfl rfl
  | cons first rest =>
    obtain ⟨standsArguments, _⟩ := Word.standAt_append.mp stands
    obtain ⟨standsFirst, standsRest⟩ := Word.standAt_append.mp standsArguments
    have own : Spells setting .disjunction _ _ :=
      (printed first (.head _) _ standsFirst).loosen (Nat.zero_le _)
    obtain ⟨others, shown, values, all⟩ :=
      spells_laterWords (fun argument mem => printed argument (.tail _ mem)) standsRest
    rw [argumentWords, Word.shown_append, shown, List.append_assoc, Expr.respelled, exprsRespelled,
      values]
    exact .callWith _ _ others named rfl rfl own (fun argument mem => (all argument mem).1)
      fun argument mem => (all argument mem).2

/-- Where words with blanks and a visible word between them stand, those on both sides stand, and
all but the blanks are shown. -/
theorem Word.stand_infix {source : List Char} {position : Nat} {before after : List Word}
    {word : Word} (visible : word.token ≠ .blank)
    (stand : StandAt source position (before ++ blank :: word :: blank :: after)) :
    StandAt source position before ∧ ∃ middle behind, StandAt source behind after ∧
      shown position (before ++ blank :: word :: blank :: after) =
        shown position before ++
          Lexer.lexeme word.token middle word.text :: shown behind after := by
  obtain ⟨standsBefore, stand⟩ := standAt_append.mp stand
  obtain ⟨_, stand⟩ := standAt_cons.mp stand
  obtain ⟨_, stand⟩ := standAt_cons.mp stand
  obtain ⟨_, stand⟩ := standAt_cons.mp stand
  have all := shown_append position before (blank :: word :: blank :: after)
  rw [shown_blank, shown_cons visible, shown_blank] at all
  exact ⟨standsBefore, _, _, stand, all⟩

/-- So are operands joined by a connective. -/
theorem Expr.Printed.connected {connective : Connective} {left right : Expr}
    (first : left.Printed setting) (second : right.Printed setting) :
    (Expr.connected connective left right).Printed setting := by
  intro position stand
  obtain ⟨standsLeft, _, _, standsRight, shown⟩ := Word.stand_infix (by simp [Word.keyword]) stand
  rw [Expr.words, shown]
  exact .connected connective _ rfl (first.enclosed _ standsLeft) (second.enclosed _ standsRight)

/-- So are values that are compared. -/
theorem Expr.Printed.compared {relation : Relation} {left right : Expr}
    (first : left.Printed setting) (second : right.Printed setting) :
    (Expr.compared relation left right).Printed setting := by
  intro position stand
  obtain ⟨standsLeft, _, _, standsRight, shown⟩ := Word.stand_infix (by simp [Word.relation]) stand
  rw [Expr.words, shown]
  exact .compared relation _ rfl (first.enclosed _ standsLeft) (second.enclosed _ standsRight)

/-- So is what is negated. -/
theorem Expr.Printed.negated {operand : Expr} (printed : operand.Printed setting) :
    (Expr.negated operand).Printed setting := by
  intro position stand
  obtain ⟨_, stands⟩ := Word.standAt_cons.mp stand
  obtain ⟨_, stands⟩ := Word.standAt_cons.mp stands
  rw [Expr.words, Word.shown_cons (by simp [Word.keyword]), Word.shown_blank]
  exact .negated _ rfl (printed.enclosed _ stands)

mutual

/-- Every expression is printed in a way to write it, if its indexes can be written and its
filters fit. -/
theorem Expr.printed (expression : Expr)
    (indexed : expression.obeys Path.fits (fun _ => true) = true)
    (fits : expression.fits setting.arity? = true) : expression.Printed setting := by
  cases expression with
  | literal value => exact fun position _ => value.spells_words setting position
  | path path => exact fun position stand => .path (path.spells_words indexed stand)
  | call path arguments =>
    simp only [Expr.obeys, Bool.and_eq_true] at indexed
    exact .call indexed.1 (exprsPrinted arguments indexed.2 fits)
  | filtered receiver filter argument =>
    simp only [Expr.obeys, Expr.fits, Bool.and_eq_true] at indexed fits
    exact .filtered (Expr.printed receiver indexed.1.1 fits.1.1)
      (optionPrinted argument indexed.2 fits.2) fits.1.2
  | negated operand => exact .negated (Expr.printed operand indexed fits)
  | connected connective left right =>
    simp only [Expr.obeys, Expr.fits, Bool.and_eq_true] at indexed fits
    exact .connected (Expr.printed left indexed.1 fits.1) (Expr.printed right indexed.2 fits.2)
  | compared relation left right =>
    simp only [Expr.obeys, Expr.fits, Bool.and_eq_true] at indexed fits
    exact .compared (Expr.printed left indexed.1 fits.1) (Expr.printed right indexed.2 fits.2)
termination_by structural expression

/-- So are all expressions of a list. -/
theorem exprsPrinted (expressions : List Expr)
    (indexed : exprsObey Path.fits (fun _ => true) expressions = true)
    (fits : exprsFit setting.arity? expressions = true) :
    ∀ expression ∈ expressions, expression.Printed setting := by
  cases expressions with
  | nil => exact fun _ mem => nomatch mem
  | cons first rest =>
    simp only [exprsObey, exprsFit, Bool.and_eq_true] at indexed fits
    intro expression mem
    rcases List.mem_cons.mp mem with same | later
    · exact same ▸ Expr.printed first indexed.1 fits.1
    · exact exprsPrinted rest indexed.2 fits.2 expression later
termination_by structural expressions

/-- So is one that need not be there. -/
theorem optionPrinted (expression : Option Expr)
    (indexed : optionObeys Path.fits (fun _ => true) expression = true)
    (fits : optionFits setting.arity? expression = true) :
    ∀ given, expression = some given → given.Printed setting := by
  cases expression with
  | none => exact fun _ same => nomatch same
  | some expression =>
    intro given same
    exact Option.some.inj same ▸ Expr.printed expression indexed fits
termination_by structural expression

end

end

end Stencil
