import Stencil.Proofs.Grammar
import Stencil.Proofs.Quoting

/-!
# Printing expressions

How an expression is written with as few parentheses as possible: an operand stands in
parentheses exactly where it binds looser than what is asked for. The words that it is
written with, laid out in a template, are lexemes that the grammar knows as a way to write
the expression.
-/

namespace Stencil

open Grammar

/-- What is printed for a lexeme: its token and its characters. -/
structure Word where
  token : Token
  text : List Char
  deriving DecidableEq, Repr

namespace Word

/-- The characters of some words. -/
def spell (words : List Word) : List Char := words.flatMap text

/-- The blank between words. -/
def blank : Word := ⟨.blank, [' ']⟩

/-- The opening parenthesis. -/
def opening : Word := ⟨.leftParen, ['(']⟩

/-- The closing parenthesis. -/
def closing : Word := ⟨.rightParen, [')']⟩

/-- A name. -/
def name (word : String) : Word := ⟨.name, word.toList⟩

/-- A keyword. -/
def keyword (word : Keyword) : Word := ⟨.keyword word, word.spelling.toList⟩

/-- A comparison operator. -/
def relation (operator : Relation) : Word := ⟨.relation operator, operator.spelling.toList⟩

/-- The words laid out as lexemes from a position on. -/
def layOut : Nat → List Word → List Lexeme
  | _, [] => []
  | position, word :: rest =>
    Lexer.lexeme word.token position word.text :: layOut (position + word.text.length) rest

/-- The lexemes of the words that are not blank. -/
def shown (position : Nat) (words : List Word) : List Lexeme :=
  (layOut position words).filter fun lexeme => lexeme.token ≠ .blank

@[simp] theorem spell_nil : spell [] = [] := rfl

@[simp] theorem spell_cons (word : Word) (rest : List Word) :
    spell (word :: rest) = word.text ++ spell rest := rfl

@[simp] theorem spell_append (before after : List Word) :
    spell (before ++ after) = spell before ++ spell after := List.flatMap_append

/-- What comes after some words is laid out after them. -/
theorem layOut_append (position : Nat) (before after : List Word) :
    layOut position (before ++ after) =
      layOut position before ++ layOut (position + (spell before).length) after := by
  induction before generalizing position with
  | nil => rfl
  | cons word rest inductionHypothesis =>
    simp only [List.cons_append, layOut, inductionHypothesis, spell_cons, List.length_append,
      Nat.add_assoc]

@[simp] theorem shown_nil (position : Nat) : shown position [] = [] := rfl

/-- So it is with the words that are not blank. -/
theorem shown_append (position : Nat) (before after : List Word) :
    shown position (before ++ after) =
      shown position before ++ shown (position + (spell before).length) after := by
  simp only [shown, layOut_append, List.filter_append]

/-- A word that is not blank is shown first. -/
theorem shown_cons {word : Word} (visible : word.token ≠ .blank) (position : Nat)
    (rest : List Word) :
    shown position (word :: rest) =
      Lexer.lexeme word.token position word.text ::
        shown (position + word.text.length) rest := by
  simp [shown, layOut, Lexer.lexeme, visible]

/-- A blank is not shown. -/
theorem shown_blank (position : Nat) (rest : List Word) :
    shown position (blank :: rest) = shown (position + 1) rest := rfl

end Word

namespace Text

/-- How a character is written in a string. -/
def escape : Char → List Char
  | '"' => ['\\', '"']
  | '\\' => ['\\', '\\']
  | '\n' => ['\\', 'n']
  | '\r' => ['\\', 'r']
  | c => [c]

/-- So a character is written between double quotes. -/
theorem Quoted.cons_escape {text written : List Char} (quoted : Quoted '"' text written)
    (c : Char) : Quoted '"' (c :: text) (Text.escape c ++ written) := by
  unfold Text.escape
  split
  · exact .escaped (by decide) quoted
  · exact .escaped (by decide) quoted
  · exact .escaped (by decide) quoted
  · exact .escaped (by decide) quoted
  · rename_i quote backslash feed carriage
    have free : c ∉ ['"', '\\', '\n', '\r'] := by
      simp only [List.mem_cons, List.not_mem_nil, or_false, not_or]
      exact ⟨quote, backslash, feed, carriage⟩
    exact .plain free quoted

/-- And so is a text. -/
theorem quoted_escape (content : List Char) : Quoted '"' content (content.flatMap escape) := by
  induction content with
  | nil => exact .nil
  | cons c rest inductionHypothesis => exact inductionHypothesis.cons_escape c

end Text

/-- The words of a literal. -/
def Literal.words : Literal → List Word
  | boolean true => [.keyword .truth]
  | boolean false => [.keyword .falsehood]
  | integer number =>
    let digits : Word := ⟨.number, Nat.toDigits 10 number.toInt.natAbs⟩
    if number.toInt < 0 then [⟨.minus, ['-']⟩, digits] else [digits]
  | text content => [⟨.quoted, '"' :: (content.toList.flatMap Text.escape ++ ['"'])⟩]

namespace Key

/-- The word of a segment of a path. -/
def word : Key → Word
  | field name => .name name
  | index number _ => ⟨.index, Nat.toDigits 10 number⟩

/-- The word that the segment is kept with. -/
def origin : Key → Word
  | field name => .name name
  | index _ written => ⟨.index, written.toList⟩

/-- The segment as it is printed. -/
def respelled : Key → Key
  | field name => field name
  | index number _ => index number (Text.decimal number)

/-- As it is printed, the segment is kept with the word that is printed. -/
theorem origin_respelled (key : Key) : key.respelled.origin = key.word := by
  cases key with
  | field name => rfl
  | index number written => simp [respelled, origin, word, Text.decimal]

/-- The index of a segment is one that can be written. -/
def fits : Key → Bool
  | field _ => true
  | index number _ => number < Text.wordCount

end Key

namespace Path

/-- The words of the later segments of a path. -/
def keyWords (keys : List Key) : List Word := keys.flatMap fun key => [⟨.dot, ['.']⟩, key.word]

/-- The words of a path. -/
def words (path : Path) : List Word := .name path.head :: keyWords path.keys

/-- The words that the later segments of a path are kept with. -/
def originKeys (keys : List Key) : List Word :=
  keys.flatMap fun key => [⟨.dot, ['.']⟩, key.origin]

/-- The words that a path is kept with. -/
def origin (path : Path) : List Word := .name path.head :: originKeys path.keys

/-- The path as it is printed. -/
def respelled (path : Path) : Path :=
  ⟨path.head, path.keys.map Key.respelled, String.ofList (Word.spell path.words)⟩

/-- As it is printed, the path is kept with the words that are printed. -/
theorem origin_respelled (path : Path) : path.respelled.origin = path.words := by
  simp [respelled, origin, originKeys, words, keyWords, Key.origin_respelled, List.flatMap_map]

/-- The indexes of the path are ones that can be written. -/
def fits (path : Path) : Bool := path.keys.all Key.fits

end Path

namespace Grammar.Rank

/-- How tightly a rank binds. -/
def tightness : Rank → Nat
  | disjunction => 0
  | conjunction => 1
  | negation => 2
  | comparison => 3
  | filtered => 4
  | primary => 5

/-- The words of an expression of some rank where one of another rank is asked for. It
stands in parentheses exactly if it binds looser. -/
def enclose (asked rank : Rank) (words : List Word) : List Word :=
  if asked.tightness ≤ rank.tightness then words else .opening :: (words ++ [.closing])

end Grammar.Rank

/-- How tightly an expression binds. -/
def Expr.rank : Expr → Rank
  | literal _ | path _ | call .. => .primary
  | filtered .. => .filtered
  | negated _ => .negation
  | connected connective .. => connective.rank
  | compared .. => .comparison

mutual

/-- The words of an expression. -/
def Expr.words : Expr → List Word
  | .literal value => value.words
  | .path path => path.words
  | .call path arguments =>
    path.words ++ .opening :: (argumentWords arguments ++ [.closing])
  | .filtered receiver filter argument =>
    Rank.enclose .filtered receiver.rank receiver.words ++
      ⟨.pipe, ['|']⟩ :: .name filter :: optionWords argument
  | .negated operand =>
    .keyword .negation :: .blank :: Rank.enclose .negation operand.rank operand.words
  | .connected connective left right =>
    Rank.enclose connective.rank left.rank left.words ++
      .blank :: .keyword connective.keyword :: .blank ::
        Rank.enclose connective.rank.tighter right.rank right.words
  | .compared relation left right =>
    Rank.enclose .filtered left.rank left.words ++
      .blank :: .relation relation :: .blank :: Rank.enclose .filtered right.rank right.words
termination_by structural expression => expression

/-- The words of the arguments of a call. -/
def argumentWords : List Expr → List Word
  | [] => []
  | first :: rest => first.words ++ laterWords rest
termination_by structural arguments => arguments

/-- The words of the arguments after the first. -/
def laterWords : List Expr → List Word
  | [] => []
  | first :: rest => ⟨.comma, [',']⟩ :: .blank :: (first.words ++ laterWords rest)
termination_by structural arguments => arguments

/-- The words of the argument of a filter. -/
def optionWords : Option Expr → List Word
  | none => []
  | some argument => ⟨.colon, [':']⟩ :: Rank.enclose .primary argument.rank argument.words
termination_by structural argument => argument

end

mutual

/-- The expression as it is printed. Only the texts that its paths and indexes are kept with
are new. -/
def Expr.respelled : Expr → Expr
  | .literal value => .literal value
  | .path path => .path path.respelled
  | .call path arguments => .call path.respelled (exprsRespelled arguments)
  | .filtered receiver filter argument =>
    .filtered receiver.respelled filter (optionRespelled argument)
  | .negated operand => .negated operand.respelled
  | .connected connective left right => .connected connective left.respelled right.respelled
  | .compared relation left right => .compared relation left.respelled right.respelled
termination_by structural expression => expression

/-- The same for all expressions of a list. -/
def exprsRespelled : List Expr → List Expr
  | [] => []
  | first :: rest => first.respelled :: exprsRespelled rest
termination_by structural expressions => expressions

/-- The same for an expression that need not be there. -/
def optionRespelled : Option Expr → Option Expr
  | none => none
  | some expression => some expression.respelled
termination_by structural expression => expression

end

end Stencil
