import Stencil.Fault.Syntax
import Stencil.Text.Blank
import Stencil.Text.Decimal
import Stencil.Text.Identifier

/-!
# Lexemes of a template

The lexer stands outside of all tags, inside a tag, or inside a comment. One
step reads the next lexeme, or the text before a tag together with the tag's
opening delimiter. A tag or comment that is alone on its line takes the line
with it: the indentation before it and the line end after it are in no lexeme.
Every step that reads something leaves fewer characters, so the lexemes of a
template of `n` characters are found in at most `n` steps.
-/

namespace Stencil.Lexer

/-- The tag that is being read: what opened it and where, whether it is alone on
its line, and whether the last token may be continued as a path. -/
structure OpenTag where
  delimiter : Delimiter
  opened : Span
  alone : Bool
  inPath : Bool
  deriving DecidableEq, Repr

/-- Where the lexer stands. Outside it knows whether a line starts here, and
whether the rest of the line belonged to a tag that was alone on it. -/
inductive Place where
  | outside (lineStart : Bool) (afterAlone : Bool)
  | inside (tag : OpenTag)
  | remark (alone : Bool)
  deriving DecidableEq, Repr

/-- A place, how many characters were read, and those still to be read. -/
structure State where
  place : Place
  position : Nat
  rest : List Char
  deriving DecidableEq, Repr

/-- What one step finds. -/
inductive Step where
  | finished
  | flawed (flaw : Flaw)
  | read (lexemes : List Lexeme) (next : State)
  deriving DecidableEq, Repr

/-- The lexeme of some characters from a position on. -/
def lexeme (token : Token) (position : Nat) (characters : List Char) : Lexeme :=
  ⟨token, String.ofList characters, ⟨position, position + characters.length⟩⟩

/-- The delimiter that starts here, opening ones and closing ones alike. -/
def delimiterAt : List Char → Option Token
  | '\x7b' :: '\x7b' :: _ => some (.opening .output)
  | '\x7d' :: '\x7d' :: _ => some (.closing .output)
  | '\x7b' :: '%' :: _ => some (.opening .tag)
  | '%' :: '\x7d' :: _ => some (.closing .tag)
  | '\x7b' :: '#' :: _ => some (.opening .comment)
  | '#' :: '\x7d' :: _ => some (.closing .comment)
  | _ => none

/-- The text before the first opening delimiter, that delimiter, and what
follows it. -/
def splitOpening : List Char → List Char × Option (Delimiter × List Char)
  | [] => ([], none)
  | '\x7b' :: '\x7b' :: rest => ([], some (.output, rest))
  | '\x7b' :: '%' :: rest => ([], some (.tag, rest))
  | '\x7b' :: '#' :: rest => ([], some (.comment, rest))
  | c :: rest =>
    let split := splitOpening rest
    (c :: split.1, split.2)

/-- The text before the first occurrence of a pair of characters, and the text
after it. -/
def splitPair (first second : Char) : List Char → Option (List Char × List Char)
  | c :: d :: rest =>
    if c = first ∧ d = second then some ([], rest)
    else (splitPair first second (d :: rest)).map fun split => (c :: split.1, split.2)
  | _ => none

/-- The characters after the last line feed. -/
def lastLine (text : List Char) : List Char := (text.reverse.takeWhile (· ≠ '\n')).reverse

/-- Nothing but blanks stands before a tag on its line, given the text since the
last tag and whether that text starts a line. -/
def aloneBefore (lineStart : Bool) (text : List Char) : Bool :=
  (lineStart || text.contains '\n') && (lastLine text).all Text.isBlank

/-- Nothing but blanks follows the first closing delimiter up to the line end. -/
def aloneAfter (delimiter : Delimiter) (rest : List Char) : Bool :=
  match splitPair delimiter.closer '\x7d' rest with
  | some (_, after) => (after.takeWhile (· ≠ '\n')).all Text.isBlank
  | none => false

/-- The characters of one line end: blanks other than line feeds, then one line
feed if there is one. Tells whether there was. -/
def skipLineEnd (rest : List Char) : Bool × Nat × List Char :=
  let blanks := rest.takeWhile fun c => c = ' ' || c = '\t' || c = '\r'
  match rest.drop blanks.length with
  | '\n' :: after => (true, blanks.length + 1, after)
  | after => (false, blanks.length, after)

/-- Reads text up to the first opening delimiter, and the delimiter. -/
def outsideStep (lineStart : Bool) (position : Nat) (rest : List Char) : Step :=
  match splitOpening rest with
  | (text, none) =>
    .read [lexeme .text position text] ⟨.outside false false, position + text.length, []⟩
  | (text, some (delimiter, after)) =>
    let opened := position + text.length
    let alone := delimiter ≠ .output && aloneBefore lineStart text && aloneAfter delimiter after
    let kept := if alone then text.take (text.length - (lastLine text).length) else text
    let opening := lexeme (.opening delimiter) opened delimiter.opening
    let place := match delimiter with
      | .comment => .remark alone
      | _ => .inside ⟨delimiter, opening.span, alone, false⟩
    .read (if kept = [] then [opening] else [lexeme .text position kept, opening])
      ⟨place, opened + 2, after⟩

/-- Reads the rest of a comment. An unclosed comment runs to the end. -/
def remarkStep (alone : Bool) (position : Nat) (rest : List Char) : Step :=
  match splitPair '#' '\x7d' rest with
  | none => .read [lexeme .text position rest] ⟨.remark alone, position + rest.length, []⟩
  | some (text, after) =>
    let closed := position + text.length
    let closing := lexeme (.closing .comment) closed Delimiter.comment.closing
    .read (if text = [] then [closing] else [lexeme .text position text, closing])
      ⟨.outside false alone, closed + 2, after⟩

/-- The operator that starts here, the longest one. -/
def operatorAt : List Char → Option (Token × Nat)
  | '.' :: _ => some (.dot, 1)
  | '|' :: _ => some (.pipe, 1)
  | ',' :: _ => some (.comma, 1)
  | ':' :: _ => some (.colon, 1)
  | '-' :: _ => some (.minus, 1)
  | '(' :: _ => some (.leftParen, 1)
  | ')' :: _ => some (.rightParen, 1)
  | '=' :: '=' :: _ => some (.relation .equal, 2)
  | '=' :: _ => some (.assign, 1)
  | '<' :: '=' :: _ => some (.relation .lessOrEqual, 2)
  | '<' :: _ => some (.relation .less, 1)
  | '>' :: '=' :: _ => some (.relation .greaterOrEqual, 2)
  | '>' :: _ => some (.relation .greater, 1)
  | '!' :: '=' :: _ => some (.relation .unequal, 2)
  | _ => none

/-- How many characters a string takes up to its closing quote, that one
included; or, when a line end or the end of the template comes first, how many
stand before that. A quote after an odd run of backslashes does not close. -/
def quotedLength (quote : Char) : Bool → List Char → Except Nat Nat
  | _, [] => .error 0
  | escaped, c :: rest =>
    if c = '\r' || c = '\n' then .error 0
    else if c = quote && !escaped then .ok 1
    else match quotedLength quote (c = '\\' && !escaped) rest with
      | .ok length => .ok (length + 1)
      | .error length => .error (length + 1)

/-- The token that starts with a character, and its length; or what is wrong
with how many characters. In a path digits are an index and every word a name. -/
def tokenAt (inPath : Bool) (c : Char) (rest : List Char) : Except (Malformed × Nat) (Token × Nat) :=
  match operatorAt (c :: rest) with
  | some found => .ok found
  | none =>
    if c = '"' || c = '\x27' then
      match quotedLength c false rest with
      | .ok length => .ok (.quoted, length + 1)
      | .error length => .error (.openString, length + 1)
    else if Text.isDigit c then
      .ok (if inPath then .index else .number, (rest.takeWhile Text.isDigit).length + 1)
    else if Text.isBlank c then .ok (.blank, (rest.takeWhile Text.isBlank).length + 1)
    else if Text.isNameStart c then
      let word := c :: rest.takeWhile Text.isNameContinue
      match if inPath then none else Keyword.ofWord? (String.ofList word) with
      | some keyword => .ok (.keyword keyword, word.length)
      | none => .ok (.name, word.length)
    else .error (.strayCharacter, 1)

/-- A path goes on after a name, and through dots and indexes. -/
def continuesPath (inPath : Bool) : Token → Bool
  | .name => true
  | .dot | .index => inPath
  | _ => false

/-- Reads the next token of a tag, or its closing delimiter. -/
def insideStep (tag : OpenTag) (position : Nat) (c : Char) (rest : List Char) : Step :=
  match delimiterAt (c :: rest) with
  | some (.opening _) => .flawed ⟨.unclosed tag.delimiter, tag.opened⟩
  | some token =>
    if token = .closing tag.delimiter then
      .read [lexeme token position tag.delimiter.closing]
        ⟨.outside false tag.alone, position + 2, rest.drop 1⟩
    else .flawed ⟨.unexpected token, ⟨position, position + 2⟩⟩
  | none =>
    match tokenAt tag.inPath c rest with
    | .error (cause, length) => .flawed ⟨cause, ⟨position, position + length⟩⟩
    | .ok (token, length) =>
      .read [lexeme token position ((c :: rest).take length)]
        ⟨.inside { tag with inPath := continuesPath tag.inPath token }, position + length,
          (c :: rest).drop length⟩

/-- One step. Nothing more is found once all characters are read. -/
def step (state : State) : Step :=
  match state.rest with
  | [] => .finished
  | c :: rest =>
    match state.place with
    | .inside tag => insideStep tag state.position c rest
    | .remark alone => remarkStep alone state.position (c :: rest)
    | .outside lineStart false => outsideStep lineStart state.position (c :: rest)
    | .outside _ true =>
      let skipped := skipLineEnd (c :: rest)
      if skipped.2.2 = [] then .finished
      else outsideStep skipped.1 (state.position + skipped.2.1) skipped.2.2

/-- The lexemes found in a number of steps, and the flaw that stopped them. -/
def run : Nat → State → List Lexeme × Option Flaw
  | 0, _ => ([], none)
  | steps + 1, state =>
    match step state with
    | .finished => ([], none)
    | .flawed flaw => ([], some flaw)
    | .read lexemes next =>
      let later := run steps next
      (lexemes ++ later.1, later.2)

/-- The state before the first step. -/
def start (source : List Char) : State := ⟨.outside true false, 0, source⟩

/-- All lexemes of a template, up to its first flaw. -/
def lexemes (source : List Char) : List Lexeme × Option Flaw :=
  run (source.length + 1) (start source)

/-- The characters before and after the first pair, with the pair, are all. -/
theorem splitPair_append (first second : Char) (text before after : List Char)
    (found : splitPair first second text = some (before, after)) :
    text = before ++ first :: second :: after := by
  fun_induction splitPair first second text generalizing before after with
  | case1 c d rest matched =>
    obtain ⟨rfl, rfl⟩ := matched
    simp only [Option.some.injEq, Prod.mk.injEq] at found
    simp [← found.1, ← found.2]
  | case2 c d rest other inductionHypothesis =>
    obtain ⟨split, later, same⟩ := Option.map_eq_some_iff.1 found
    simp only [Prod.mk.injEq] at same
    rw [inductionHypothesis split.1 split.2 later, ← same.1, ← same.2]
    rfl
  | case3 => contradiction

end Stencil.Lexer
