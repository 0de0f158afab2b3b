import Stencil.Expr
import Stencil.Fault.Syntax
import Stencil.Text.Decimal

/-!
# Reading expressions

A parser takes lexemes off a list. Where the list ends, the template ended or a
flaw was found, and asking for one more lexeme reports that. Expressions are
read by precedence, loosest first: `or`, `and`, `not`, one comparison, a chain
of filters, and a primary. Only a primary contains further whole expressions,
in parentheses or as arguments, so nesting is bounded by the number of lexemes;
the bound decreases with each level of nesting and is never met.
-/

namespace Stencil

/-- What reading depends on besides the lexemes: the characters of the template,
the filters that are known, and why the lexemes end where they do. -/
structure Setting where
  source : List Char
  arity? : String → Option Arity
  flaw : Option Flaw

/-- A reader of lexemes, which fails at the first flaw. -/
abbrev Parser (α : Type) := ReaderT Setting (StateT (List Lexeme) (Except Flaw)) α

namespace Parser

/-- Fails with a cause at a place. -/
def fail {α : Type} (cause : Malformed) (span : Span) : Parser α :=
  fun _ _ => .error ⟨cause, span⟩

/-- The next lexeme, which stays where it is; none at the end of the template. -/
def peek : Parser (Option Lexeme) := fun setting ahead =>
  match ahead, setting.flaw with
  | first :: _, _ => .ok (some first, ahead)
  | [], some flaw => .error flaw
  | [], none => .ok (none, [])

/-- Takes the next lexeme, which is expected to exist. -/
def next (wanted : Expected) : Parser Lexeme := fun setting ahead =>
  match ahead, setting.flaw with
  | first :: rest, _ => .ok (first, rest)
  | [], some flaw => .error flaw
  | [], none =>
    .error ⟨.expected wanted none, ⟨setting.source.length, setting.source.length⟩⟩

/-- Takes the next lexeme, which has to be of the given token. -/
def expect (token : Token) : Parser Lexeme := do
  let found ← next (.token token)
  if found.token = token then return found
  else fail (.expected (.token token) (some found.token)) found.span

/-- The next lexeme is of the given token. -/
def isNext (token : Token) : Parser Bool := do
  return (← peek).any fun found => found.token = token

/-- Takes the next lexeme if it is of the given token. -/
def takes (token : Token) : Parser Bool := do
  if ← isNext token then
    let _ ← expect token
    return true
  else return false

/-- Takes the next lexeme if it is the given word. -/
def takesWord (word : String) : Parser Bool := do
  match ← peek with
  | some found =>
    if found.token = .name && found.text = word then
      let _ ← next .anything
      return true
    else return false
  | none => return false

/-- Takes the next lexeme, which has to be the given word. -/
def expectWord (word : String) : Parser Unit := do
  let found ← next .anything
  if found.token = .name && found.text = word then return ()
  else fail (.expected (.word word) (some found.token)) found.span

/-- Takes a step as long as there is one, at most the given number of times. -/
def iterate {α : Type} (step : α → Parser (Option α)) : Nat → α → Parser α
  | 0, value => pure value
  | bound + 1, value => do
    match ← step value with
    | some later => iterate step bound later
    | none => return value

/-- Takes a step as long as there is one. Every step has to take a lexeme, so
there are no more steps than lexemes. -/
def repeatedly {α : Type} (step : α → Parser (Option α)) (value : α) : Parser α :=
  fun setting ahead => iterate step (ahead.length + 1) value setting ahead

end Parser

/-- A tree with the place it was read from. -/
abbrev Located (α : Type) := α × Span

namespace Expr.Parser

open Stencil.Parser

/-- The character that an escape stands for. -/
def escaped? : Char → Option Char
  | 'n' => some '\n'
  | 'r' => some '\r'
  | 't' => some '\t'
  | '\\' => some '\\'
  | '"' => some '"'
  | '\x27' => some '\x27'
  | _ => none

/-- The text that a string's inside stands for, or the place of its first
unknown escape. -/
def unescape (position : Nat) : List Char → Except Nat (List Char)
  | [] => .ok []
  | ['\\'] => .ok []
  | '\\' :: mark :: rest =>
    match escaped? mark with
    | some c => (unescape (position + 2) rest).map (c :: ·)
    | none => .error position
  | c :: rest => (unescape (position + 1) rest).map (c :: ·)

/-- The literal of a string lexeme, which has a quote at either end. -/
def textLiteral (found : Lexeme) : Parser Literal :=
  let inside := (found.text.toList.drop 1).dropLast
  match unescape (found.span.start + 1) inside with
  | .ok text => pure (.text (String.ofList text))
  | .error position => fail .unknownEscape ⟨position, position + 2⟩

/-- The literal of a run of digits, negative after a minus sign. -/
def integerLiteral (negative : Bool) (digits : String) (span : Span) : Parser Literal :=
  let magnitude : Int := Text.digitsValue digits.toList
  match Text.toWord? (if negative then -magnitude else magnitude) with
  | some value => pure (.integer value)
  | none => fail .integerRange span

/-- One segment of a path, after its dot. -/
def key : Parser (Located Key) := do
  let found ← next .anything
  if found.token = .index then
    let number := Text.digitsValue found.text.toList
    if number < Text.wordCount then return (.index number found.text, found.span)
    else fail .indexRange found.span
  else if found.token = .name then return (.field found.text, found.span)
  else fail (.expected .pathSegment (some found.token)) found.span

/-- The rest of a path after its first name. -/
def path (first : Lexeme) : Parser (Located Path) := do
  let keys ← repeatedly (fun (keys : List (Located Key)) => do
    if ← takes .dot then return some ((← key) :: keys) else return none) []
  let span := match keys with
    | [] => first.span
    | last :: _ => first.span.cover last.2
  return (⟨first.text, keys.reverse.map Prod.fst, span.text (← read).source⟩, span)

/-- The arguments of a call after the opening parenthesis, latest first, given
how to read one. -/
def arguments (whole : Parser (Located Expr)) : Parser (List Expr) := do
  if ← isNext .rightParen then return []
  else
    let first ← whole
    let all ← repeatedly (fun (found : List Expr) => do
      if ← takes .comma then return some ((← whole).1 :: found) else return none) [first.1]
    return all.reverse

/-- A literal, a path, a call, or an expression in parentheses, given how to
read a whole expression. -/
def primary (whole : Parser (Located Expr)) : Parser (Located Expr) := do
  let found ← next .anything
  match found.token with
  | .keyword .truth => return (.literal (.boolean true), found.span)
  | .keyword .falsehood => return (.literal (.boolean false), found.span)
  | .keyword keyword => fail (.misplacedKeyword keyword) found.span
  | .minus =>
    let digits ← expect .number
    let span := found.span.cover digits.span
    return (.literal (← integerLiteral true digits.text span), span)
  | .number => return (.literal (← integerLiteral false found.text found.span), found.span)
  | .quoted => return (.literal (← textLiteral found), found.span)
  | .leftParen =>
    let inner ← whole
    let _ ← expect .rightParen
    return inner
  | .name =>
    let named ← path found
    if ← takes .leftParen then
      let given ← arguments whole
      let close ← expect .rightParen
      return (.call named.1 given, named.2.cover close.span)
    else return (.path named.1, named.2)
  | token => fail (.expected .expression (some token)) found.span

/-- A filter has to be known, and has to be given an argument or not as its
arity says. -/
def checkFilter (filter : Lexeme) (hasArgument : Bool) (span : Span) : Parser Unit := do
  match (← read).arity? filter.text with
  | none => fail (.unknownFilter filter.text) filter.span
  | some .never => if hasArgument then fail (.needlessArgument filter.text) span else pure ()
  | some .required => if hasArgument then pure () else fail (.missingArgument filter.text) span
  | some .optional => pure ()

/-- One filter applied to a value, if one follows. -/
def filterStep (whole : Parser (Located Expr)) (receiver : Located Expr) :
    Parser (Option (Located Expr)) := do
  if ← takes .pipe then
    let filter ← expect .name
    if ← takes .colon then
      let argument ← primary whole
      let span := receiver.2.cover argument.2
      checkFilter filter true span
      return some (.filtered receiver.1 filter.text (some argument.1), span)
    else
      let span := receiver.2.cover filter.span
      checkFilter filter false span
      return some (.filtered receiver.1 filter.text none, span)
  else return none

/-- A primary and the filters applied to it. -/
def filtered (whole : Parser (Located Expr)) : Parser (Located Expr) := do
  repeatedly (filterStep whole) (← primary whole)

/-- One value, or two of them compared. -/
def comparison (whole : Parser (Located Expr)) : Parser (Located Expr) := do
  let left ← filtered whole
  match (← peek).map Lexeme.token with
  | some (.relation relation) =>
    let _ ← next .anything
    let right ← filtered whole
    return (.compared relation left.1 right.1, left.2.cover right.2)
  | _ => return left

/-- A comparison, negated as often as `not` stands before it. -/
def negation (whole : Parser (Located Expr)) : Parser (Located Expr) := do
  let marks ← repeatedly (fun (marks : List Span) => do
    if ← isNext (.keyword .negation) then
      return some ((← next .anything).span :: marks)
    else return none) []
  let operand ← comparison whole
  return marks.foldl (fun inner mark => (.negated inner.1, mark.cover inner.2)) operand

/-- Operands joined by a connective, grouped to the left. -/
def connected (connective : Connective) (keyword : Keyword)
    (operand : Parser (Located Expr)) : Parser (Located Expr) := do
  repeatedly (fun (left : Located Expr) => do
    if ← takes (.keyword keyword) then
      let right ← operand
      return some (.connected connective left.1 right.1, left.2.cover right.2)
    else return none) (← operand)

/-- A whole expression, given how to read one inside of it. -/
def level (whole : Parser (Located Expr)) : Parser (Located Expr) :=
  connected .either .disjunction (connected .both .conjunction (negation whole))

/-- A whole expression nested at most as deep as the bound says. -/
def bounded : Nat → Parser (Located Expr)
  | 0 => do
    let found ← next .anything
    fail (.expected .expression (some found.token)) found.span
  | bound + 1 => level (bounded bound)

end Expr.Parser

/-- Reads a whole expression. Each level of nesting takes a lexeme. -/
def Expr.parse : Parser Expr := fun setting ahead => do
  let (found, rest) ← Expr.Parser.bounded (ahead.length + 1) setting ahead
  return (found.1, rest)

end Stencil
