import Stencil.Expr.Parser
import Stencil.Template.Statement

/-!
# Pieces of a template

A template is read as a list of pieces: text, expressions to write out, and
tags. Comments leave no piece. A tag opens a block, starts another clause of
one, closes one, or stands by itself.
-/

namespace Stencil

/-- The kinds of blocks that an end tag closes. -/
inductive BlockKind where
  | condition
  | loop
  | block
  | binding
  | spaceless
  | tree
  | markers
  | message
  | range
  | tabbing
  deriving DecidableEq, Repr

namespace BlockKind

/-- The word that opens a block of this kind. -/
def word : BlockKind → String
  | condition => "if"
  | loop => "for"
  | block => "block"
  | binding => "with"
  | spaceless => "spaceless"
  | tree => "recursetree"
  | markers => "markers"
  | message => "msg"
  | range => "range"
  | tabbing => "tabbing"

/-- The word that closes a block of this kind. -/
def endWord (kind : BlockKind) : String := "end" ++ kind.word

/-- All kinds. -/
def all : List BlockKind :=
  [condition, loop, block, binding, spaceless, tree, markers, message, range, tabbing]

/-- The kind that a word closes. -/
def ofEndWord? (word : String) : Option BlockKind := all.find? fun kind => kind.endWord = word

/-- Reading the closing word of a kind gives the kind back. -/
@[simp] theorem ofEndWord?_endWord (kind : BlockKind) : ofEndWord? kind.endWord = some kind := by
  cases kind <;> decide

end BlockKind

/-- The kind of block that a region is. -/
def Region.kind : Region → BlockKind
  | binding _ => .binding
  | spaceless => .spaceless
  | tree _ => .tree
  | markers .. => .markers
  | message => .message
  | range .. => .range
  | tabbing => .tabbing

/-- A tag. -/
inductive Tag where
  | condition (condition : Expr)
  | otherwiseIf (condition : Expr)
  | otherwise
  | loop (loop : Loop)
  | empty
  | block (name : String)
  | region (region : Region)
  | close (kind : BlockKind)
  | inherit (target : Expr)
  | insert (target : Expr) (bindings : List Binding)
  | create (target template : Expr)
  | cycle (first : Expr) (others : List Expr)
  | assign (binding : Binding)
  deriving Repr

/-- A piece of a template; a tag knows where it stands. -/
inductive Piece where
  | text (content : String)
  | output (value : Expr)
  | tag (tag : Tag) (span : Span)
  deriving Repr

namespace Tag

open Stencil.Parser

/-- A name, an equals sign and an expression. -/
def binding : Parser Binding := do
  let name ← expect .name
  let _ ← expect .assign
  return ⟨name.text, ← Expr.parse⟩

/-- At least one binding, with or without commas between them. -/
def bindings : Parser (List Binding) := do
  let first ← binding
  let all ← repeatedly (fun (found : List Binding) => do
    if ← takes .comma then return some ((← binding) :: found)
    else if ← isNext .name then return some ((← binding) :: found)
    else return none) [first]
  return all.reverse

/-- The items of a cycle after the first, with or without commas between them. -/
def items : Parser (List Expr) := do
  let all ← repeatedly (fun (found : List Expr) => do
    if ← takes .comma then return some ((← Expr.parse) :: found)
    else if ← isNext (.closing .tag) then return none
    else return some ((← Expr.parse) :: found)) []
  return all.reverse

/-- Which way a range goes. -/
def direction : Parser Bool := do
  let found ← next .anything
  if found.token = .name && found.text = "to" then return false
  else if found.token = .name && found.text = "downto" then return true
  else fail (.expected .direction (some found.token)) found.span

/-- The head of a range after its word. -/
def range : Parser Region := do
  let name ← expect .name
  expectWord "from"
  let first ← Expr.parse
  let down ← direction
  let last ← Expr.parse
  let step ← if ← takesWord "step" then some <$> Expr.parse else pure none
  return .range name.text first last down step

/-- The head of a loop after its word. -/
def loopHead : Parser Loop := do
  let name ← expect .name
  expectWord "in"
  let items ← Expr.parse
  return ⟨name.text, items, ← takesWord "reversed"⟩

/-- The head of a markers region after its word. -/
def markers : Parser Region := do
  let name ← expect .name
  expectWord "in"
  let items ← Expr.parse
  expectWord "with"
  return .markers name.text items (← Expr.parse)

/-- The tag that a word starts, for every word that is not an end word. -/
def ofWord? (word : String) : Option (Parser Tag) :=
  match word with
  | "if" => some (.condition <$> Expr.parse)
  | "elif" => some (.otherwiseIf <$> Expr.parse)
  | "else" => some (pure .otherwise)
  | "for" => some (.loop <$> loopHead)
  | "empty" => some (pure .empty)
  | "block" => some do return .block (← expect .name).text
  | "extend" => some (.inherit <$> Expr.parse)
  | "include" => some do
    let target ← Expr.parse
    return .insert target (← if ← takesWord "with" then bindings else pure [])
  | "with" => some do return .region (.binding (← bindings))
  | "spaceless" => some (pure (.region .spaceless))
  | "cycle" => some do
    let first ← Expr.parse
    return .cycle first (← items)
  | "create" => some do
    let target ← Expr.parse
    expectWord "from"
    return .create target (← Expr.parse)
  | "recursetree" => some do return .region (.tree (← Expr.parse))
  | "markers" => some (.region <$> markers)
  | "msg" => some (pure (.region .message))
  | "set" => some (.assign <$> binding)
  | "range" => some (.region <$> range)
  | "tabbing" => some (pure (.region .tabbing))
  | _ => none

/-- Reads a tag between its delimiters. The end of a named block may repeat a
name, which is not looked at. -/
def parse : Parser Tag := do
  let word ← expect .name
  match ofWord? word.text, BlockKind.ofEndWord? word.text with
  | some tag, _ => tag
  | none, some .block => do
    let _ ← takes .name
    return .close .block
  | none, some kind => return .close kind
  | none, none => fail (.unknownTag word.text) word.span

end Tag

namespace Piece

open Stencil.Parser

/-- Reads the next piece. There is none at the end of the template, and a
comment leaves nothing. -/
def parse : Parser (Option (Option Piece)) := do
  match ← peek with
  | none => return none
  | some first =>
    let _ ← next .anything
    match first.token with
    | .text => return some (some (.text first.text))
    | .opening .output =>
      let value ← Expr.parse
      let _ ← expect (.closing .output)
      return some (some (.output value))
    | .opening .tag =>
      let tag ← Tag.parse
      let close ← expect (.closing .tag)
      return some (some (.tag tag (first.span.cover close.span)))
    | .opening .comment =>
      let _ ← takes .text
      let _ ← expect (.closing .comment)
      return some none
    | token => fail (.unexpected token) first.span

/-- Reads at most the given number of pieces, up to the first flaw. -/
def parseUpTo : Nat → Setting → List Lexeme → List Piece × Option Flaw
  | 0, _, _ => ([], none)
  | bound + 1, setting, ahead =>
    match parse setting ahead with
    | .error flaw => ([], some flaw)
    | .ok (none, _) => ([], none)
    | .ok (some found, rest) =>
      let later := parseUpTo bound setting rest
      (found.toList ++ later.1, later.2)

/-- Reads all pieces of the lexemes, up to the first flaw. Every piece takes a
lexeme. -/
def parseAll (setting : Setting) (lexemes : List Lexeme) : List Piece × Option Flaw :=
  parseUpTo (lexemes.length + 1) setting lexemes

end Piece

end Stencil
