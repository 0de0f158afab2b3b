import Stencil.Span

/-!
# Tokens

A template is a sequence of lexemes: the text between the tags, the delimiters
that open and close them, and the words, numbers, strings and operators inside.
A lexeme knows its token, its text and where it stands.
-/

namespace Stencil

/-- The three pairs of delimiters: around an expression to write out, around a
tag, and around a comment. -/
inductive Delimiter where
  | output
  | tag
  | comment
  deriving DecidableEq, Repr

namespace Delimiter

/-- The second character of the opening delimiter. -/
def inner : Delimiter → Char
  | output => '\x7b'
  | tag => '%'
  | comment => '#'

/-- The first character of the closing delimiter. -/
def closer : Delimiter → Char
  | output => '\x7d'
  | tag => '%'
  | comment => '#'

/-- The characters that open a tag. -/
def opening (d : Delimiter) : List Char := ['\x7b', d.inner]

/-- The characters that close a tag. -/
def closing (d : Delimiter) : List Char := [d.closer, '\x7d']

/-- What messages call the tag. -/
def label : Delimiter → String
  | output => "expression"
  | tag => "block"
  | comment => "comment"

end Delimiter

/-- The reserved words of expressions. -/
inductive Keyword where
  | negation
  | conjunction
  | disjunction
  | truth
  | falsehood
  deriving DecidableEq, Repr

namespace Keyword

/-- How a keyword is written. -/
def spelling : Keyword → String
  | negation => "not"
  | conjunction => "and"
  | disjunction => "or"
  | truth => "true"
  | falsehood => "false"

/-- All keywords. -/
def all : List Keyword := [negation, conjunction, disjunction, truth, falsehood]

/-- The keyword that a word spells. -/
def ofWord? (word : String) : Option Keyword := all.find? fun keyword => keyword.spelling = word

/-- Reading a keyword's spelling gives the keyword back. -/
@[simp] theorem ofWord?_spelling (keyword : Keyword) : ofWord? keyword.spelling = some keyword := by
  cases keyword <;> decide

end Keyword

/-- The comparison operators. -/
inductive Relation where
  | equal
  | unequal
  | less
  | greater
  | lessOrEqual
  | greaterOrEqual
  deriving DecidableEq, Repr

/-- How a comparison operator is written. -/
def Relation.spelling : Relation → String
  | equal => "=="
  | unequal => "!="
  | less => "<"
  | greater => ">"
  | lessOrEqual => "<="
  | greaterOrEqual => ">="

/-- The kinds of lexemes. An `index` is a number inside a path, a `number` one
anywhere else. -/
inductive Token where
  | text
  | opening (delimiter : Delimiter)
  | closing (delimiter : Delimiter)
  | dot
  | pipe
  | comma
  | colon
  | minus
  | assign
  | leftParen
  | rightParen
  | relation (operator : Relation)
  | blank
  | keyword (word : Keyword)
  | name
  | index
  | number
  | quoted
  deriving DecidableEq, Repr

/-- What messages call a token. -/
def Token.label : Token → String
  | text => "raw template"
  | opening d => "begin " ++ d.label
  | closing d => "end " ++ d.label
  | dot => "member access operator"
  | pipe => "pipe"
  | comma => "comma"
  | colon => "colon"
  | minus => "minus"
  | assign => "assignment"
  | leftParen => "opening parenthesis"
  | rightParen => "closing parenthesis"
  | relation operator => "`" ++ operator.spelling ++ "`"
  | blank => "whitespace"
  | keyword _ => "keyword"
  | name => "identifier"
  | index => "index"
  | number => "number"
  | quoted => "string"

/-- A token with its text and its place. -/
structure Lexeme where
  token : Token
  text : String
  span : Span
  deriving DecidableEq, Repr

end Stencil
