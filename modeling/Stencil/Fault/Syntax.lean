import Stencil.Token

/-!
# What can be wrong with the text of a template

Every way in which a template can be malformed, and the message for each. A flaw
is such a cause together with the place it points at.
-/

namespace Stencil

/-- What was expected where something else stands. -/
inductive Expected where
  | anything
  | token (token : Token)
  | word (word : String)
  | expression
  | pathSegment
  | direction
  deriving DecidableEq, Repr

/-- What messages call the expectation. -/
def Expected.label : Expected → String
  | anything => "token"
  | token t => t.label
  | word w => "`" ++ w ++ "`"
  | expression => "expression"
  | pathSegment => "identifier or index"
  | direction => "`to` or `downto`"

/-- The ways in which a template can be malformed. -/
inductive Malformed where
  | unclosed (delimiter : Delimiter)
  | unexpected (token : Token)
  | strayCharacter
  | openString
  | expected (wanted : Expected) (found : Option Token)
  | misplacedKeyword (keyword : Keyword)
  | misplacedTag (tag : String)
  | unclosedTag (tag : String)
  | repeatedBlock (name : String)
  | secondExtend
  | unknownTag (name : String)
  | unknownFilter (name : String)
  | needlessArgument (filter : String)
  | missingArgument (filter : String)
  | integerRange
  | indexRange
  | unknownEscape
  deriving DecidableEq, Repr

/-- The message for a malformed template. -/
def Malformed.message : Malformed → String
  | unclosed d => "unclosed begin " ++ d.label
  | unexpected token => "unexpected " ++ token.label
  | strayCharacter => "unexpected character"
  | openString => "undelimited string"
  | expected wanted (some found) => "expected " ++ wanted.label ++ ", found " ++ found.label
  | expected wanted none => "expected " ++ wanted.label ++ ", found EOF"
  | misplacedKeyword keyword => "unexpected keyword `" ++ keyword.spelling ++ "`"
  | misplacedTag tag => "unexpected `" ++ tag ++ "` tag"
  | unclosedTag tag => "unclosed `" ++ tag ++ "` tag"
  | repeatedBlock name => "block `" ++ name ++ "` is defined more than once"
  | secondExtend => "a template can only extend one other template"
  | unknownTag name => "unknown tag `" ++ name ++ "`"
  | unknownFilter name => "unknown filter `" ++ name ++ "`"
  | needlessArgument filter => "filter `" ++ filter ++ "` does not take an argument"
  | missingArgument filter => "filter `" ++ filter ++ "` requires an argument"
  | integerRange => "base 10 literal out of range for 64-bit integer"
  | indexRange => "base 10 literal out of range for unsigned 64-bit integer"
  | unknownEscape => "unknown escape character"

/-- A cause and the place it points at. -/
structure Flaw where
  cause : Malformed
  span : Span
  deriving DecidableEq, Repr

end Stencil
