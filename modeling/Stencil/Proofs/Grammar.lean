import Stencil.Proofs.Fitting

/-!
# The grammar of expressions

Which lexemes are a way to write an expression. An expression is read by rank: `or` binds
loosest, then `and`, `not`, one comparison, a chain of filters, and a primary, which binds
tightest. Where an expression of a rank is asked for, one that binds tighter may stand, and
one that binds looser may stand in parentheses. Connectives and filters group to the left.
-/

namespace Stencil

namespace Grammar

/-- What kind of expression is asked for, the loosest first. -/
inductive Rank where
  | disjunction
  | conjunction
  | negation
  | comparison
  | filtered
  | primary
  deriving DecidableEq, Repr

/-- The rank that binds next tighter. -/
def Rank.tighter : Rank → Rank
  | disjunction => conjunction
  | conjunction => negation
  | negation => comparison
  | comparison => filtered
  | filtered => primary
  | primary => primary

end Grammar

namespace Connective

/-- The keyword of a connective. -/
def keyword : Connective → Keyword
  | both => .conjunction
  | either => .disjunction

/-- How tightly a connective binds. -/
def rank : Connective → Grammar.Rank
  | both => .conjunction
  | either => .disjunction

end Connective

namespace Grammar

/-- A later segment of a path, with the lexemes it is written with. -/
structure Segment where
  dot : Lexeme
  found : Lexeme
  key : Key

namespace Segment

/-- All lexemes of the segment. -/
def lexemes (segment : Segment) : List Lexeme := [segment.dot, segment.found]

/-- The lexemes are a way to write the segment. -/
structure Spelled (segment : Segment) : Prop where
  /-- The segment is set off by a dot. -/
  dotted : segment.dot.token = .dot
  /-- It is an index that fits, or a name. -/
  shown : (segment.found.token = .index ∧
      Text.digitsValue segment.found.text.toList < Text.wordCount ∧
      segment.key = .index (Text.digitsValue segment.found.text.toList) segment.found.text) ∨
    (segment.found.token = .name ∧ segment.key = .field segment.found.text)

end Segment

/-- Where a path stands, given its first name and its later segments. -/
def pathSpan (first : Lexeme) (segments : List Segment) : Span :=
  match segments.getLast? with
  | none => first.span
  | some last => first.span.cover last.found.span

/-- The lexemes are a way to write the path, in a template of some characters. -/
inductive SpellsPath (source : List Char) : List Lexeme → Path → Prop
  | path (first : Lexeme) (segments : List Segment) (named : first.token = .name)
    (spelled : ∀ segment ∈ segments, segment.Spelled) :
    SpellsPath source (first :: segments.flatMap Segment.lexemes)
      ⟨first.text, segments.map Segment.key, (pathSpan first segments).text source⟩

/-- An argument of a call after the first, with the lexemes it is written with. -/
structure Argument where
  comma : Lexeme
  lexemes : List Lexeme
  value : Expr

/-- All lexemes of the argument. -/
def Argument.all (argument : Argument) : List Lexeme := argument.comma :: argument.lexemes

/-- The lexemes are a way to write the expression where one of the rank is asked for. -/
inductive Spells (setting : Setting) : Rank → List Lexeme → Expr → Prop
  | truth (found : Lexeme) (token : found.token = .keyword .truth) :
    Spells setting .primary [found] (.literal (.boolean true))
  | falsehood (found : Lexeme) (token : found.token = .keyword .falsehood) :
    Spells setting .primary [found] (.literal (.boolean false))
  | number (digits : Lexeme) (value : Int64) (token : digits.token = .number)
    (fits : Text.toWord? (Text.digitsValue digits.text.toList) = some value) :
    Spells setting .primary [digits] (.literal (.integer value))
  | opposite (minus digits : Lexeme) (value : Int64) (sign : minus.token = .minus)
    (token : digits.token = .number)
    (fits : Text.toWord? (-(Text.digitsValue digits.text.toList : Int)) = some value) :
    Spells setting .primary [minus, digits] (.literal (.integer value))
  | text (found : Lexeme) (content : List Char) (token : found.token = .quoted)
    (plain : Expr.Parser.unescape (found.span.start + 1)
      (found.text.toList.drop 1).dropLast = .ok content) :
    Spells setting .primary [found] (.literal (.text (String.ofList content)))
  | path {lexemes : List Lexeme} {path : Path}
    (spelled : SpellsPath setting.source lexemes path) :
    Spells setting .primary lexemes (.path path)
  | call {lexemes : List Lexeme} {path : Path} (opened closed : Lexeme)
    (spelled : SpellsPath setting.source lexemes path)
    (opens : opened.token = .leftParen) (closes : closed.token = .rightParen) :
    Spells setting .primary (lexemes ++ [opened, closed]) (.call path [])
  | callWith {lexemes inside : List Lexeme} {path : Path} {value : Expr} (opened closed : Lexeme)
    (others : List Argument) (spelled : SpellsPath setting.source lexemes path)
    (opens : opened.token = .leftParen) (closes : closed.token = .rightParen)
    (first : Spells setting .disjunction inside value)
    (commas : ∀ argument ∈ others, argument.comma.token = .comma)
    (rest : ∀ argument ∈ others, Spells setting .disjunction argument.lexemes argument.value) :
    Spells setting .primary
      (lexemes ++ opened :: (inside ++ (others.flatMap Argument.all ++ [closed])))
      (.call path (value :: others.map Argument.value))
  | parens {inside : List Lexeme} {value : Expr} (opened closed : Lexeme)
    (opens : opened.token = .leftParen) (closes : closed.token = .rightParen)
    (inner : Spells setting .disjunction inside value) :
    Spells setting .primary (opened :: (inside ++ [closed])) value
  | filter {lexemes : List Lexeme} {receiver : Expr} {filter : String} (pipe name : Lexeme)
    (piped : pipe.token = .pipe) (named : name.token = .name) (spelled : name.text = filter)
    (admitted : (setting.arity? filter).any (·.admits false) = true)
    (inner : Spells setting .filtered lexemes receiver) :
    Spells setting .filtered (lexemes ++ [pipe, name]) (.filtered receiver filter none)
  | filterWith {lexemes given : List Lexeme} {receiver argument : Expr} {filter : String}
    (pipe name colon : Lexeme) (piped : pipe.token = .pipe) (named : name.token = .name)
    (spelled : name.text = filter) (parted : colon.token = .colon)
    (admitted : (setting.arity? filter).any (·.admits true) = true)
    (inner : Spells setting .filtered lexemes receiver)
    (argued : Spells setting .primary given argument) :
    Spells setting .filtered (lexemes ++ pipe :: name :: colon :: given)
      (.filtered receiver filter (some argument))
  | compared {before after : List Lexeme} {left right : Expr} (relation : Relation)
    (operator : Lexeme) (token : operator.token = .relation relation)
    (first : Spells setting .filtered before left) (second : Spells setting .filtered after right) :
    Spells setting .comparison (before ++ operator :: after) (.compared relation left right)
  | negated {lexemes : List Lexeme} {operand : Expr} (mark : Lexeme)
    (token : mark.token = .keyword .negation) (inner : Spells setting .negation lexemes operand) :
    Spells setting .negation (mark :: lexemes) (.negated operand)
  | connected {before after : List Lexeme} {left right : Expr} (connective : Connective)
    (operator : Lexeme) (token : operator.token = .keyword connective.keyword)
    (first : Spells setting connective.rank before left)
    (second : Spells setting connective.rank.tighter after right) :
    Spells setting connective.rank (before ++ operator :: after)
      (.connected connective left right)
  | looser {rank : Rank} {lexemes : List Lexeme} {value : Expr}
    (inner : Spells setting rank.tighter lexemes value) : Spells setting rank lexemes value

end Grammar

end Stencil
