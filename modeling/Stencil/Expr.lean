import Stencil.Token

/-!
# Expressions

The trees of expressions: literals, paths into the data, calls, filters, the
logical connectives and the comparisons. A tree keeps no places; a path keeps
the text it was written with, which reports about it show.
-/

namespace Stencil

/-- A value written in a template. -/
inductive Literal where
  | boolean (value : Bool)
  | integer (value : Int64)
  | text (value : String)
  deriving DecidableEq, Repr

/-- A later segment of a path: the name of a field, or the number of an element,
kept with its digits as written. -/
inductive Key where
  | field (name : String)
  | index (number : Nat) (written : String)
  deriving DecidableEq, Repr

/-- The segment as written. -/
def Key.text : Key → String
  | field name => name
  | index _ written => written

/-- A variable and the segments that lead on from it. -/
structure Path where
  head : String
  keys : List Key
  written : String
  deriving DecidableEq, Repr

/-- The logical connectives. -/
inductive Connective where
  | both
  | either
  deriving DecidableEq, Repr

/-- An expression. -/
inductive Expr where
  | literal (value : Literal)
  | path (path : Path)
  | call (path : Path) (arguments : List Expr)
  | filtered (receiver : Expr) (filter : String) (argument : Option Expr)
  | negated (operand : Expr)
  | connected (connective : Connective) (left right : Expr)
  | compared (relation : Relation) (left right : Expr)
  deriving Repr

instance : Inhabited Expr := ⟨.literal (.boolean false)⟩

/-- Whether a filter takes an argument. -/
inductive Arity where
  | never
  | optional
  | required
  deriving DecidableEq, Repr

end Stencil
