import Stencil.Expr

/-!
# Statements

A compiled template is a list of statements. A region is a tag that does one
thing with the statements up to its end tag; a branch and a loop have two
bodies. The body of a named block is not kept where the block stands: there the
tree only names it, so that another template may supply the body.
-/

namespace Stencil

/-- A name with the expression whose value it takes. -/
structure Binding where
  name : String
  value : Expr
  deriving Repr

/-- The head of a loop over the elements of a value. -/
structure Loop where
  name : String
  items : Expr
  reversed : Bool
  deriving Repr

/-- What is done with one body: with names bound, without spaces, once for each
node of a tree, at the markers of a pattern, as a log message, once for each
number of a progression, or with tabbing switched on. -/
inductive Region where
  | binding (bindings : List Binding)
  | spaceless
  | tree (nodes : Expr)
  | markers (name : String) (items pattern : Expr)
  | message
  | range (name : String) (first last : Expr) (down : Bool) (step : Option Expr)
  | tabbing
  deriving Repr

/-- A statement. Those that lead to another template know where their tag
stands. Cycle tags are numbered, and have at least one item. -/
inductive Stmt where
  | text (content : String)
  | output (value : Expr)
  | branch (condition : Expr) (yes no : List Stmt)
  | each (loop : Loop) (body empty : List Stmt)
  | within (region : Region) (body : List Stmt)
  | block (name : String)
  | inherit (target : Expr) (span : Span)
  | insert (target : Expr) (bindings : List Binding) (span : Span)
  | create (target template : Expr) (span : Span)
  | cycle (number : Nat) (first : Expr) (others : List Expr)
  | assign (binding : Binding)
  deriving Repr

instance : Inhabited Stmt := ⟨.text ""⟩

/-- A compiled template: its name if it has one, its source, its statements, and
the bodies of its named blocks. -/
structure Template where
  name : Option String
  source : String
  body : List Stmt
  blocks : List (String × List Stmt)
  inherits : Bool
  deriving Repr, Inhabited

namespace Template

/-- The body that the template defines for a named block. -/
def block? (template : Template) (name : String) : Option (List Stmt) :=
  template.blocks.lookup name

/-- What messages call the template. -/
def title (template : Template) : String := template.name.getD "<anonymous>"

/-- The line of the template that a span starts on. -/
def line (template : Template) (span : Span) : Nat := span.line template.source.toList

end Template

end Stencil
