import Stencil.Fault.Syntax
import Stencil.Text.Decimal

/-!
# Faults

A fault is why a template could not be compiled, loaded or rendered: a cause,
and where it struck. Location is attached from the inside out, and what is known
already is never overwritten.
-/

namespace Stencil

/-- Why a file or a device refused. -/
inductive FileError where
  | missing
  | isDirectory
  | notDirectory
  | alreadyExists
  | invalidText
  | refused (reason : String)
  | nothingWritten
  deriving DecidableEq, Repr

/-- The message for a refusal. -/
def FileError.message : FileError → String
  | missing => "No such file or directory (os error 2)"
  | isDirectory => "Is a directory (os error 21)"
  | notDirectory => "Not a directory (os error 20)"
  | alreadyExists => "File exists (os error 17)"
  | invalidText => "stream did not contain valid UTF-8"
  | refused reason => reason
  | nothingWritten => "failed to write whole buffer"

/-- Everything that can go wrong. -/
inductive Cause where
  | malformed (cause : Malformed)
  | unknownTemplate (name : String)
  | tooDeep (limit : Nat)
  | noOutputDirectory (target : String)
  | notFields (found : String)
  | integerRange
  | keyNotText
  | valueBeforeKey
  | unsupported (type : String)
  | custom (reason : String)
  | unwritten
  | file (path : String) (error : FileError)
  | device (error : FileError)
  deriving DecidableEq, Repr

/-- The categories of causes. -/
inductive FaultKind where
  | syntactic
  | resolution
  | rendering
  | io
  deriving DecidableEq, Repr

namespace Cause

/-- The category of a cause. -/
def kind : Cause → FaultKind
  | malformed _ => .syntactic
  | unknownTemplate _ => .resolution
  | file .. | device _ => .io
  | _ => .rendering

/-- The message for a cause. -/
def message : Cause → String
  | malformed cause => cause.message
  | unknownTemplate name => "template `" ++ name ++ "` not found"
  | tooDeep limit => "reached maximum include depth (" ++ Text.decimal limit ++ ")"
  | noOutputDirectory target => "cannot create `" ++ target ++ "`, no output directory set"
  | notFields found => "expected a struct or map for the context, found " ++ found
  | integerRange => "out of range integral type conversion attempted"
  | keyNotText => "map key must be a string"
  | valueBeforeKey => "map value serialized before its key"
  | unsupported type => type ++ " is not supported"
  | custom reason => reason
  | unwritten => "failed to write output"
  | file path error => path ++ ": " ++ error.message
  | device error => error.message

/-- What the file or the device itself said, where the cause is one. -/
def refusal? : Cause → Option FileError
  | file _ error => some error
  | device error => some error
  | _ => none

end Cause

/-- A tag that leads to another template: the title of the template it stands
in, and its line there. -/
structure Site where
  template : String
  line : Nat
  deriving DecidableEq, Repr

/-- A cause and where it struck: the template and the line if known, the source
with the span to point at, and the tags that led there, outermost first. -/
structure Fault where
  cause : Cause
  template : Option String
  line : Option Nat
  excerpt : Option (String × Span)
  chain : List Site
  deriving DecidableEq, Repr

namespace Fault

/-- A cause that nothing is known about yet. -/
def ofCause (cause : Cause) : Fault := ⟨cause, none, none, none, []⟩

/-- Attaches the name of the template, unless one is known. -/
def inTemplate (fault : Fault) (name : Option String) : Fault :=
  { fault with template := fault.template <|> name }

/-- Attaches a line, if one is given and none is known. -/
def atLine (fault : Fault) (line : Option Nat) : Fault :=
  { fault with line := fault.line <|> line }

/-- Attaches a source with a span to point at, and its line, unless there is a
source already. -/
def pointingAt (fault : Fault) (source : String) (span : Span) : Fault :=
  match fault.excerpt with
  | some _ => fault
  | none =>
    { fault with line := some (span.line source.toList), excerpt := some (source, span) }

/-- Attaches the tags that led here, unless some are known. -/
def through (fault : Fault) (chain : List Site) : Fault :=
  if fault.chain = [] then { fault with chain := chain } else fault

/-- The fault of a flaw in a source. -/
def ofFlaw (source : String) (flaw : Flaw) : Fault :=
  (ofCause (.malformed flaw.cause)).pointingAt source flaw.span

/-- A fault that nothing is known about yet has its cause. -/
@[simp] theorem cause_ofCause (cause : Cause) : (ofCause cause).cause = cause := rfl

/-- The name of the template does not change the cause. -/
@[simp] theorem cause_inTemplate (fault : Fault) (name : Option String) :
    (fault.inTemplate name).cause = fault.cause := rfl

/-- Nor does the line. -/
@[simp] theorem cause_atLine (fault : Fault) (line : Option Nat) :
    (fault.atLine line).cause = fault.cause := rfl

/-- Nor does the excerpt. -/
@[simp] theorem cause_pointingAt (fault : Fault) (source : String) (span : Span) :
    (fault.pointingAt source span).cause = fault.cause := by
  unfold pointingAt
  cases fault.excerpt <;> rfl

/-- Nor do the tags that led here. -/
@[simp] theorem cause_through (fault : Fault) (chain : List Site) :
    (fault.through chain).cause = fault.cause := by
  unfold through
  split <;> rfl

/-- A name that is known stays. -/
@[simp] theorem template_inTemplate (fault : Fault) (name : String) (other : Option String)
    (known : fault.template = some name) : (fault.inTemplate other).template = some name := by
  simp [inTemplate, known]

end Fault

end Stencil
