import Stencil.Fault.Basic
import Stencil.Text.Columns
import Stencil.Text.Decimal

/-!
# How a fault is shown

The short form is the place, the message and the tags that led there, innermost
first. The long form adds the source line with carets below the span: as many as
the span takes columns, at least one, below the first of them. A span that
starts after the last line end is drawn just past the end of the last line. How
many columns a text takes is up to the display.
-/

namespace Stencil

/-- The lines of a text; a line feed at the very end does not start another. -/
def sourceLines : List Char → List (List Char)
  | [] => []
  | c :: rest =>
    if c = '\n' then [] :: sourceLines rest
    else match sourceLines rest with
      | [] => [[c]]
      | line :: later => (c :: line) :: later

/-- The line that is drawn for a span: its number counted from zero, its text,
and the columns before the carets. -/
def drawnLine (width : List Char → Nat) (source : List Char) (span : Span) :
    Nat × List Char × Nat :=
  let lines := sourceLines source
  let number := span.line source - 1
  match lines[number]? with
  | some code => (number, code, width (code.take (span.column source)))
  | none =>
    let code := lines.getLast?.getD []
    (lines.length - 1, code, width code)

/-- A run of one character. -/
def repeated (c : Char) (count : Nat) : String := String.ofList (List.replicate count c)

/-- What stands before a line: its number. -/
def numberedMargin (number : Nat) : String := " " ++ Text.decimal number ++ " | "

/-- What stands above and below it. -/
def emptyMargin (width : List Char → Nat) (number : Nat) : String :=
  " " ++ repeated ' ' (width (Text.decimal number).toList) ++ " |"

/-- A line with its number, and below it carets and a message, with the columns
before the carets left blank. -/
def illustration (width : List Char → Nat) (number : Nat) (code : List Char)
    (before carets : Nat) (message : String) : String :=
  "\n\n" ++ emptyMargin width number ++ "\n" ++ numberedMargin number ++ String.ofList code
    ++ "\n" ++ emptyMargin width number ++ " " ++ repeated ' ' before ++ repeated '^' carets
    ++ " " ++ message ++ "\n"

/-- The source line of a span with carets and a message below it. -/
def drawing (width : List Char → Nat) (message source : String) (span : Span) : String :=
  let (number, code, before) := drawnLine width source.toList span
  let carets := max 1 (width (span.slice source.toList))
  illustration width (number + 1) code before carets message

namespace Fault

/-- The place, the message, and the tags that led there, innermost first. -/
def display (fault : Fault) : String :=
  let message := fault.cause.message
  let located := match fault.template, fault.line with
    | some name, some line => name ++ ":" ++ Text.decimal line ++ ": " ++ message
    | some name, none => name ++ ": " ++ message
    | none, some line => "line " ++ Text.decimal line ++ ": " ++ message
    | none, none => message
  fault.chain.reverse.foldl (fun shown site =>
    shown ++ "\n  included from " ++ site.template ++ ":" ++ Text.decimal site.line) located

/-- The short form followed by the drawing, if there is a source to draw, on a
display where texts take so many columns. -/
def prettyBy (width : List Char → Nat) (fault : Fault) : String :=
  match fault.excerpt with
  | some (source, span) => fault.display ++ drawing width fault.cause.message source span
  | none => fault.display

/-- The long form, on a display of fixed width. -/
def pretty (fault : Fault) : String := fault.prettyBy Text.columns

end Fault

/-- A text that is not empty has a line. -/
theorem sourceLines_ne_nil (c : Char) (rest : List Char) : sourceLines (c :: rest) ≠ [] := by
  unfold sourceLines
  split
  · simp
  · split <;> simp

end Stencil
