import Stencil.Catalogue.Name

/-!
# Paths

A path is a text. It takes a step for each segment between slashes that is neither empty
nor a dot; two dots are a step back.
-/

namespace Stencil.FilePath

/-- The steps that a path takes. -/
def steps (path : String) : List String :=
  ((splitOn (· = '/') path.toList).filter fun segment =>
    decide (segment ≠ [] ∧ segment ≠ ['.'])).map String.ofList

/-- Where a step leads to. -/
def onward (reached : List String) (step : String) : List String :=
  if step = ".." then reached.dropLast else reached ++ [step]

/-- The place that steps lead to. -/
def place (steps : List String) : List String := steps.foldl onward []

/-- The path of a name below a directory. -/
def join (directory name : String) : String :=
  if directory = "" || directory.toList.getLast? = some '/' then directory ++ name
  else directory ++ "/" ++ name

/-- The path, last character first, without slashes and dots at the end that
lead nowhere. -/
def trimReversed : List Char → List Char
  | '/' :: rest => trimReversed rest
  | '.' :: '/' :: rest => trimReversed rest
  | rest => rest

/-- The path of the directory that a path's last segment is in; a path without
segments has none. -/
def parent? (path : String) : Option String :=
  match trimReversed path.toList.reverse with
  | [] => none
  | trimmed => some (String.ofList (trimReversed (trimmed.dropWhile (· ≠ '/'))).reverse)

/-- What follows the last dot of the last segment, unless that dot starts the
segment. Two dots by themselves are no name. -/
def extension (path : String) : String :=
  let file := (trimReversed path.toList.reverse).takeWhile (· ≠ '/')
  let after := file.takeWhile (· ≠ '.')
  if file = ['.', '.'] || after.length + 1 ≥ file.length then ""
  else String.ofList after.reverse

example : extension "out/a.tar.gz" = "gz" := by decide

example : extension "out/.hidden" = "" ∧ extension "out/plain" = "" := by decide

example : place (steps "./out//a/../b") = ["out", "b"] := by decide

example : parent? "out/a/b" = some "out/a" ∧ parent? "out/" = some "" := by decide

end Stencil.FilePath
