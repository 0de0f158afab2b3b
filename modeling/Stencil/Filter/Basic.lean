import Stencil.Expr
import Stencil.Text.Casing
import Stencil.Value.Basic

/-!
# Filters

A filter makes a value of a value, with or without an argument as its arity
says. The builtin filters leave values that they are not meant for as they are.
-/

namespace Stencil

/-- A filter: whether it takes an argument, and what it makes of a value. -/
structure Filter where
  arity : Arity
  apply : Value → Option Value → Fresh Value

namespace Filter

/-- A filter without argument. -/
def plain (apply : Value → Value) : Filter := ⟨.never, fun value _ => pure (apply value)⟩

/-- A filter that has to be given an argument. -/
def withArgument (apply : Value → Value → Value) : Filter :=
  ⟨.required, fun value argument =>
    pure (match argument with
      | some argument => apply value argument
      | none => value)⟩

/-- Changes a text; other values stay. -/
def onText (change : String → Value) (value : Value) : Value :=
  match value.datum with
  | .text s => change s
  | _ => value

/-- The argument in the place of a value that is not truthy. -/
def fallback (value argument : Value) : Value := if value.truthy then value else argument

/-- The number of elements of a list or characters of a text. -/
def length (value : Value) : Value :=
  match value.datum with
  | .list _ items => .natural items.length
  | .text s => .natural s.length
  | _ => .none

/-- The sum of two integers, or two texts one after the other. A sum that is out
of range is not taken. -/
def add (value argument : Value) : Value :=
  if value.isNone then argument
  else
    let sum := match value.integerLike?, argument.integerLike? with
      | some a, some b => Text.toWord? (a.toInt + b.toInt)
      | _, _ => none
    match sum, value.datum, argument.datum with
    | some sum, _, _ => .integer sum
    | none, .text a, .text b => .text (a ++ b)
    | none, _, _ => value

/-- The argument is a positive integer that divides the value. -/
def divisibleBy (value argument : Value) : Value :=
  match value.datum, argument.datum with
  | .integer a, .integer b => .boolean (0 < b.toInt && a.toInt % b.toInt = 0)
  | _, _ => .boolean false

/-- What follows the last slash or backslash. -/
def stripPath (value : Value) : Value :=
  match value.datum with
  | .text s =>
    let characters := s.toList
    let file := characters.reverse.takeWhile fun c => c ≠ '/' && c ≠ '\\'
    if file.length = characters.length then value else .text (String.ofList file.reverse)
  | _ => value

/-- No-break spaces in the place of spaces. -/
def nowrap : Value → Value :=
  onText fun s => .text (s.map fun c => if c = ' ' then '\u00A0' else c)

/-- Texts and integers can be put one after the other. -/
def isConcatenable (value : Value) : Bool :=
  match value.datum with
  | .text _ | .integer _ => true
  | _ => false

/-- The argument's text before the value's. -/
def prepend (value argument : Value) : Value :=
  if isConcatenable value && isConcatenable argument then .text (argument.written ++ value.written)
  else value

/-- The argument's text after the value's. -/
def append (value argument : Value) : Value :=
  if isConcatenable value && isConcatenable argument then .text (value.written ++ argument.written)
  else value

/-- The value, written without escaping. -/
def raw (value : Value) : Value := ⟨value.datum, true⟩

/-- The text in upper case. -/
def upper : Value → Value := onText fun s => .text (String.ofList (Text.upper s.toList))

/-- The text in lower case. -/
def lower : Value → Value := onText fun s => .text (String.ofList (Text.lower s.toList))

/-- The hexadecimal numeral of an integer. -/
def hex (value : Value) : Value :=
  match value.datum with
  | .integer n => .text (Text.hexadecimalWord n)
  | _ => value

/-- The field of a record that the argument's text names. -/
def field (value argument : Value) : Value :=
  match value.datum with
  | .record _ _ entries => Value.ofRecord entries argument.written
  | _ => .none

/-- A list as it is, any other value as the one element of a new list. -/
def asList (value : Value) : Fresh Value :=
  match value.datum with
  | .list .. => pure value
  | _ => Value.newList [value]

/-- The text starts with one of the schemes of addresses. -/
def isAbsoluteAddress (value : Value) : Value :=
  match value.datum with
  | .text s =>
    .boolean (["http:", "https:", "ftp:", "file:"].any fun scheme =>
      scheme.toList.isPrefixOf s.toList)
  | _ => .boolean false

/-- The filters that are there from the start. -/
def builtins : Named Filter := Named.ofPairs [
  ("default", withArgument fallback),
  ("length", plain length),
  ("add", withArgument add),
  ("divisibleby", withArgument divisibleBy),
  ("stripPath", plain stripPath),
  ("nowrap", plain nowrap),
  ("prepend", withArgument prepend),
  ("append", withArgument append),
  ("raw", plain raw),
  ("upper", plain upper),
  ("lower", plain lower),
  ("hex", plain hex),
  ("get", withArgument field),
  ("list", ⟨.never, fun value _ => asList value⟩),
  ("isAbsoluteURL", plain isAbsoluteAddress)]

end Filter

end Stencil
