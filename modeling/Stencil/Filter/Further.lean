import Stencil.Filter.Basic

/-!
# Further filters

Filters that a host can add to the builtin ones, under any name and with any
arity.
-/

namespace Stencil.Filter

/-- The text with an exclamation mark. -/
def shouted (value : Value) (_ : Option Value) : Fresh Value :=
  pure (.text (value.written ++ "!"))

/-- The text as often as the argument says, twice without argument, and a
hundred times at most. -/
def repeatedText (value : Value) (argument : Option Value) : Fresh Value :=
  let times := match argument with
    | some argument => min argument.toInteger.toInt.toNat 100
    | none => 2
  pure (.text (String.join (List.replicate times value.written)))

/-- As many of the first characters as the argument says, three without
argument. -/
def truncated (value : Value) (argument : Option Value) : Fresh Value :=
  let count := match argument with
    | some argument => argument.toInteger.toInt.toNat
    | none => 3
  pure (.text (String.ofList (value.written.toList.take count)))

/-- The words for the kinds of the value and of the argument. -/
def kinds (value : Value) (argument : Option Value) : Fresh Value :=
  let second := match argument with
    | some argument => argument.datum.word
    | none => "-"
  pure (.text (value.datum.word ++ "/" ++ second))

/-- Nothing, whatever the value. -/
def discarded (_ : Value) (_ : Option Value) : Fresh Value := pure .none

end Stencil.Filter
