import Stencil.Files.Basic
import Stencil.Journal
import Stencil.Value.Basic

/-!
# The host

Everything that a rendering meets outside of the templates and the context: the
callables that the host lent, the journal, the files, and the supply of marks
for new lists and records. A callable answers from the values it holds, from the
arguments of its earlier calls, and from its arguments; so it may count its
calls, but has no other memory. The values it holds are listed apart, because
they have to be exchanged when a list or record that they contain grows.
-/

namespace Stencil

/-- A function of the host: the values it holds, and its answer from those, from
the arguments of its earlier calls, latest first, and from its arguments. -/
structure Callable where
  held : List Value
  answer : List Value → List (List Value) → List Value → Fresh Value

namespace Callable

/-- Answers with a value that it holds. -/
def returning (value : Value) : Callable :=
  ⟨[value], fun held _ _ => pure (held.headD Value.none)⟩

/-- Answers with a new list of its arguments. -/
def listing : Callable := ⟨[], fun _ _ arguments => Value.newList arguments⟩

/-- Answers with the texts of its arguments, commas between them. -/
def joining : Callable :=
  ⟨[], fun _ _ arguments => pure (.text (",".intercalate (arguments.map Value.written)))⟩

/-- Answers with the words for the kinds of its arguments, commas between them. -/
def naming : Callable :=
  ⟨[], fun _ _ arguments =>
    pure (.text (",".intercalate (arguments.map fun value => value.datum.word)))⟩

/-- Answers with its first argument, or nothing. -/
def choosing : Callable := ⟨[], fun _ _ arguments => pure (arguments.headD Value.none)⟩

/-- Answers with the number of times it was called. -/
def counting : Callable := ⟨[], fun _ earlier _ => pure (.natural (earlier.length + 1))⟩

end Callable

/-- A callable that the host lent, under its mark, with the arguments of its
calls so far, latest first. -/
structure Lent where
  mark : Nat
  callable : Callable
  calls : List (List Value)

/-- The host's side of a rendering. The journal is kept latest first. -/
structure Host where
  unused : Nat
  lent : List Lent
  records : List Record
  notices : List Notice
  files : Files

/-- What needs the host's side to come to a result. -/
abbrev Hosted (α : Type) := StateM Host α

namespace Host

/-- A host without callables and files, and with an empty journal. -/
def empty : Host := ⟨0, [], [], [], []⟩

/-- Takes marks from the supply. -/
def fresh {α : Type} (make : Fresh α) : Hosted α := fun host =>
  let made := make host.unused
  (made.1, { host with unused := made.2 })

/-- Adds a record to the journal. -/
def note (record : Record) : Hosted Unit :=
  modify fun host => { host with records := record :: host.records }

/-- Lends a callable and gives the value that refers to it. -/
def lend (callable : Callable) : Hosted Value := do
  let mark ← fresh Fresh.mark
  modify fun host => { host with lent := ⟨mark, callable, []⟩ :: host.lent }
  return .plain (.callable mark)

/-- Calls the callable under a mark; one that was not lent answers nothing. -/
def call (mark : Nat) (arguments : List Value) : Hosted Value := do
  match (← get).lent.find? fun lent => lent.mark = mark with
  | none => return .none
  | some found =>
    let answer ← fresh (found.callable.answer found.callable.held found.calls arguments)
    modify fun host =>
      { host with
        lent := host.lent.map fun lent =>
          if lent.mark = mark then { lent with calls := arguments :: lent.calls } else lent }
    return answer

/-- Exchanges the contents under a mark in everything that callables hold. -/
def renew (host : Host) (mark : Nat) (contents : Datum) : Host :=
  { host with
    lent := host.lent.map fun lent =>
      { lent with
        callable := { lent.callable with
          held := itemsRenewed mark contents lent.callable.held } } }

/-- The host with an empty journal. -/
def withoutJournal (host : Host) : Host := { host with records := [], notices := [] }

end Host

namespace Value

/-- Calls the value; one that is not a callable answers nothing. -/
def call (value : Value) (arguments : List Value) : Hosted Value :=
  match value.datum with
  | .callable mark => Host.call mark arguments
  | _ => return .none

/-- The answer of a callable to no arguments; any other value itself. -/
def invoked (value : Value) : Hosted Value :=
  match value.datum with
  | .callable mark => Host.call mark []
  | _ => return value

end Value

end Stencil
