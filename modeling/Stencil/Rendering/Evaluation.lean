import Stencil.Context
import Stencil.Filter.Basic

/-!
# Evaluating expressions

Every expression has a value. Where there is nothing to be found the value is
nothing, and the journal says what was missing. Callables that a path leads
through are called without arguments before it leads on from them; the operand
of a connective that cannot change the result is not evaluated.
-/

namespace Stencil

/-- The value that a literal stands for. -/
def Literal.value : Literal → Value
  | boolean value => .boolean value
  | integer value => .integer value
  | text value => .text value

/-- What the segment leads to from a value. -/
def Key.leadFrom (key : Key) (value : Value) : Option Value :=
  match key with
  | field name => value.field? name
  | index number _ => value.element? number

/-- Follows the segments of a path from a value. -/
def Path.follow (value : Value) : List Key → Hosted Value
  | [] => return value
  | key :: rest => do
    let within ← value.invoked
    match key.leadFrom within with
    | some next => follow next rest
    | none =>
      Host.note (.noSuchSegment key.text within.label)
      return .none

/-- What a path leads to. A callable at its end is not called. -/
def Path.resolve (context : Context) (path : Path) : Hosted Value :=
  match context.find? path.head with
  | some value => follow value path.keys
  | none => do
    Host.note (.unknownVariable path.head)
    return .none

/-- What a filter makes of a value; nothing if there is no filter of the name. -/
def Filter.use (filters : Named Filter) (name : String) (value : Value)
    (argument : Option Value) : Hosted Value :=
  match filters.get? name with
  | some filter => Host.fresh (filter.apply value argument)
  | none => do
    Host.note (.missingFilter name)
    return .none

/-- Whether two values stand in a relation. -/
def Relation.holds (relation : Relation) (left right : Value) : Bool :=
  match relation with
  | .equal => left.same right
  | .unequal => !left.same right
  | .less => left.order? right = some .lt
  | .greater => left.order? right = some .gt
  | .lessOrEqual => left.order? right = some .lt || left.order? right = some .eq
  | .greaterOrEqual => left.order? right = some .gt || left.order? right = some .eq

mutual

/-- The value of an expression. -/
def Expr.evaluate (filters : Named Filter) (context : Context) : Expr → Hosted Value
  | .literal value => return value.value
  | .path path => do (← path.resolve context).invoked
  | .call path arguments => do
    let function ← path.resolve context
    if function.isCallable then
      function.call (← evaluateAll filters context arguments)
    else
      Host.note (.notCallable path.written)
      return .none
  | .filtered receiver name argument => do
    let value ← receiver.evaluate filters context
    let argument ← evaluateOption filters context argument
    Filter.use filters name value argument
  | .negated operand => do
    return .boolean !(← operand.evaluate filters context).truthy
  | .connected connective left right => do
    let first := (← left.evaluate filters context).truthy
    match connective, first with
    | .both, false => return .boolean false
    | .either, true => return .boolean true
    | _, _ => return .boolean (← right.evaluate filters context).truthy
  | .compared relation left right => do
    let first ← left.evaluate filters context
    let second ← right.evaluate filters context
    return .boolean (relation.holds first second)
termination_by structural expression => expression

/-- The values of arguments, evaluated from left to right. -/
def evaluateAll (filters : Named Filter) (context : Context) : List Expr → Hosted (List Value)
  | [] => return []
  | expression :: rest => do
    let value ← expression.evaluate filters context
    return value :: (← evaluateAll filters context rest)
termination_by structural expressions => expressions

/-- The value of an argument that need not be there. -/
def evaluateOption (filters : Named Filter) (context : Context) :
    Option Expr → Hosted (Option Value)
  | none => return none
  | some expression => return some (← expression.evaluate filters context)
termination_by structural expression => expression

end

end Stencil
