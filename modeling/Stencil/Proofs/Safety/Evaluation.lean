import Mathlib
import Stencil.Proofs.Safety.Mentions
import Stencil.Proofs.Safety.Operands

/-!
# Expressions with guards

Expressions can be evaluated with all guarded that could go wrong: what they mention is cut out of
the source, lists are asked for their elements one by one, and the builtin filters cut and divide.
Where all that an expression mentions can be cut, its value is the same and nothing goes wrong.
-/

namespace Stencil

/-- What needs the host's side to come to a result, unless it goes wrong. -/
abbrev Guarded (α : Type) := ExceptT Mishap (StateM Host) α

namespace Guarded

variable {α β : Type}

/-- What cannot go wrong. -/
def safely (action : Hosted α) : Guarded α := ExceptT.lift action

/-- The result of an operation, which may have gone wrong. -/
def checked (result : Except Mishap α) : Guarded α := ExceptT.mk (pure result)

/-- An operation that went well gives its value. -/
@[simp] theorem checked_ok (value : α) : checked (.ok value) = pure value := rfl

/-- A sequence goes wrong nowhere if its parts do not. -/
@[simp] theorem safely_bind (action : Hosted α) (next : α → Hosted β) :
    (safely action >>= fun value => safely (next value)) = safely (action >>= next) := rfl

end Guarded

open Guarded

section Paths

variable (cut : String → Except Mishap String)

/-- What the segment leads to from a value. -/
def Key.leadGuarded (key : Key) (value : Value) : Except Mishap (Option Value) :=
  match key with
  | .field name => do return value.field? (← cut name)
  | .index number _ => value.elementGuarded number

/-- Follows the segments of a path from a value. -/
def Path.followGuarded (value : Value) : List Key → Guarded Value
  | [] => return value
  | key :: rest => do
    let within ← safely value.invoked
    match ← checked (key.leadGuarded cut within) with
    | some next => followGuarded next rest
    | none =>
      let text ← checked (cut key.text)
      safely (Host.note (.noSuchSegment text within.label))
      return .none

/-- What a path leads to. -/
def Path.resolveGuarded (context : Context) (path : Path) : Guarded Value := do
  let head ← checked (cut path.head)
  match context.find? head with
  | some value => followGuarded cut value path.keys
  | none =>
    safely (Host.note (.unknownVariable head))
    return .none

variable {cut}

/-- Following the segments goes well if their texts can be cut. -/
theorem Path.followGuarded_eq {keys : List Key} (value : Value)
    (cuts : ∀ text ∈ keys.map Key.text, cut text = .ok text) :
    followGuarded cut value keys = safely (follow value keys) := by
  induction keys generalizing value with
  | nil => rfl
  | cons key rest inductionHypothesis =>
    obtain ⟨here, later⟩ := List.forall_mem_cons.mp cuts
    have leads : ∀ within, key.leadGuarded cut within = .ok (key.leadFrom within) := by
      intro within
      cases key with
      | field name =>
        rw [Key.leadGuarded, show cut name = .ok name from here]
        rfl
      | index number written => exact within.elementGuarded_eq number
    rw [followGuarded, follow, ← safely_bind]
    congr 1
    funext within
    rw [leads, checked_ok, pure_bind]
    cases key.leadFrom within with
    | some next => exact inductionHypothesis next later
    | none =>
      rw [here]
      rfl

/-- Resolving a path goes well if its texts can be cut. -/
theorem Path.resolveGuarded_eq {path : Path} (context : Context)
    (cuts : ∀ text ∈ (Mention.path path).texts, cut text = .ok text) :
    path.resolveGuarded cut context = safely (path.resolve context) := by
  obtain ⟨_, head, keys⟩ : _ ∧ _ ∧ _ := by simpa [Mention.texts] using cuts
  rw [resolveGuarded, resolve, head, checked_ok, pure_bind]
  cases context.find? path.head with
  | some value => exact followGuarded_eq value (by simpa using keys)
  | none => rfl

end Paths

section Filters

/-- What the builtin filter of a name does that might go wrong: the values may be written, one of
them may divide the other, and a path may be cut. -/
def Filter.guard (name : String) (value : Value) (argument : Option Value) :
    Except Mishap Unit := do
  value.visit
  (argument.getD .none).visit
  if name = "divisibleby" then
    let _ ← divisibleByDivided value (argument.getD .none)
  else if name = "stripPath" then
    let _ ← stripPathCut value

/-- Nothing of it goes wrong. -/
@[simp] theorem Filter.guard_eq (name : String) (value : Value) (argument : Option Value) :
    guard name value argument = .ok () := by
  simp only [guard, Value.visit_eq, bind_ok, divisibleByDivided_eq, stripPathCut_eq]
  split
  · rfl
  · split <;> rfl

/-- What a filter makes of a value. -/
def Filter.useGuarded (cut : String → Except Mishap String) (filters : Named Filter)
    (name : String) (value : Value) (argument : Option Value) : Guarded Value := do
  let name ← checked (cut name)
  checked (guard name value argument)
  safely (use filters name value argument)

/-- A comparison may write both values. -/
def Relation.holdsGuarded (relation : Relation) (left right : Value) : Except Mishap Bool := do
  left.visit
  right.visit
  return relation.holds left right

/-- It does not go wrong. -/
@[simp] theorem Relation.holdsGuarded_eq (relation : Relation) (left right : Value) :
    relation.holdsGuarded left right = .ok (relation.holds left right) := by
  rw [holdsGuarded, left.visit_eq, right.visit_eq]
  rfl

end Filters

section Expressions

variable (cut : String → Except Mishap String) (filters : Named Filter) (context : Context)

mutual

/-- The value of an expression. -/
def Expr.evaluateGuarded : Expr → Guarded Value
  | .literal value => return value.value
  | .path path => do
    let value ← path.resolveGuarded cut context
    safely value.invoked
  | .call path arguments => do
    let function ← path.resolveGuarded cut context
    if function.isCallable then
      let arguments ← evaluateAllGuarded arguments
      safely (function.call arguments)
    else
      let text ← checked (cut path.written)
      safely (Host.note (.notCallable text))
      return .none
  | .filtered receiver name argument => do
    let value ← receiver.evaluateGuarded
    let argument ← evaluateOptionGuarded argument
    Filter.useGuarded cut filters name value argument
  | .negated operand => do
    let value ← operand.evaluateGuarded
    return .boolean !value.truthy
  | .connected connective left right => do
    let first ← left.evaluateGuarded
    match connective, first.truthy with
    | .both, false => return .boolean false
    | .either, true => return .boolean true
    | _, _ =>
      let second ← right.evaluateGuarded
      return .boolean second.truthy
  | .compared relation left right => do
    let first ← left.evaluateGuarded
    let second ← right.evaluateGuarded
    return .boolean (← checked (relation.holdsGuarded first second))
termination_by structural expression => expression

/-- The values of arguments, evaluated from left to right. -/
def evaluateAllGuarded : List Expr → Guarded (List Value)
  | [] => return []
  | expression :: rest => do
    let value ← expression.evaluateGuarded
    let others ← evaluateAllGuarded rest
    return value :: others
termination_by structural expressions => expressions

/-- The value of an argument that need not be there. -/
def evaluateOptionGuarded : Option Expr → Guarded (Option Value)
  | none => return none
  | some expression => do
    let value ← expression.evaluateGuarded
    return some value
termination_by structural expression => expression

end

/-- All that is mentioned can be cut out of the source. -/
def Mention.Cut (cut : String → Except Mishap String) (mentions : List Mention) : Prop :=
  ∀ mention ∈ mentions, ∀ text ∈ mention.texts, cut text = .ok text

variable {cut filters context}

mutual

/-- An expression goes well if all that it mentions can be cut. -/
theorem Expr.evaluateGuarded_eq (expression : Expr) (cuts : Mention.Cut cut expression.mentions) :
    expression.evaluateGuarded cut filters context =
      safely (expression.evaluate filters context) := by
  cases expression with
  | literal value => rfl
  | path path =>
    have resolved := path.resolveGuarded_eq context (cuts _ List.mem_cons_self)
    rw [Expr.evaluateGuarded, resolved]
    rfl
  | call path arguments =>
    obtain ⟨here, argued⟩ := List.forall_mem_cons.mp cuts
    have written : cut path.written = .ok path.written := here _ List.mem_cons_self
    rw [Expr.evaluateGuarded, path.resolveGuarded_eq context here, Expr.evaluate, ← safely_bind]
    congr 1
    funext function
    split
    · rw [evaluateAllGuarded_eq arguments argued]
      rfl
    · rw [written]
      rfl
  | filtered receiver name argument =>
    obtain ⟨here, inside⟩ := List.forall_mem_cons.mp cuts
    obtain ⟨received, argued⟩ := List.forall_mem_append.mp inside
    have named : cut name = .ok name := here _ List.mem_cons_self
    rw [Expr.evaluateGuarded, Expr.evaluateGuarded_eq receiver received,
      evaluateOptionGuarded_eq argument argued]
    simp only [Filter.useGuarded, named, Filter.guard_eq, checked_ok, pure_bind]
    rfl
  | negated operand =>
    rw [Expr.evaluateGuarded, Expr.evaluateGuarded_eq operand cuts]
    rfl
  | connected connective left right =>
    obtain ⟨first, second⟩ := List.forall_mem_append.mp cuts
    rw [Expr.evaluateGuarded, Expr.evaluateGuarded_eq left first,
      Expr.evaluateGuarded_eq right second, Expr.evaluate, ← safely_bind]
    congr 1
    funext value
    cases connective <;> cases value.truthy <;> rfl
  | compared relation left right =>
    obtain ⟨first, second⟩ := List.forall_mem_append.mp cuts
    rw [Expr.evaluateGuarded, Expr.evaluateGuarded_eq left first,
      Expr.evaluateGuarded_eq right second]
    simp only [Relation.holdsGuarded_eq, checked_ok, pure_bind]
    rfl
termination_by structural expression

/-- So do arguments. -/
theorem evaluateAllGuarded_eq (expressions : List Expr)
    (cuts : Mention.Cut cut (mentionsAll expressions)) :
    evaluateAllGuarded cut filters context expressions =
      safely (evaluateAll filters context expressions) := by
  cases expressions with
  | nil => rfl
  | cons expression rest =>
    obtain ⟨here, later⟩ := List.forall_mem_append.mp cuts
    rw [evaluateAllGuarded, Expr.evaluateGuarded_eq expression here,
      evaluateAllGuarded_eq rest later]
    rfl
termination_by structural expressions

/-- And one that need not be there. -/
theorem evaluateOptionGuarded_eq (expression : Option Expr)
    (cuts : Mention.Cut cut (optionMentions expression)) :
    evaluateOptionGuarded cut filters context expression =
      safely (evaluateOption filters context expression) := by
  cases expression with
  | none => rfl
  | some expression =>
    rw [evaluateOptionGuarded, Expr.evaluateGuarded_eq expression cuts]
    rfl
termination_by structural expression

end

end Expressions

end Stencil
