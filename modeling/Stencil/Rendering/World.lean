import Stencil.Catalogue
import Stencil.Rendering.Evaluation
import Stencil.Rendering.Sink

/-!
# The world of a rendering

What a rendering reads and changes. The workshop outlives it: the catalogue, the
context and the host's side. How often each cycle tag was executed, and where the
output goes, concern one rendering only. A rendering ends, or it halts. What is
changed for the time of an action is changed back when the action is over, also
when it halted.
-/

namespace Stencil

/-- What outlives a rendering. -/
structure Workshop where
  catalogue : Catalogue
  context : Context
  host : Host

/-- A cycle tag: the serial number of its template, and its number there. -/
structure CycleTag where
  serial : Nat
  number : Nat
  deriving DecidableEq, Repr

/-- How often cycle tags were executed. -/
abbrev Turns := List (CycleTag × Nat)

namespace Turns

/-- How often a tag was executed. -/
def count (turns : Turns) (tag : CycleTag) : Nat := (turns.lookup tag).getD 0

/-- The counts after one more execution of a tag. -/
def advance (turns : Turns) (tag : CycleTag) : Turns :=
  match turns with
  | [] => [(tag, 1)]
  | (other, count) :: rest =>
    if other = tag then (other, count + 1) :: rest else (other, count) :: advance rest tag

/-- An execution counts for its own tag. -/
@[simp] theorem count_advance_self (turns : Turns) (tag : CycleTag) :
    (turns.advance tag).count tag = turns.count tag + 1 := by
  induction turns with
  | nil => simp [advance, count]
  | cons pair rest inductionHypothesis =>
    obtain ⟨other, executed⟩ := pair
    by_cases same : other = tag
    · simp [advance, count, same]
    · have differs : (tag == other) = false := by simpa using Ne.symm same
      simpa [advance, count, same, List.lookup_cons, differs] using inductionHypothesis

/-- An execution does not count for another tag. -/
theorem count_advance_of_ne (turns : Turns) (tag asked : CycleTag) (different : asked ≠ tag) :
    (turns.advance tag).count asked = turns.count asked := by
  have differs : (asked == tag) = false := by simpa using different
  induction turns with
  | nil => simp [advance, count, List.lookup_cons, differs]
  | cons pair rest inductionHypothesis =>
    obtain ⟨other, executed⟩ := pair
    by_cases same : other = tag
    · subst same
      simp [advance, count, List.lookup_cons, differs]
    · by_cases found : asked = other
      · simp [advance, count, same, found]
      · have apart : (asked == other) = false := by simpa using found
        simpa [advance, count, same, List.lookup_cons, apart] using inductionHypothesis

end Turns

/-- What a rendering reads and changes. -/
structure World extends Workshop where
  turns : Turns
  sink : Sink

/-- Why a rendering does not end: a fault, or that it would have to expand more
templates, blocks and trees inside one another than it was allowed to. -/
inductive Halt where
  | fault (fault : Fault)
  | exhausted
  deriving DecidableEq, Repr

/-- Whether two results are the same can be decided. -/
instance decidableEqResult {ε α : Type} [DecidableEq ε] [DecidableEq α] : DecidableEq (Except ε α)
  | .ok value, .ok other => decidable_of_iff (value = other) ⟨congrArg Except.ok, Except.ok.inj⟩
  | .error reason, .error other =>
    decidable_of_iff (reason = other) ⟨congrArg Except.error, Except.error.inj⟩
  | .ok _, .error _ => isFalse (by simp)
  | .error _, .ok _ => isFalse (by simp)

/-- What a rendering does to its world to come to a result or to halt. -/
abbrev Run (α : Type) := ExceptT Halt (StateM World) α

namespace Run

variable {α : Type}

/-- Halts with a fault. -/
def fail (fault : Fault) : Run α := throw (.fault fault)

/-- Does what needs the host's side only. -/
def hosted (action : Hosted α) : Run α := fun world =>
  let done := action world.host
  (.ok done.1, { world with host := done.2 })

/-- Adds a record to the journal. -/
def note (record : Record) : Run Unit := hosted (Host.note record)

/-- Performs an action between two changes of the world. -/
def between (before after : World → World) (action : Run α) : Run α := fun world =>
  let done := action (before world)
  (done.1, after done.2)

/-- Performs an action with a new innermost scope. -/
def inScope (scope : Named Value) (action : Run α) : Run α :=
  between (fun world => { world with context := world.context.push scope })
    (fun world => { world with context := world.context.pop }) action

/-- Performs an action that uses a handle, and gives the handle back. -/
def releasing (handle : Handle) (action : Run α) : Run α :=
  between id (fun world => { world with catalogue := world.catalogue.release handle }) action

/-- Performs an action with the policy of an extension as the active one. -/
def underPolicy (extension : String) (action : Run α) : Run α := fun world =>
  between (fun world => { world with context := world.context.select extension })
    (fun after => { after with context := { after.context with active := world.context.active } })
    action world

/-- Tells the active policy that tabbing is switched on or off. -/
def switchTabbing (on : Bool) (world : World) : World :=
  let told := world.context.switchTabbing on
  { world with
    context := told.2
    host := { world.host with notices := told.1.reverse ++ world.host.notices } }

/-- Performs an action with tabbing switched on. -/
def tabbed (action : Run α) : Run α := between (switchTabbing true) (switchTabbing false) action

/-- The text that an action writes. -/
def capture (action : Run Unit) : Run String := fun world =>
  let done := action { world with sink := .buffer "" }
  (done.1.map fun _ => done.2.sink.text, { done.2 with sink := world.sink })

/-- Writes a text. Why a sink does not take all of it is not known here. -/
def write (text : String) : Run Unit := fun world =>
  let written := world.sink.write text
  (if written.1 then .ok () else .error (.fault (.ofCause .unwritten)),
    { world with sink := written.2 })

/-- The text as the active policy escapes it. -/
def escape (text : String) : Run String := fun world =>
  let escaped := world.context.escape text
  (.ok escaped.1, { world with context := escaped.2 })

/-- The text of a spaceless region as the policy changes it. -/
def removeSpace (text : String) : Run String := fun world =>
  let removed := world.context.removeSpace text
  (.ok removed.1,
    { world with
      context := removed.2.2
      host := { world.host with notices := removed.2.1.reverse ++ world.host.notices } })

/-- The value of an expression. -/
def evaluate (expression : Expr) : Run Value := fun world =>
  hosted (expression.evaluate world.catalogue.filters world.context) world

/-- The text of the value of an expression. -/
def evaluateText (expression : Expr) : Run String := return (← evaluate expression).written

/-- Sets a name in the innermost scope. -/
def assign (name : String) (value : Value) : Run Unit :=
  modify fun world => { world with context := world.context.set name value }

/-- The value of a name in the innermost scope that has it. -/
def lookUp (name : String) : Run (Option Value) := return (← get).context.find? name

/-- The scope that some bindings make, their values taken from left to right. -/
def scopeOf (bindings : List Binding) : Run (Named Value) := do
  let pairs ← bindings.mapM fun binding =>
    return (binding.name, ← evaluate binding.value)
  return Named.ofPairs pairs

/-- The number of earlier executions of a cycle tag; this one is counted. -/
def turn (tag : CycleTag) : Run Nat := fun world =>
  (.ok (world.turns.count tag), { world with turns := world.turns.advance tag })

/-- Performs an action for each element of a list with its index. -/
def forEach {β : Type} (action : Nat → β → Run Unit) : Nat → List β → Run Unit
  | _, [] => pure ()
  | index, item :: rest => do
    action index item
    forEach action (index + 1) rest

/-- Performs an action for as many indices as there remain. -/
def forIndices (action : Nat → Run Unit) (index : Nat) : Nat → Run Unit
  | 0 => pure ()
  | remaining + 1 => do
    action index
    forIndices action (index + 1) remaining

end Run

end Stencil
