import Stencil.Proofs.Tabbing

/-!
# What changes little

Callables and filters of the host do not touch the files, so neither does the evaluation of
an expression. Most of what is executed changes little: it uses policies, but tells them
nothing about tabbing, and leaves alone which policy is active, the output directory, and
the files.
-/

namespace Stencil

namespace Hosted

variable {α β : Type}

/-- Whatever the host's side is like, its files stay as they are. -/
def SparesFiles (action : Hosted α) : Prop := ∀ host, (action host).2.files = host.files

/-- A sequence spares the files if its parts do. -/
theorem SparesFiles.bind {action : Hosted α} {next : α → Hosted β} (first : SparesFiles action)
    (onward : ∀ value, SparesFiles (next value)) : SparesFiles (action >>= next) :=
  fun host => (onward (action host).1 (action host).2).trans (first host)

/-- A value by itself spares them. -/
theorem sparesFiles_pure (value : α) : SparesFiles (pure value) := fun _ => rfl

/-- So does a record in the journal. -/
theorem sparesFiles_note (record : Record) : SparesFiles (Host.note record) := fun _ => rfl

/-- So does what takes marks. -/
theorem sparesFiles_fresh (make : Fresh α) : SparesFiles (Host.fresh make) := fun _ => rfl

/-- So does a callable that is called. -/
theorem sparesFiles_called (mark : Nat) (arguments : List Value) :
    SparesFiles (Host.call mark arguments) := by
  have looks : SparesFiles (get : Hosted Host) := fun _ => rfl
  refine looks.bind fun host => ?_
  split
  · exact sparesFiles_pure _
  · refine (sparesFiles_fresh _).bind fun answer => ?_
    have counts : ∀ lent : Host → List Lent,
        SparesFiles (modify fun host => { host with lent := lent host } : Hosted Unit) :=
      fun _ _ => rfl
    exact (counts _).bind fun _ => sparesFiles_pure answer

/-- So does a value that is called, or that is taken as it is. -/
theorem sparesFiles_invoked (value : Value) : SparesFiles value.invoked := by
  unfold Value.invoked
  split
  · exact sparesFiles_called _ _
  · exact sparesFiles_pure _

/-- So does a path. -/
theorem sparesFiles_follow (keys : List Key) (value : Value) :
    SparesFiles (Path.follow value keys) := by
  induction keys generalizing value with
  | nil => exact sparesFiles_pure _
  | cons key rest inductionHypothesis =>
    refine (sparesFiles_invoked value).bind fun within => ?_
    split
    · exact inductionHypothesis _
    · exact (sparesFiles_note _).bind fun _ => sparesFiles_pure _

/-- So does a path that starts from a name. -/
theorem sparesFiles_resolve (context : Context) (path : Path) :
    SparesFiles (path.resolve context) := by
  unfold Path.resolve
  split
  · exact sparesFiles_follow _ _
  · exact (sparesFiles_note _).bind fun _ => sparesFiles_pure _

end Hosted

section Expressions

open Hosted

variable (filters : Named Filter) (context : Context)

mutual

/-- So does every expression. -/
theorem Expr.sparesFiles_evaluate (expression : Expr) :
    SparesFiles (expression.evaluate filters context) := by
  cases expression with
  | literal value => exact sparesFiles_pure _
  | path path => exact (sparesFiles_resolve context path).bind sparesFiles_invoked
  | call path arguments =>
    refine (sparesFiles_resolve context path).bind fun function => ?_
    split
    · refine (sparesFiles_evaluateAll arguments).bind fun values => ?_
      unfold Value.call
      split
      · exact sparesFiles_called _ _
      · exact sparesFiles_pure _
    · exact (sparesFiles_note _).bind fun _ => sparesFiles_pure _
  | filtered receiver name argument =>
    refine (receiver.sparesFiles_evaluate).bind fun value => ?_
    refine (sparesFiles_evaluateOption argument).bind fun argument => ?_
    unfold Filter.use
    split
    · exact sparesFiles_fresh _
    · exact (sparesFiles_note _).bind fun _ => sparesFiles_pure _
  | negated operand => exact operand.sparesFiles_evaluate.bind fun _ => sparesFiles_pure _
  | connected connective left right =>
    refine left.sparesFiles_evaluate.bind fun value => ?_
    dsimp only
    split
    · exact sparesFiles_pure _
    · exact sparesFiles_pure _
    · exact right.sparesFiles_evaluate.bind fun _ => sparesFiles_pure _
  | compared relation left right =>
    exact left.sparesFiles_evaluate.bind fun _ =>
      right.sparesFiles_evaluate.bind fun _ => sparesFiles_pure _
termination_by structural expression

/-- So do arguments. -/
theorem sparesFiles_evaluateAll (expressions : List Expr) :
    SparesFiles (evaluateAll filters context expressions) := by
  cases expressions with
  | nil => exact sparesFiles_pure _
  | cons expression rest =>
    exact expression.sparesFiles_evaluate.bind fun _ =>
      (sparesFiles_evaluateAll rest).bind fun _ => sparesFiles_pure _
termination_by structural expressions

/-- So does an argument that need not be there. -/
theorem sparesFiles_evaluateOption (expression : Option Expr) :
    SparesFiles (evaluateOption filters context expression) := by
  cases expression with
  | none => exact sparesFiles_pure _
  | some expression => exact expression.sparesFiles_evaluate.bind fun _ => sparesFiles_pure _
termination_by structural expression

end

end Expressions

namespace World

/-- Little changes between two worlds: policies are used, but not told about tabbing, the
active one is the same, and so are the output directory and the files. -/
structure Calm (before after : World) : Prop where
  used : Context.Used true before.context after.context
  outputDirectory : after.context.outputDirectory = before.context.outputDirectory
  files : after.host.files = before.host.files

variable {before middle after : World}

/-- Less changes where the policies are left alone, too. -/
theorem Calm.of_same (active : after.context.active = before.context.active)
    (escapers : after.context.escapers = before.context.escapers)
    (outputDirectory : after.context.outputDirectory = before.context.outputDirectory)
    (files : after.host.files = before.host.files) : Calm before after :=
  ⟨.of_same active escapers, outputDirectory, files⟩

/-- What changes little twice changes little. -/
theorem Calm.trans (first : Calm before middle) (second : Calm middle after) :
    Calm before after :=
  ⟨first.used.trans second.used, second.outputDirectory.trans first.outputDirectory,
    second.files.trans first.files⟩

end World

namespace Run

variable {α β : Type}

/-- The action changes little. -/
def Calm (action : Run α) : Prop := ∀ world, World.Calm world (action world).2

/-- So does one that leaves the context and the files alone. -/
theorem Calm.of_context {action : Run α}
    (context : ∀ world, (action world).2.context = world.context)
    (files : ∀ world, (action world).2.host.files = world.host.files) : Calm action :=
  fun world => .of_same (congrArg Context.active (context world))
    (congrArg Context.escapers (context world))
    (congrArg Context.outputDirectory (context world)) (files world)

/-- So does a value by itself. -/
theorem Calm.pure (value : α) : Calm (Pure.pure value) := .of_context (fun _ => rfl) fun _ => rfl

/-- So does a sequence. -/
theorem Calm.bind {action : Run α} {next : α → Run β} (first : Calm action)
    (onward : ∀ value, Calm (next value)) : Calm (action >>= next) := by
  intro world
  have begun := first world
  rw [bind_apply]
  rcases done : action world with ⟨halt | value, after⟩
  · rw [done] at begun
    exact begun
  · rw [done] at begun
    exact begun.trans (onward value after)

/-- So does what spares the files on the host's side. -/
theorem calm_hosted {action : Hosted α} (spares : Hosted.SparesFiles action) :
    Calm (hosted action) :=
  .of_context (fun _ => rfl) fun world => spares world.host

/-- So does the evaluation of an expression. -/
theorem calm_evaluate (expression : Expr) : Calm (evaluate expression) :=
  .of_context (fun _ => rfl) fun world =>
    expression.sparesFiles_evaluate world.catalogue.filters world.context world.host

/-- So does that of its text. -/
theorem calm_evaluateText (expression : Expr) : Calm (evaluateText expression) :=
  (calm_evaluate expression).bind fun _ => .pure _

/-- So does that of the expressions of bindings. -/
theorem calm_scopeOf (bindings : List Binding) : Calm (scopeOf bindings) := by
  have pairs : Calm (bindings.mapM fun binding =>
      (do return (binding.name, ← evaluate binding.value) : Run (String × Value))) := by
    induction bindings with
    | nil => exact .pure _
    | cons binding rest inductionHypothesis =>
      rw [List.mapM_cons]
      exact ((calm_evaluate binding.value).bind fun _ => .pure _).bind fun _ =>
        inductionHypothesis.bind fun _ => .pure _
  exact pairs.bind fun _ => .pure _

/-- So does it to write a text. -/
theorem calm_write (text : String) : Calm (write text) := .of_context (fun _ => rfl) fun _ => rfl

/-- A policy is used to write a value, at most. -/
theorem calm_emit (station : Station) (value : Value) : Calm (station.emit value) := by
  have escapes : Calm (escape value.written) := by
    refine fun world => ⟨.escape world.context _, ?_, rfl⟩
    show (world.context.escape value.written).2.outputDirectory = _
    unfold Context.escape
    split <;> rfl
  rw [Station.emit]
  split
  · exact calm_write _
  · exact escapes.bind calm_write

/-- The spaceless policy is used to remove blanks. -/
theorem calm_removeSpace (text : String) : Calm (removeSpace text) := by
  refine fun world => ⟨.removeSpace world.context text, ?_, rfl⟩
  show (world.context.removeSpace text).2.2.outputDirectory = _
  unfold Context.removeSpace
  split <;> rfl

end Run

end Stencil
