import Stencil.Proofs.Chronicle.Tellings
import Stencil.Proofs.Calm

/-!
# The moments of a rendering

A chronicle tells at which moments statements are begun. One moment lies within another
if the chronicle of that other statement, executed by itself from there, tells of it. What
an account does to a world and what it tells meanwhile may have a tenor. A tenor that is
kept by sequences, and by what changes little, is kept by all that statements are made of:
loops, scopes, texts that are caught, tags that lead to a template.
-/

namespace Stencil

/-- A moment of a rendering: a statement is begun where the rendering stands, in a world. -/
structure Moment where
  station : Station
  statement : Stmt
  world : World

namespace Moment

/-- What a chronicle tells of the moment. -/
def event (moment : Moment) : Event := .began moment.station moment.statement moment.world

/-- What is told of the statement after it is begun, if goals are expanded to a depth. -/
def inside (moment : Moment) (depth : Nat) : List Event :=
  ((moment.statement.executeTold (expandTold depth) moment.station).events moment.world).tail

/-- The moment lies in the course of the statement that is begun at another one. -/
def Within (inner outer : Moment) : Prop := ∃ depth, inner.event ∈ outer.inside depth

/-- The moment is told of by its event only. -/
theorem event_injective : Function.Injective event := by
  rintro ⟨station, statement, world⟩ ⟨other, following, later⟩ same
  cases same
  rfl

/-- Of a statement it is told first that it is begun. -/
theorem events_executeTold (moment : Moment) (depth : Nat) :
    (moment.statement.executeTold (expandTold depth) moment.station).events moment.world =
      moment.event :: moment.inside depth := by
  obtain ⟨station, statement, world⟩ := moment
  cases statement <;> rfl

end Moment

/-- A tenor of accounts: something about the world before, the world after and what is told
meanwhile, with the stations where it is kept. -/
structure Tenor (Circumstance : Type) where
  keeps : Circumstance → World → World → List Event → Prop
  admits : Circumstance → Station → Prop

namespace Tenor

variable {Circumstance : Type} (tenor : Tenor Circumstance) {α β : Type}

/-- Performed in any world, the account keeps the tenor. -/
def Keeps (circumstance : Circumstance) (account : Account α) : Prop :=
  ∀ world, tenor.keeps circumstance world (account.run world).2 (account.events world)

/-- The tenor is kept where little changes, by sequences, and by events other than that a
statement is begun. -/
structure Even : Prop where
  calm : ∀ {circumstance world after}, World.Calm world after →
    tenor.keeps circumstance world after []
  trans : ∀ {circumstance world middle after earlier later},
    tenor.keeps circumstance world middle earlier → tenor.keeps circumstance middle after later →
    tenor.keeps circumstance world after (earlier ++ later)
  aside : ∀ {circumstance world event}, (∀ moment : Moment, event ≠ moment.event) →
    tenor.keeps circumstance world world [event]

variable {tenor} {circumstance : Circumstance}

namespace Keeps

section Sequences

variable (even : tenor.Even)
include even

/-- An action of which nothing is told, and that changes little. -/
theorem calm {action : Run α} (calm : Run.Calm action) :
    tenor.Keeps circumstance (Account.silent action) :=
  fun world => even.calm (calm world)

/-- A value by itself. -/
theorem pure (value : α) : tenor.Keeps circumstance (Pure.pure value : Account α) :=
  calm even (.pure value)

/-- A sequence, if its parts do. -/
theorem bind {first : Account α} {next : α → Account β}
    (begun : tenor.Keeps circumstance first)
    (onward : ∀ world value after, first.run world = (.ok value, after) →
      tenor.Keeps circumstance (next value)) :
    tenor.Keeps circumstance (first >>= next) := by
  intro world
  have earlier := begun world
  rw [Account.run_bind, Run.bind_apply, Account.events_bind]
  rcases done : first.run world with ⟨halt | value, after⟩
  · rw [done] at earlier
    simpa only [List.append_nil] using earlier
  · rw [done] at earlier
    exact even.trans earlier (onward world value after done after)

/-- A change for a time that changes little. -/
theorem inside {account : Account α} {enter : World → World} {change : Run α → Run β}
    (keeps : tenor.Keeps circumstance account)
    (entering : ∀ world, World.Calm world (enter world))
    (leaving : ∀ world, World.Calm (account.run (enter world)).2 (change account.run world).2) :
    tenor.Keeps circumstance (account.inside enter change) := by
  intro world
  have all := even.trans (even.calm (entering world))
    (even.trans (keeps (enter world)) (even.calm (leaving world)))
  simp only [List.nil_append, List.append_nil] at all
  exact all

/-- A scope does not change what is kept. -/
theorem inScope {account : Account α} (scope : Named Value)
    (keeps : tenor.Keeps circumstance account) :
    tenor.Keeps circumstance (account.inScope scope) := by
  have popped : ∀ world : World, World.Calm world { world with context := world.context.pop } := by
    intro world
    have same : world.context.pop.active = world.context.active ∧
        world.context.pop.escapers = world.context.escapers ∧
        world.context.pop.outputDirectory = world.context.outputDirectory := by
      unfold Context.pop
      split <;> exact ⟨rfl, rfl, rfl⟩
    exact .of_same same.1 same.2.1 same.2.2 rfl
  exact keeps.inside even (fun _ => .of_same rfl rfl rfl rfl) fun _ => popped _

/-- Nor does it that a text is caught. -/
theorem capture {account : Account Unit} (keeps : tenor.Keeps circumstance account) :
    tenor.Keeps circumstance account.capture :=
  keeps.inside even (fun _ => .of_same rfl rfl rfl rfl) fun _ => .of_same rfl rfl rfl rfl

/-- Nor that a handle is given back. -/
theorem releasing {account : Account α} (handle : Handle)
    (keeps : tenor.Keeps circumstance account) :
    tenor.Keeps circumstance (account.releasing handle) :=
  keeps.inside even (fun _ => .of_same rfl rfl rfl rfl) fun _ => .of_same rfl rfl rfl rfl

/-- Nor that a tag is told to be gone through and left. -/
theorem through {account : Account α} (gate : Gate) (target : Handle)
    (keeps : tenor.Keeps circumstance account) :
    tenor.Keeps circumstance (account.through gate target) := by
  intro world
  have entered : tenor.keeps circumstance world world [.entered gate target] :=
    even.aside fun _ same => by cases same
  rw [Account.events_through]
  refine even.trans (even.trans entered (keeps world)) ?_
  show tenor.keeps circumstance (account.run world).2 (account.run world).2 _
  split
  · exact even.aside fun _ same => by cases same
  · exact even.calm (.of_same rfl rfl rfl rfl)

/-- An expression. -/
theorem evaluate (expression : Expr) :
    tenor.Keeps circumstance (Account.silent (Run.evaluate expression)) :=
  calm even (Run.calm_evaluate expression)

/-- The text of an expression. -/
theorem evaluateText (expression : Expr) :
    tenor.Keeps circumstance (Account.silent (Run.evaluateText expression)) :=
  calm even (Run.calm_evaluateText expression)

/-- What is told to the body of a loop. -/
theorem record (entries : List (String × Value)) : tenor.Keeps circumstance
    (Account.silent (Run.hosted (Host.fresh (Value.newRecord entries)))) :=
  calm even (Run.calm_hosted (Hosted.sparesFiles_fresh _))

/-- The loop that lies around. -/
theorem enclosing : tenor.Keeps circumstance (Account.silent (Run.lookUp "forloop")) :=
  calm even (.of_context (fun _ => rfl) fun _ => rfl)

/-- The children of a node. -/
theorem children (node : Value) : tenor.Keeps circumstance (Account.silent node.children) := by
  unfold Value.children
  split
  · exact calm even (Run.calm_hosted (Hosted.sparesFiles_invoked _))
  · exact pure even _

/-- So loops pass it on that the tenor is kept. -/
theorem telling : Telling fun account => tenor.Keeps circumstance account where
  pure := pure even
  bind := fun begun onward => begun.bind even fun _ value _ _ => onward value
  inScope := fun scope keeps => keeps.inScope even scope
  capture := fun keeps => keeps.capture even
  write := fun text => calm even (Run.calm_write text)
  record := record even
  enclosing := enclosing even
  children := children even

end Sequences

/-- A tag that leads to a template. -/
theorem visit (even : tenor.Even) {station : Station} {body : Handle → Station → Account Unit}
    (span : Span) (name : String)
    (keeps : ∀ handle,
      tenor.Keeps circumstance
        (body handle { station with sites := station.sites ++ [station.site span] })) :
    tenor.Keeps circumstance (do
      let handle ← station.loadTold span name
      Account.releasing handle do
        let inner ← Account.silent (station.enter span)
        body handle inner) := by
  have loads : tenor.Keeps circumstance (station.loadTold span name) := by
    intro world
    have calm : World.Calm world (station.load span name world).2 := by
      rw [Station.load_apply]
      split <;> exact .of_same rfl rfl rfl rfl
    show tenor.keeps circumstance world (station.load span name world).2
      ((station.loadTold span name).events world)
    unfold Station.loadTold
    dsimp only
    split
    · exact even.calm calm
    · split
      · exact even.calm calm
      · exact even.trans (even.aside fun _ same => by cases same) (even.calm calm)
  have enters : tenor.Keeps circumstance (Account.silent (station.enter span)) := by
    refine calm even (.of_context (fun world => ?_) fun world => ?_) <;> rw [Station.enter_apply]
  refine loads.bind even fun _ handle _ _ => Keeps.releasing even handle ?_
  refine enters.bind even fun world inner after done => ?_
  have arrived : station.enter span world = (.ok inner, after) := done
  rw [Station.enter_apply] at arrived
  split at arrived
  · cases arrived
    exact keeps handle
  · cases arrived

end Keeps

end Tenor

end Stencil
