import Stencil.Proofs.Discipline
import Stencil.Proofs.Logic.Statements
import Stencil.Rendering

/-!
# Dealings with the catalogue

Most of what a rendering does has nothing to do with the catalogue: it reads which
filters there are and how deep tags may lead, and no more. Only a tag that asks for a
template deals with sources and with the shelf. So what such visits have in common, and
sequences and changes for a time pass on, all renderings have in common.
-/

namespace Stencil

/-- The world with another catalogue. -/
def World.withCatalogue (world : World) (catalogue : Catalogue) : World :=
  { world with catalogue := catalogue }

namespace Run

variable {α β : Type}

/-- An action that leaves the catalogue alone, and reads nothing of it but the filters and
the depth limit. -/
def Aloof (action : Run α) : Prop :=
  ∀ (world : World) (catalogue : Catalogue), catalogue.filters = world.catalogue.filters →
    catalogue.depthLimit = world.catalogue.depthLimit →
    action (world.withCatalogue catalogue) =
      ((action world).1, (action world).2.withCatalogue catalogue)

/-- It leaves the catalogue as it is. -/
theorem Aloof.catalogue_eq {action : Run α} (aloof : Aloof action) (world : World) :
    (action world).2.catalogue = world.catalogue := by
  have same : action world =
      ((action world).1, (action world).2.withCatalogue world.catalogue) :=
    aloof world world.catalogue rfl rfl
  exact congrArg (·.2.catalogue) same

/-- So does a sequence whose parts do. -/
theorem Aloof.bind {action : Run α} {next : α → Run β} (first : Aloof action)
    (onward : ∀ value, Aloof (next value)) : Aloof (action >>= next) := by
  intro world catalogue filters depths
  have kept : (action world).2.catalogue = world.catalogue := first.catalogue_eq world
  rw [bind_apply, bind_apply, first world catalogue filters depths]
  rcases done : action world with ⟨found | value, after⟩
  · rfl
  · rw [done] at kept
    exact onward value after catalogue (filters.trans (congrArg _ kept.symm))
      (depths.trans (congrArg _ kept.symm))

/-- Expressions are evaluated with the filters there are. -/
theorem aloof_evaluate (expression : Expr) : Aloof (Run.evaluate expression) := by
  intro world catalogue filters _
  simp only [Run.evaluate, Run.hosted, World.withCatalogue, filters]

/-- Values are written without the catalogue. -/
theorem aloof_emit (station : Station) (value : Value) : Aloof (station.emit value) := by
  have writes : ∀ text, Aloof (Run.write text) := fun _ _ _ _ _ => rfl
  rw [Station.emit]
  split
  · exact writes _
  · have escapes : Aloof (Run.escape value.written) := fun _ _ _ _ => rfl
    exact escapes.bind writes

/-- So are files. -/
theorem aloof_writeFile (station : Station) (span : Span) (path text : String) :
    Aloof (station.writeFile span path text) := by
  intro world catalogue _ _
  obtain ⟨result, host, applied⟩ := station.writeFile_apply span path text world.host
  rw [applied world rfl, applied (world.withCatalogue catalogue) rfl]
  rfl

/-- A change of the world for a time that has nothing to do with the catalogue, nor with
the files. -/
structure Bracket (enter : World → World) (leave : World → World → World) : Prop where
  enter_withCatalogue : ∀ world catalogue,
    enter (world.withCatalogue catalogue) = (enter world).withCatalogue catalogue
  leave_withCatalogue : ∀ world after catalogue other,
    leave (world.withCatalogue other) (after.withCatalogue catalogue) =
      (leave world after).withCatalogue catalogue
  files_leave : ∀ world after, (leave world after).host.files = after.host.files

namespace Bracket

variable {enter : World → World} {leave : World → World → World}

/-- The catalogue stays as it is when the change begins. -/
theorem catalogue_enter (bracket : Bracket enter leave) (world : World) :
    (enter world).catalogue = world.catalogue :=
  congrArg World.toWorkshop (bracket.enter_withCatalogue world world.catalogue) ▸ rfl

/-- And when it ends. -/
theorem catalogue_leave (bracket : Bracket enter leave) (world after : World) :
    (leave world after).catalogue = after.catalogue :=
  congrArg World.toWorkshop
    (bracket.leave_withCatalogue world after after.catalogue world.catalogue) ▸ rfl

end Bracket

/-- The text that was written to the sink. -/
def written : Run String := fun world => (.ok world.sink.text, world)

/-- A text is caught by writing to a buffer for a time, and reading it. -/
theorem capture_eq (action : Run Unit) :
    capture action = fun world =>
      (((action >>= fun _ => written) (Discipline.emptied world)).1,
        Discipline.resink world ((action >>= fun _ => written) (Discipline.emptied world)).2) := by
  funext world
  simp only [capture, bind_apply, Discipline.emptied, Discipline.resink]
  rcases action { world with sink := .buffer "" } with ⟨result, after⟩
  cases result <;> rfl

end Run

/-- The action can come to the value. -/
def Run.Yields {α : Type} (action : Run α) (value : α) : Prop :=
  ∃ world, (action world).1 = .ok value

/-- Something that holds of all that has nothing to do with the catalogue and of visits to
other templates, and that sequences and changes for a time pass on. -/
structure Dealing (holds : ∀ {α : Type}, Run α → Prop) : Prop where
  aloof : ∀ {α : Type} {action : Run α}, action.Aloof → holds action
  bind : ∀ {α β : Type} {action : Run α} {next : α → Run β}, holds action →
    (∀ value, action.Yields value → holds (next value)) → holds (action >>= next)
  bracket : ∀ {α : Type} {action : Run α} (enter : World → World)
    (leave : World → World → World), Run.Bracket enter leave → holds action →
    holds (fun world => ((action (enter world)).1, leave world (action (enter world)).2) : Run α)
  visit : ∀ {station : Station} {body : Handle → Station → Run Unit} (span : Span)
    (name : String), (∀ handle entered, holds (body handle entered)) →
    holds (station.load span name >>= fun handle =>
      Run.releasing handle (station.enter span >>= body handle))

namespace Dealing

variable {holds : ∀ {α : Type}, Run α → Prop} (dealing : Dealing holds)

/-- The logic of single actions that what is said holds of. Nothing is expected of
statements, values and goals. -/
def logic (holds : ∀ {α : Type}, Run α → Prop) : Logic Unit where
  keeps _ isGood action _ := holds action ∧ ∀ value, action.Yields value → isGood value
  admits _ _ _ := True
  asks _ _ _ := True
  good _ _ := True
  bindable _ _ := True
  legible _ _ := True
  opens _ _ := True
  catches _ _ := True
  files _ _ := True
  arrives _ _ _ _ _ := True

/-- It expects nothing indeed. -/
theorem indifferent : (logic holds).Indifferent := by
  refine ⟨⟨?_, ?_, ?_⟩, ?_, ?_⟩ <;> intros <;> trivial

include dealing

/-- What holds of an action holds of catching its text. -/
theorem capture {action : Run Unit} (inside : holds action) : holds (Run.capture action) := by
  rw [Run.capture_eq]
  refine dealing.bracket Discipline.emptied Discipline.resink
    ⟨fun _ _ => rfl, fun _ _ _ _ => rfl, fun _ _ => rfl⟩ ?_
  exact dealing.bind inside fun _ _ => dealing.aloof fun _ _ _ _ => rfl

/-- And of performing it under a policy. -/
theorem underPolicy {α : Type} {action : Run α} (extension : String) (inside : holds action) :
    holds (Run.underPolicy extension action) :=
  dealing.bracket (fun world => { world with context := world.context.select extension })
    (fun world after =>
      { after with context := { after.context with active := world.context.active } })
    ⟨fun _ _ => rfl, fun _ _ _ _ => rfl, fun _ _ => rfl⟩ inside

/-- And in a scope. -/
theorem inScope {α : Type} {action : Run α} (scope : Named Value) (inside : holds action) :
    holds (Run.inScope scope action) :=
  dealing.bracket (fun world => { world with context := world.context.push scope })
    (fun _ after => { after with context := after.context.pop })
    ⟨fun _ _ => rfl, fun _ _ _ _ => rfl, fun _ _ => rfl⟩ inside

/-- And with tabbing switched on. -/
theorem tabbed {α : Type} {action : Run α} (inside : holds action) : holds (Run.tabbed action) :=
  dealing.bracket (Run.switchTabbing true) (fun _ after => Run.switchTabbing false after)
    ⟨fun _ _ => rfl, fun _ _ _ _ => rfl, fun _ _ => rfl⟩ inside

/-- The logic is sound. -/
theorem sound : (logic holds).Sound where
  pure value isGood := by
    refine ⟨dealing.aloof fun _ _ _ _ => rfl, ?_⟩
    rintro found ⟨world, same⟩
    exact Except.ok.inj same ▸ isGood
  bind first onward := by
    refine ⟨dealing.bind first.1 fun value yields => (onward value (first.2 value yields)).1, ?_⟩
    rintro found ⟨world, same⟩
    rw [Run.bind_apply] at same
    split at same
    · rename_i value after done
      exact (onward value (first.2 value ⟨world, by rw [done]⟩)).2 found ⟨after, same⟩
    · cases same
  toExpectant := indifferent.expectant
  toScrupulous := indifferent.scrupulous
  evaluate _ _ := ⟨dealing.aloof (Run.aloof_evaluate _), fun _ _ => trivial⟩
  pattern _ := ⟨dealing.bind (dealing.aloof (Run.aloof_evaluate _)) fun _ _ =>
      dealing.aloof fun _ _ _ _ => rfl,
    fun _ _ _ _ => trivial⟩
  record _ _ := ⟨dealing.aloof fun _ _ _ _ => rfl, fun _ _ => trivial⟩
  enclosing := ⟨dealing.aloof fun _ _ _ _ => rfl, fun _ _ _ _ => trivial⟩
  emit _ _ := ⟨dealing.aloof (Run.aloof_emit _ _), fun _ _ => trivial⟩
  write _ := ⟨dealing.aloof fun _ _ _ _ => rfl, fun _ _ => trivial⟩
  removeSpace _ := ⟨dealing.aloof fun _ _ _ _ => rfl, fun _ _ => trivial⟩
  assign _ _ := ⟨dealing.aloof fun _ _ _ _ => rfl, fun _ _ => trivial⟩
  turn _ := ⟨dealing.aloof fun _ _ _ _ => rfl, fun _ _ => trivial⟩
  note _ := ⟨dealing.aloof fun _ _ _ _ => rfl, fun _ _ => trivial⟩
  directory := ⟨dealing.aloof fun _ _ _ _ => rfl, fun _ _ => trivial⟩
  noDirectory _ _ _ := ⟨dealing.aloof fun _ _ _ _ => rfl, fun _ _ => trivial⟩
  writeFile span path text _ :=
    ⟨dealing.aloof (Run.aloof_writeFile _ span path text), fun _ _ => trivial⟩
  scope scope _ inside := ⟨dealing.inScope scope (inside () trivial).1, fun _ _ => trivial⟩
  capture inside := ⟨dealing.capture (inside () trivial).1, fun _ _ => trivial⟩
  mute _ inside := ⟨dealing.capture (inside () fun _ _ => trivial).1, fun _ _ => trivial⟩
  tabbed _ _ inside := ⟨dealing.tabbed (inside () fun _ _ => trivial).1, fun _ _ => trivial⟩
  file extension inside :=
    ⟨dealing.underPolicy extension (dealing.capture (inside () trivial).1), fun _ _ => trivial⟩
  visit span name _ inside :=
    ⟨dealing.visit span name fun handle entered => (inside () handle entered trivial).1,
      fun _ _ => trivial⟩

/-- What is said holds of every goal that is expanded. -/
theorem expand (depth : Nat) (station : Station) (goal : Goal) :
    holds (Stencil.expand depth station goal) := by
  have children : ∀ node : Value, holds node.children := by
    intro node
    unfold Value.children
    split <;> exact dealing.aloof fun _ _ _ _ => rfl
  have follows := dealing.sound.follows_expand
    (fun _ => ⟨dealing.aloof fun _ _ _ _ => rfl, fun _ _ => trivial⟩)
    (fun _ _ goal _ => indifferent.provides goal
      fun good node => ⟨children node, fun value _ => good value⟩) depth
  exact (follows () station goal trivial).1

end Dealing

end Stencil
