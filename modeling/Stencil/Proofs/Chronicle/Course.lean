import Stencil.Proofs.Chronicle
import Stencil.Proofs.Safety.Parts
import Stencil.Proofs.Shelf.Lending

/-!
# The course of a rendering

A chronicle is a course of events if each of them may happen where the earlier ones have
led: a statement is begun where the tags that are underway have led to its template, a tag
is gone through if not too many are, and the last of them is the first to be left. Between
events templates are put on the shelf, and none is taken off.
-/

namespace Stencil

/-- The template is the one that a rendering began with, or stands on the shelf. -/
def Catalogue.Knows (catalogue : Catalogue) (root handle : Handle) : Prop :=
  handle = root ∨ ∃ name, catalogue.shelved? name = some handle

/-- What stays as it is while a rendering goes on: the templates on the shelf and the
depth limit. -/
structure World.Holds (before after : World) : Prop where
  keeps : Catalogue.Keeps before.catalogue after.catalogue
  depthLimit : after.catalogue.depthLimit = before.catalogue.depthLimit

namespace World.Holds

variable {before middle after : World}

/-- All of it stays if the catalogue does. -/
theorem of_same (same : after.catalogue = before.catalogue) : before.Holds after :=
  ⟨fun _ _ there => same ▸ there, congrArg _ same⟩

/-- What stays twice stays. -/
theorem trans (first : before.Holds middle) (second : middle.Holds after) : before.Holds after :=
  ⟨first.keeps.trans second.keeps, second.depthLimit.trans first.depthLimit⟩

/-- A template that is known stays known. -/
theorem knows (holds : before.Holds after) {root handle : Handle}
    (known : before.catalogue.Knows root handle) : after.catalogue.Knows root handle :=
  known.imp_right fun ⟨name, there⟩ => ⟨name, holds.keeps name handle there⟩

end World.Holds

/-- The tag is one of those in its template that lead to others. -/
def Gate.Placed (gate : Gate) : Prop :=
  ∃ statement ∈ gate.handle.template.parts, statement.span? = some gate.span

/-- How often cycle tags were executed once a statement is begun. -/
def Stmt.turned (statement : Stmt) (station : Station) (turns : Turns) : Turns :=
  match statement with
  | .cycle number _ _ => turns.advance ⟨station.handle.serial, number⟩
  | _ => turns

/-- The event may happen in a world where some tags are underway, and leads to a world
where others are. -/
inductive Event.Happens (root : Handle) : List Gate → World → Event → List Gate → World → Prop where
  | begin {gates : List Gate} {world after : World} {station : Station} {statement : Stmt} :
      station.sites = gates.map Gate.site → world.catalogue.Knows root station.handle →
      statement ∈ station.template.parts → after.catalogue = world.catalogue →
      after.turns = statement.turned station world.turns →
      Happens root gates world (.began station statement world) gates after
  | enter {gates : List Gate} {world : World} {gate : Gate} {target : Handle} {name : String} :
      gates.length < world.catalogue.depthLimit → gate.Placed →
      world.catalogue.Knows root gate.handle → world.catalogue.shelved? name = some target →
      Happens root gates world (.entered gate target) (gates ++ [gate]) world
  | leave {gates : List Gate} {world : World} {gate : Gate} :
      Happens root (gates ++ [gate]) world (.left gate) gates world

/-- The events happen one after the other, from a world where some tags are underway to
one where others are. -/
inductive Course (root : Handle) : List Gate → World → List Event → List Gate → World → Prop where
  | still {gates : List Gate} {world : World} : Course root gates world [] gates world
  | quietly {gates reached : List Gate} {world middle after : World} {events : List Event} :
      world.Holds middle → middle.turns = world.turns →
      Course root gates middle events reached after → Course root gates world events reached after
  | eventfully {gates others reached : List Gate} {world middle after : World} {event : Event}
      {events : List Event} : event.Happens root gates world others middle →
      Course root others middle events reached after →
      Course root gates world (event :: events) reached after

namespace Course

variable {root : Handle} {gates others reached : List Gate} {world middle after : World}
  {events later : List Event}

/-- One course leads on where another has led. -/
theorem append (first : Course root gates world events others middle)
    (second : Course root others middle later reached after) :
    Course root gates world (events ++ later) reached after := by
  induction first with
  | still => exact second
  | quietly holds turns _ inductionHypothesis =>
    exact .quietly holds turns (inductionHypothesis second)
  | eventfully happens _ inductionHypothesis =>
    exact .eventfully happens (inductionHypothesis second)

/-- Something may change before a course, and after it, if no event has to tell of it. -/
theorem between {start final : World} (course : Course root gates world events reached after)
    (before : start.Holds world) (turns : world.turns = start.turns) (behind : after.Holds final)
    (turnsBehind : final.turns = after.turns) :
    Course root gates start events reached final := by
  have last : Course root reached after [] reached final := .quietly behind turnsBehind .still
  simpa using Course.quietly before turns (course.append last)

/-- Templates stay on the shelf, and the depth limit stays. -/
theorem holds (course : Course root gates world events reached after) : world.Holds after := by
  induction course with
  | still => exact .of_same rfl
  | quietly holds _ _ inductionHypothesis => exact holds.trans inductionHypothesis
  | eventfully happens _ inductionHypothesis =>
    refine World.Holds.trans ?_ inductionHypothesis
    cases happens with
    | begin _ _ _ same _ => exact .of_same same
    | enter => exact .of_same rfl
    | leave => exact .of_same rfl

end Course

/-- The halt tells of the tags that led to it, and is about no flaw of a template; unless
what happened is only that a text was not taken. -/
def Halt.Through (sites : List Site) : Halt → Prop
  | .fault struck => struck.cause ≠ .unwritten →
      struck.chain = sites ∧ struck.cause.kind ≠ .syntactic
  | .exhausted => True

/-- The halt tells of the tags that led to a template that does not compile or cannot be
read. -/
def Halt.Beyond (sites : List Site) : Halt → Prop
  | .fault struck => struck.chain = sites ∧
      (struck.cause.kind = .syntactic ∨ struck.cause.kind = .io)
  | .exhausted => False

/-- What comes out where some tags were underway and others are in the end: a value if they
are the same; or a halt that tells of those underway, and of the one that is barred. -/
def Outcome {α : Type} (gates reached : List Gate) (refused : Option Gate) :
    Except Halt α → Prop
  | .ok _ => reached = gates ∧ refused = none
  | .error halt => match refused with
    | none => halt.Through (reached.map Gate.site)
    | some gate => gate.Placed ∧ halt.Beyond ((reached ++ [gate]).map Gate.site)

/-- Performed in a world where some tags are underway, an account tells of a course of
events, and of a tag that is barred if there is one. -/
def Account.Proceeds {α : Type} (root : Handle) (gates : List Gate) (account : Account α)
    (world : World) : Prop :=
  ∃ told reached refused, account.events world = told ++ (refused.map Event.barred).toList ∧
    Course root gates world told reached (account.run world).2 ∧
    Outcome gates reached refused (account.run world).1

/-- A fault that tells of no tags is located at a station with those that led there. -/
theorem Station.chain_locate (station : Station) (span : Span) {fault : Fault}
    (unknown : fault.chain = []) : (station.locate span fault).chain = station.sites := by
  unfold Station.locate Fault.pointingAt
  split <;> simp [Fault.inTemplate, Fault.through, unknown]

/-- An action that counts no execution of a cycle tag, leaves the catalogue alone, and
halts with a fault only where it stands. -/
structure Run.Modest {α : Type} (sites : List Site) (action : Run α) : Prop where
  catalogue : ∀ world, (action world).2.catalogue = world.catalogue
  turns : ∀ world, (action world).2.turns = world.turns
  halts : ∀ world halt, (action world).1 = .error halt → halt.Through sites

namespace Run.Modest

variable {α β : Type} {sites : List Site}

/-- An action that never halts. -/
theorem of_ok {action : Run α} (catalogue : ∀ world, (action world).2.catalogue = world.catalogue)
    (turns : ∀ world, (action world).2.turns = world.turns)
    (ends : ∀ world, ∃ value, (action world).1 = .ok value) : Modest sites action := by
  refine ⟨catalogue, turns, fun world halt failed => ?_⟩
  obtain ⟨value, ended⟩ := ends world
  rw [ended] at failed
  cases failed

/-- A sequence of such actions is one. -/
theorem bind {action : Run α} {next : α → Run β} (first : Modest sites action)
    (onward : ∀ value, Modest sites (next value)) : Modest sites (action >>= next) := by
  have stays : ∀ world, ((action >>= next) world).2.catalogue = world.catalogue ∧
      ((action >>= next) world).2.turns = world.turns ∧
      ∀ halt, ((action >>= next) world).1 = .error halt → halt.Through sites := by
    intro world
    have catalogue := first.catalogue world
    have turns := first.turns world
    have halts := first.halts world
    rw [Run.bind_apply]
    rcases done : action world with ⟨halt | value, after⟩
    · rw [done] at catalogue turns halts
      refine ⟨catalogue, turns, ?_⟩
      rintro _ ⟨⟩
      exact halts halt rfl
    · rw [done] at catalogue turns
      exact ⟨((onward value).catalogue after).trans catalogue,
        ((onward value).turns after).trans turns, (onward value).halts after⟩
  exact ⟨fun world => (stays world).1, fun world => (stays world).2.1,
    fun world => (stays world).2.2⟩

/-- What needs the host's side only. -/
theorem hosted (action : Hosted α) : Modest sites (Run.hosted action) :=
  of_ok (fun _ => rfl) (fun _ => rfl) fun _ => ⟨_, rfl⟩

/-- Evaluating an expression. -/
theorem evaluate (expression : Expr) : Modest sites (Run.evaluate expression) :=
  of_ok (fun _ => rfl) (fun _ => rfl) fun _ => ⟨_, rfl⟩

/-- And writing its value out. -/
theorem evaluateText (expression : Expr) : Modest sites (Run.evaluateText expression) :=
  of_ok (fun _ => rfl) (fun _ => rfl) fun _ => ⟨_, rfl⟩

/-- Evaluating the expressions of bindings. -/
theorem scopeOf (bindings : List Binding) : Modest sites (Run.scopeOf bindings) := by
  have pairs : Modest sites (bindings.mapM fun binding =>
      return (binding.name, ← Run.evaluate binding.value) : Run (List (String × Value))) := by
    induction bindings with
    | nil => exact of_ok (fun _ => rfl) (fun _ => rfl) fun _ => ⟨_, rfl⟩
    | cons binding rest inductionHypothesis =>
      rw [List.mapM_cons]
      have first : Modest sites
          (do return (binding.name, ← Run.evaluate binding.value) : Run (String × Value)) :=
        of_ok (fun _ => rfl) (fun _ => rfl) fun _ => ⟨_, rfl⟩
      exact first.bind fun _ => inductionHypothesis.bind fun _ =>
        of_ok (fun _ => rfl) (fun _ => rfl) fun _ => ⟨_, rfl⟩
  exact pairs.bind fun _ => of_ok (fun _ => rfl) (fun _ => rfl) fun _ => ⟨_, rfl⟩

/-- Looking a name up. -/
theorem lookUp (name : String) : Modest sites (Run.lookUp name) :=
  of_ok (fun _ => rfl) (fun _ => rfl) fun _ => ⟨_, rfl⟩

/-- Writing a text: that it is not taken is not told of. -/
theorem write (text : String) : Modest sites (Run.write text) := by
  refine ⟨fun _ => rfl, fun _ => rfl, fun world halt failed => ?_⟩
  simp only [Run.write] at failed
  split at failed
  · cases failed
  · cases failed
    exact fun other => absurd rfl other

/-- Writing a value. -/
theorem emit (station : Station) (value : Value) : Modest sites (station.emit value) := by
  rw [Station.emit]
  split
  · exact write _
  · have escapes : Modest sites (Run.escape value.written) :=
      of_ok (fun _ => rfl) (fun _ => rfl) fun _ => ⟨_, rfl⟩
    exact escapes.bind fun text => write text

/-- Halting where a station stands, if it is not about a flaw. -/
theorem fail (station : Station) (span : Span) {cause : Cause} (other : cause.kind ≠ .syntactic) :
    Modest station.sites (Run.fail (station.locate span (.ofCause cause)) : Run α) := by
  refine ⟨fun _ => rfl, fun _ => rfl, fun _ halt failed => ?_⟩
  cases failed
  exact fun _ => ⟨station.chain_locate span rfl, by simpa using other⟩

/-- Writing a file. -/
theorem writeFile (station : Station) (span : Span) (path text : String) :
    Modest station.sites (station.writeFile span path text) := by
  have applied : ∀ world, (station.writeFile span path text world).2.catalogue = world.catalogue ∧
      (station.writeFile span path text world).2.turns = world.turns := by
    intro world
    obtain ⟨result, host, applied⟩ := station.writeFile_apply span path text world.host
    rw [applied world rfl]
    exact ⟨rfl, rfl⟩
  refine ⟨fun world => (applied world).1, fun world => (applied world).2, ?_⟩
  intro world halt failed
  rw [Station.writeFile, Run.get_apply] at failed
  rcases made : world.host.files.create path text.toUTF8 with ⟨cause | _, files⟩
  · rw [made] at failed
    have other : cause.kind ≠ .syntactic := by
      rw [Files.kind_of_create (congrArg Prod.fst made)]
      decide
    exact (fail station span other).halts { world with host := { world.host with files := files } }
      halt failed
  · rw [made] at failed
    cases failed

end Run.Modest

end Stencil
