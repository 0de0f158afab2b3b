import Stencil.Proofs.Chronicle.Course
import Stencil.Proofs.Chronicle.Openings
import Stencil.Proofs.Chronicle.Tellings
import Stencil.Proofs.Shelf.Lending

/-!
# The statement that is at fault

A rendering that halts with a fault halts in the course of many statements: those that are
begun and not over yet. At fault is the innermost of them, the one that halts although all
statements that are begun in its course come to an end. Every account of a halt tells of it, and
what the fault tells of the place is told of that statement.
-/

namespace Stencil

/-- The fault points at a place in the source of the template under a name. -/
structure Fault.PointsAt (fault : Fault) (name : Option String) (source : String) (place : Span) :
    Prop where
  template : fault.template = name
  line : fault.line = some (place.line source.toList)
  excerpt : fault.excerpt = some (source, place)

namespace Fault

/-- The tags that led to it do not change where a fault is. -/
theorem through_place (fault : Fault) (chain : List Site) :
    (fault.through chain).template = fault.template ∧ (fault.through chain).line = fault.line ∧
      (fault.through chain).excerpt = fault.excerpt := by
  unfold through
  split <;> exact ⟨rfl, rfl, rfl⟩

/-- Nor where it points at. -/
theorem PointsAt.through {fault : Fault} {name : Option String} {source : String} {place : Span}
    (points : fault.PointsAt name source place) (chain : List Site) :
    (fault.through chain).PointsAt name source place := by
  obtain ⟨template, line, excerpt⟩ := fault.through_place chain
  exact ⟨template.trans points.template, line.trans points.line, excerpt.trans points.excerpt⟩

end Fault

/-- A fault that points nowhere yet points, once it is located, at the tag. -/
theorem Station.pointsAt_locate (station : Station) (span : Span) {fault : Fault}
    (nowhere : fault.template = none) (plain : fault.excerpt = none) :
    (station.locate span fault).PointsAt station.template.name station.template.source span := by
  refine Fault.PointsAt.through ?_ station.sites
  unfold Fault.pointingAt Fault.inTemplate
  simp only [nowhere, plain]
  exact ⟨rfl, rfl, rfl⟩

namespace Moment

/-- The name of the template that the tag asks for. -/
def asks? (moment : Moment) : Option String :=
  match moment.statement with
  | .inherit target _ | .insert target _ _ => some (moment.world.valueOf target).1.written
  | .create target template _ =>
    some ((moment.world.valueOf target).2.valueOf template).1.written
  | _ => none

/-- What is found when the source of the template is looked for that the tag asks for. -/
def finds? (moment : Moment) : Option (String × Except Cause String) :=
  moment.asks?.bind fun asked =>
    let name := TemplateName.normal asked
    if (moment.world.catalogue.shelved? name).isSome then none
    else some (name, moment.world.catalogue.findSource moment.world.host.files name)

/-- The template that the tag asks for is there, but cannot be read for some cause. -/
def Unreadable (moment : Moment) (cause : Cause) : Prop :=
  ∃ name, moment.finds? = some (name, .error cause) ∧ cause.kind = .io

/-- The template that the tag asks for has a source, which is flawed. -/
def Flawed (moment : Moment) (name source : String) (flaw : Flaw) : Prop :=
  moment.finds? = some (name, .ok source) ∧
    Template.compile moment.world.catalogue.arity? (some name) source = .error flaw

/-- What a fault tells of its place, if a tag is at fault: it points at the tag in its template,
or at the flaw in the template that the tag asks for. If that cannot be read then only the line
of the tag is known. -/
inductive Indicts (moment : Moment) (span : Span) (fault : Fault) : Prop where
  | tag : ¬ moment.Unreadable fault.cause →
      fault.PointsAt moment.station.template.name moment.station.template.source span →
      Indicts moment span fault
  | flaw {name source : String} {flaw : Flaw} : moment.Flawed name source flaw →
      fault.cause = .malformed flaw.cause → fault.PointsAt (some name) source flaw.span →
      Indicts moment span fault
  | unread : moment.Unreadable fault.cause → fault.template = none →
      fault.line = some (moment.station.template.line span) → Indicts moment span fault

/-- Executed by itself from there, the statement that is begun at the moment comes to an end. -/
def Ends (moment : Moment) : Prop :=
  ∃ depth, (moment.statement.execute (expand depth) moment.station moment.world).1 = .ok ()

/-- The statement that is begun at the moment is at fault: executed by itself from there it
halts with the fault, and all statements that are begun in its course come to an end. -/
def AtFault (moment : Moment) (fault : Fault) : Prop :=
  ∃ depth,
    (moment.statement.execute (expand depth) moment.station moment.world).1 =
      .error (.fault fault) ∧
    ∀ inner : Moment, inner.event ∈ moment.inside depth → inner.Ends

/-- The statement is a tag that the fault leads to; unless what happened is only that a text was
not taken. -/
def Answers (moment : Moment) (fault : Fault) : Prop :=
  fault.cause = .unwritten ∨
    ∃ span, moment.statement.span? = some span ∧ moment.Indicts span fault

/-- The statement is at fault, and answers for it. -/
def Culprit (moment : Moment) (fault : Fault) : Prop :=
  moment.AtFault fault ∧ moment.Answers fault

end Moment

/-- All statements that the events tell of come to an end. -/
def Event.AllEnd (events : List Event) : Prop :=
  ∀ moment : Moment, moment.event ∈ events → moment.Ends

/-- So they do if all of the earlier ones and of the later ones do. -/
theorem Event.AllEnd.append {earlier later : List Event} (first : AllEnd earlier)
    (second : AllEnd later) : AllEnd (earlier ++ later) :=
  fun moment member => (List.mem_append.mp member).elim (first moment) (second moment)

namespace Account

variable {α β : Type} {own : Fault → Prop} {world : World}

/-- Performed in a world, an account that ends tells of nothing that does not end; one that
halts with a fault tells of the statement that is at fault, unless it is its own fault. -/
structure Traces (own : Fault → Prop) (account : Account α) (world : World) : Prop where
  ends : ∀ value, (account.run world).1 = .ok value → Event.AllEnd (account.events world)
  halts : ∀ fault, (account.run world).1 = .error (.fault fault) →
    (∃ moment : Moment, moment.event ∈ account.events world ∧ moment.Culprit fault) ∨
      own fault ∧ Event.AllEnd (account.events world)

namespace Traces

/-- An action of which nothing is told, and which halts with faults of its own only. -/
theorem silent {action : Run α}
    (halts : ∀ fault, (action world).1 = .error (.fault fault) → own fault) :
    (Account.silent action).Traces own world :=
  ⟨fun _ _ _ impossible => (nomatch impossible),
    fun fault failed => .inr ⟨halts fault failed, fun _ impossible => nomatch impossible⟩⟩

/-- One that never halts. -/
theorem certain {action : Run α} (ends : ∃ value, (action world).1 = .ok value) :
    (Account.silent action).Traces own world := by
  refine silent fun fault failed => ?_
  obtain ⟨value, ended⟩ := ends
  cases ended.symm.trans failed

/-- A sequence traces faults if its parts do. -/
theorem bind {first : Account α} {next : α → Account β} (begun : first.Traces own world)
    (onward : ∀ value after, first.run world = (.ok value, after) →
      (next value).Traces own after) : (first >>= next).Traces own world := by
  obtain ⟨ends, halts⟩ := begun
  rcases done : first.run world with ⟨halt | value, after⟩
  · rw [done] at ends halts
    refine ⟨fun result ended => ?_, ?_⟩
    · rw [run_bind, Run.bind_apply, done] at ended
      cases ended
    · rw [run_bind, Run.bind_apply, events_bind, done, List.append_nil]
      rintro fault ⟨⟩
      exact halts fault rfl
  · rw [done] at ends
    obtain ⟨endsLater, haltsLater⟩ := onward value after done
    constructor
    all_goals rw [run_bind, Run.bind_apply, events_bind, done]
    · exact fun result ended => (ends value rfl).append (endsLater result ended)
    · intro fault failed
      rcases haltsLater fault failed with ⟨moment, told, culprit⟩ | ⟨isOwn, all⟩
      · exact .inl ⟨moment, List.mem_append_right _ told, culprit⟩
      · exact .inr ⟨isOwn, (ends value rfl).append all⟩

/-- A sequence traces faults if it does from where an action of which nothing is told has led. -/
theorem after {action : Run α} {value : α} {reached : World} {next : α → Account β}
    (performed : action world = (.ok value, reached)) (onward : (next value).Traces own reached) :
    (Account.silent action >>= next).Traces own world := by
  refine bind (certain ⟨value, by rw [performed]⟩) fun found left done => ?_
  have same : (Except.ok value, reached) = ((.ok found, left) : Except Halt α × World) :=
    performed.symm.trans done
  cases same
  exact onward

/-- So it is where the text of an expression was evaluated. -/
theorem evaluateText (expression : Expr) {next : String → Account α}
    (onward : (next (world.valueOf expression).1.written).Traces own (world.valueOf expression).2) :
    (Account.silent (Run.evaluateText expression) >>= next).Traces own world := by
  have performed : Run.evaluateText expression world =
      (.ok (world.valueOf expression).1.written, (world.valueOf expression).2) := rfl
  exact after performed onward

/-- So does a change for a time, which ends and halts as the account inside of it. -/
theorem inside {account : Account α} {enter : World → World} {change : Run α → Run β}
    (inner : account.Traces own (enter world))
    (same : (change account.run world).1.map (fun _ => ()) =
      (account.run (enter world)).1.map fun _ => ()) :
    (account.inside enter change).Traces own world := by
  obtain ⟨ends, halts⟩ := inner
  constructor
  · intro value ended
    rw [show (account.inside enter change).run = change account.run from rfl] at ended
    rw [ended] at same
    cases done : (account.run (enter world)).1 with
    | ok value => exact ends value done
    | error halt =>
      rw [done] at same
      cases same
  · intro fault failed
    rw [show (account.inside enter change).run = change account.run from rfl] at failed
    rw [failed] at same
    cases done : (account.run (enter world)).1 with
    | ok value =>
      rw [done] at same
      cases same
    | error halt =>
      rw [done] at same
      cases same
      exact halts fault done

/-- So does what a tag leads to. -/
theorem through {account : Account α} (gate : Gate) (target : Handle)
    (inner : account.Traces own world) : (account.through gate target).Traces own world := by
  obtain ⟨ends, halts⟩ := inner
  have only : ∀ moment : Moment, moment.event ∈ (account.through gate target).events world ↔
      moment.event ∈ account.events world := fun moment => mem_events_through
  constructor
  · exact fun value ended moment told => ends value ended moment ((only moment).mp told)
  · intro fault failed
    rcases halts fault failed with ⟨moment, told, culprit⟩ | ⟨isOwn, all⟩
    · exact .inl ⟨moment, (only moment).mpr told, culprit⟩
    · exact .inr ⟨isOwn, fun moment told => all moment ((only moment).mp told)⟩

/-- More faults may be its own. -/
theorem weaken {account : Account α} {more : Fault → Prop} (traces : account.Traces own world)
    (among : ∀ fault, own fault → more fault) : account.Traces more world :=
  ⟨traces.ends, fun fault failed =>
    (traces.halts fault failed).imp_right fun ⟨isOwn, all⟩ => ⟨among fault isOwn, all⟩⟩

/-- So does an account whose text is caught. -/
theorem capture {account : Account Unit}
    (inner : account.Traces own { world with sink := .buffer "" }) :
    account.capture.Traces own world := by
  refine inner.inside ?_
  simp only [Run.capture]
  rcases account.run { world with sink := .buffer "" } with ⟨result, after⟩
  cases result <;> rfl

/-- A statement is at fault if the account of it does not tell of another one that is, and then
it has to answer for the fault. -/
theorem begins {statement : Stmt} {station : Station} {depth : Nat} {account : Account Unit}
    (isAccount : statement.executeTold (expandTold depth) station =
      beginning station statement account)
    (traces : account.Traces (Moment.Answers ⟨station, statement, world⟩) world) :
    (statement.executeTold (expandTold depth) station).Traces own world := by
  let moment : Moment := ⟨station, statement, world⟩
  have events : account.events world = moment.inside depth := by
    unfold Moment.inside
    rw [isAccount]
    rfl
  have run : account.run = statement.execute (expand depth) station := by
    rw [← statement.run_executeTold (run_expandTold depth) station, isAccount]
    rfl
  have told : (statement.executeTold (expandTold depth) station).events world =
      moment.event :: moment.inside depth := moment.events_executeTold depth
  obtain ⟨ends, halts⟩ := traces
  rw [run, events] at halts
  rw [run, events] at ends
  constructor
  all_goals rw [statement.run_executeTold (run_expandTold depth) station, told]
  · intro value ended other member
    rcases List.mem_cons.mp member with same | inside
    · rw [Moment.event_injective same]
      exact ⟨depth, ended⟩
    · exact ends value ended other inside
  · -- Without a culprit inside, the halting account is innermost: the statement is at fault.
    intro fault failed
    rcases halts fault failed with ⟨other, inside, culprit⟩ | ⟨answers, all⟩
    · exact .inl ⟨other, List.mem_cons_of_mem _ inside, culprit⟩
    · exact .inl ⟨moment, List.mem_cons_self, ⟨depth, failed, all⟩, answers⟩

end Traces

end Account

end Stencil
