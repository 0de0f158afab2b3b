import Stencil.Proofs.Chronicle.Culprits
import Stencil.Proofs.Chronicle.Cycling
import Stencil.Proofs.Chronicle.Emissions
import Stencil.Proofs.Chronicle.Depth
import Stencil.Proofs.Shelf.Ready

/-!
# The place that a fault tells of

A tag that leads to a template answers for three kinds of faults. There is no such template, it
goes too deep or its file is not written: then the fault points at the tag. The template is flawed:
then it points at the flaw. The template cannot be read: then it carries only the line of the tag.
All other statements pass on the faults of what they are made of. So each fault of a rendering
leads to a tag that is at fault, and all faults but the last kind name the template that they
point into.
-/

namespace Stencil

/-- What happened is only that a text was not taken. -/
def Fault.Untaken (fault : Fault) : Prop := fault.cause = .unwritten

/-- Performed in any world, the account traces faults, but for texts that are not taken. -/
def Account.Settles {α : Type} (account : Account α) : Prop :=
  ∀ world, account.Traces Fault.Untaken world

namespace Moment

variable {moment : Moment} {span : Span} {name : String}

/-- What is asked for is looked for where it does not stand on the shelf. -/
theorem finds_of_asks (asks : moment.asks? = some name)
    (missing : moment.world.catalogue.shelved? (TemplateName.normal name) = none) :
    moment.finds? = some (TemplateName.normal name,
      moment.world.catalogue.findSource moment.world.host.files (TemplateName.normal name)) := by
  simp [finds?, asks, missing]

/-- A cause that has nothing to do with files is not that a template cannot be read. -/
theorem not_unreadable_of_kind {cause : Cause} (other : cause.kind ≠ .io) :
    ¬ moment.Unreadable cause :=
  fun ⟨_, _, isIo⟩ => other isIo

/-- A template that is loaded can be read. -/
theorem not_unreadable_of_load {loaded : Loaded} {line : Option Nat}
    (asks : moment.asks? = some name)
    (found : moment.world.catalogue.load moment.world.host.files name line = .ok loaded)
    (cause : Cause) : ¬ moment.Unreadable cause := by
  rintro ⟨other, finds, -⟩
  unfold finds? at finds
  rw [asks, Option.bind_some] at finds
  dsimp only at finds
  rcases Catalogue.load_cases found with ⟨shelved, there, -⟩ | ⟨source, template, -, read, -⟩
  · rw [if_pos (by simp [Catalogue.shelved?, there])] at finds
    cases finds
  · split at finds
    · cases finds
    · rw [read] at finds
      cases finds

/-- The fault of a tag whose template is not loaded leads to the tag. -/
theorem indicts_of_load {fault : Fault} (asks : moment.asks? = some name)
    (failed : moment.world.catalogue.load moment.world.host.files name
      (some (moment.station.template.line span)) = .error fault) :
    moment.Indicts span (match fault.cause.kind with
      | .resolution => moment.station.locate span fault
      | _ => fault.through (moment.station.sites ++ [moment.station.site span])) := by
  obtain ⟨missing, found⟩ := Catalogue.load_error_cases failed
  have finds := finds_of_asks asks (by simp [Catalogue.shelved?, missing])
  rcases found with ⟨cause, unread, rfl⟩ | ⟨source, flaw, read, compiled, rfl⟩
  · rw [unread] at finds
    rw [Fault.cause_atLine, Fault.cause_ofCause]
    rcases Catalogue.kind_of_findSource unread with kind | kind
    · rw [kind]
      exact .tag (not_unreadable_of_kind (by simp [kind]))
        (moment.station.pointsAt_locate span rfl rfl)
    · rw [kind]
      let sites := moment.station.sites ++ [moment.station.site span]
      obtain ⟨template, line, -⟩ := Fault.through_place
        ((Fault.ofCause cause).atLine (some (moment.station.template.line span))) sites
      exact .unread ⟨_, by simpa using finds, by simpa using kind⟩ template line
  · rw [read] at finds
    have cause : ((Fault.ofFlaw source flaw).inTemplate (some (TemplateName.normal name))).cause =
        .malformed flaw.cause := rfl
    have points : ((Fault.ofFlaw source flaw).inTemplate (some (TemplateName.normal name))).PointsAt
        (some (TemplateName.normal name)) source flaw.span := ⟨rfl, rfl, rfl⟩
    have kind : (Cause.malformed flaw.cause).kind = .syntactic := rfl
    rw [cause, kind]
    exact .flaw ⟨finds, compiled⟩ (by rw [Fault.cause_through, cause]) (points.through _)

end Moment

namespace Station

open Account

variable {station : Station} {span : Span} {name : String} {own : Fault → Prop} {world : World}

/-- A tag that leads to a template traces faults, if it answers for those of loading and of
going too deep, and what it leads to traces the others. -/
theorem traces_visit {body : Handle → Station → Account Unit}
    (unloaded : ∀ fault,
      world.catalogue.load world.host.files name (some (station.template.line span)) =
          .error fault →
        own (match fault.cause.kind with
          | .resolution => station.locate span fault
          | _ => fault.through (station.sites ++ [station.site span])))
    (tooDeep : ∀ limit, own (station.locate span (.ofCause (.tooDeep limit))))
    (onward : ∀ loaded,
      world.catalogue.load world.host.files name (some (station.template.line span)) =
          .ok loaded → ∀ entered,
        (body loaded.handle { station with sites := station.sites ++ [station.site span] }).Traces
          own entered) :
    (do
      let handle ← station.loadTold span name
      releasing handle do
        let inner ← silent (station.enter span)
        body handle inner).Traces own world := by
  have nothing : Event.AllEnd ((station.loadTold span name).events world) :=
    fun moment told => absurd told (not_mem_loadTold moment)
  have run : (station.loadTold span name).run world = station.load span name world := rfl
  rw [load_apply] at run
  refine Traces.bind ⟨fun _ _ => nothing, fun fault failed => .inr ⟨?_, nothing⟩⟩ ?_
  · rw [run] at failed
    split at failed
    · cases failed
    · rename_i reason missing
      cases failed
      exact unloaded reason missing
  · intro handle after done
    rw [run] at done
    split at done
    · rename_i loaded found
      cases done
      have enters : ∀ {before inner entered}, station.enter span before = (.ok inner, entered) →
          (body loaded.handle inner).Traces own entered := by
        intro before inner entered arrived
        rw [enter_apply] at arrived
        split at arrived
        · cases arrived
          exact onward loaded found _
        · cases arrived
      refine Traces.inside ?_ rfl
      refine Traces.bind (Traces.silent fun fault failed => ?_) fun inner entered => enters
      rw [enter_apply] at failed
      split at failed
      · cases failed
      · cases failed
        exact tooDeep _
    · cases done

end Station

/-- A file that is not written is a fault of the tag. -/
theorem Station.of_writeFile_error {station : Station} {span : Span} {path text : String}
    {world : World} {fault : Fault}
    (failed : (station.writeFile span path text world).1 = .error (.fault fault)) :
    ∃ cause, fault = station.locate span (.ofCause cause) := by
  rw [writeFile, Run.get_apply] at failed
  rcases made : world.host.files.create path text.toUTF8 with ⟨cause | _, files⟩
  · rw [made] at failed
    cases failed
    exact ⟨cause, rfl⟩
  · rw [made] at failed
    cases failed

/-- The scope that bindings make is made whatever they are, with the same templates and files. -/
theorem Run.scopeOf_apply (bindings : List Binding) (world : World) : ∃ scope after,
    Run.scopeOf bindings world = (.ok scope, after) ∧ after.catalogue = world.catalogue ∧
      after.host.files = world.host.files := by
  have pairs : ∀ world, ∃ pairs after, (bindings.mapM fun binding =>
      (do return (binding.name, ← Run.evaluate binding.value) : Run (String × Value))) world =
        (.ok pairs, after) ∧ after.catalogue = world.catalogue ∧
          after.host.files = world.host.files := by
    induction bindings with
    | nil => exact fun world => ⟨[], world, rfl, rfl, rfl⟩
    | cons binding rest inductionHypothesis =>
      intro world
      obtain ⟨pairs, after, made, catalogue, files⟩ :=
        inductionHypothesis (world.valueOf binding.value).2
      refine ⟨(binding.name, (world.valueOf binding.value).1) :: pairs, after, ?_, catalogue,
        files.trans (World.files_valueOf world binding.value)⟩
      have first : (do return (binding.name, ← Run.evaluate binding.value) :
          Run (String × Value)) world =
            (.ok (binding.name, (world.valueOf binding.value).1),
              (world.valueOf binding.value).2) := rfl
      rw [List.mapM_cons, Run.bind_apply, first]
      simp only [Run.bind_apply, made]
      rfl
  obtain ⟨pairs, after, made, same⟩ := pairs world
  refine ⟨Named.ofPairs pairs, after, ?_, same⟩
  rw [scopeOf, Run.bind_apply, made]
  rfl

/-- All goals trace faults to a depth, but for texts that are not taken. -/
def Fault.Traced (depth : Nat) : Prop :=
  ∀ station goal, (expandTold depth station goal).Settles

namespace Moment

open Account

variable {span : Span} {name : String} {reached : World} {depth : Nat}

/-- A tag that leads to a template answers for its faults, wherever a world with the same
templates and files is reached. -/
theorem traces_visit (moment : Moment) {body : Handle → Station → Account Unit}
    (isTag : moment.statement.span? = some span) (asks : moment.asks? = some name)
    (catalogue : reached.catalogue = moment.world.catalogue)
    (files : reached.host.files = moment.world.host.files)
    (onward : ∀ handle, (∀ cause, ¬ moment.Unreadable cause) → ∀ entered,
      (body handle { moment.station with
        sites := moment.station.sites ++ [moment.station.site span] }).Traces
          moment.Answers entered) :
    (do
      let handle ← moment.station.loadTold span name
      releasing handle do
        let inner ← silent (moment.station.enter span)
        body handle inner).Traces moment.Answers reached := by
  refine moment.station.traces_visit ?_ (fun limit => ?_) ?_
  · rw [catalogue, files]
    exact fun fault failed => .inr ⟨span, isTag, indicts_of_load asks failed⟩
  · refine .inr ⟨span, isTag, .tag (not_unreadable_of_kind ?_)
      (moment.station.pointsAt_locate span rfl rfl)⟩
    rw [Station.cause_locate]
    simp [Cause.kind]
  · rw [catalogue, files]
    exact fun loaded found => onward loaded.handle (not_unreadable_of_load asks found)

variable (traced : Fault.Traced depth) (station : Station) (span : Span) (world : World)
include traced

/-- A tag that asks for a template to extend answers for its faults. -/
theorem traces_inheritTold (target : Expr) :
    (station.inheritTold (expandTold depth) target span).Traces
      (Answers ⟨station, .inherit target span, world⟩) world := by
  refine .evaluateText target ?_
  refine traces_visit ⟨station, .inherit target span, world⟩ rfl rfl rfl
    (World.files_valueOf world target) fun handle _ entered => ?_
  exact ((traced _ _ entered).weaken fun _ => .inl).through _ _

/-- So does one that asks for a template in its place. -/
theorem traces_insertTold (target : Expr) (bindings : List Binding) :
    (station.insertTold (expandTold depth) target bindings span).Traces
      (Answers ⟨station, .insert target bindings span, world⟩) world := by
  refine .evaluateText target ?_
  obtain ⟨scope, bound, made, catalogue, files⟩ :=
    Run.scopeOf_apply bindings (world.valueOf target).2
  refine .after made ?_
  refine traces_visit ⟨station, .insert target bindings span, world⟩ rfl rfl catalogue
    (files.trans (World.files_valueOf world target)) fun handle _ entered => ?_
  exact (Traces.inside ((traced _ _ _).weaken fun _ => .inl) rfl).through _ _

/-- So does one that asks for a file. -/
theorem traces_createTold (target template : Expr) :
    (station.createTold (expandTold depth) target template span).Traces
      (Answers ⟨station, .create target template span, world⟩) world := by
  let moment : Moment := ⟨station, .create target template span, world⟩
  have answers : ∀ {cause : Cause}, ¬ moment.Unreadable cause →
      moment.Answers (station.locate span (.ofCause cause)) := by
    intro cause readable
    refine .inr ⟨span, rfl, .tag ?_ (station.pointsAt_locate span rfl rfl)⟩
    rwa [Station.cause_locate]
  let named := (world.valueOf target).2.valueOf template
  have found : Run.directory named.2 = (.ok world.context.outputDirectory, named.2) := rfl
  refine .evaluateText target (.evaluateText template (.after found ?_))
  cases directory : world.context.outputDirectory with
  | none =>
    refine .silent fun fault failed => ?_
    cases failed
    exact answers (not_unreadable_of_kind (by simp [Cause.kind]))
  | some directory =>
    have files := (World.files_valueOf (world.valueOf target).2 template).trans
      (World.files_valueOf world target)
    refine moment.traces_visit rfl rfl rfl files fun handle readable entered => ?_
    have rendered : ∀ inner world, (expandTold depth inner .whole).capture.Traces
        moment.Answers world :=
      fun inner world => ((traced inner .whole _).weaken fun _ => .inl).capture
    -- The rendering is over before its text is written, so only the tag can be at fault then.
    refine .bind ((Traces.inside (rendered _ _) rfl).through _ _) fun text left _ =>
      .silent fun fault failed => ?_
    obtain ⟨cause, rfl⟩ := Station.of_writeFile_error failed
    exact answers (readable cause)

end Moment

namespace Account

variable {α β : Type}

namespace Settles

/-- A sequence does if its parts do. -/
theorem bind {first : Account α} {next : α → Account β} (begun : first.Settles)
    (onward : ∀ value, (next value).Settles) : (first >>= next).Settles :=
  fun world => (begun world).bind fun value after _ => onward value after

/-- What never halts does. -/
theorem certain {action : Run α} (ends : ∀ world, ∃ value, (action world).1 = .ok value) :
    (silent action).Settles :=
  fun world => .certain (ends world)

/-- A value does. -/
theorem pure (value : α) : (Pure.pure value : Account α).Settles :=
  certain fun _ => ⟨value, rfl⟩

/-- An account in a scope does. -/
theorem inScope {account : Account α} (settles : account.Settles) (scope : Named Value) :
    (account.inScope scope).Settles :=
  fun _ => (settles _).inside rfl

/-- One whose text is caught does. -/
theorem capture {account : Account Unit} (settles : account.Settles) : account.capture.Settles :=
  fun _ => (settles _).capture

/-- Only the text is not taken if it is not written. -/
theorem untaken_of_write {text : String} {world : World} {fault : Fault}
    (failed : (Run.write text world).1 = .error (.fault fault)) : fault.Untaken := by
  simp only [Run.write] at failed
  split at failed
  · cases failed
  · cases failed
    rfl

/-- Writing a text does. -/
theorem write (text : String) : (silent (Run.write text)).Settles :=
  fun _ => .silent fun _ => untaken_of_write

/-- So it is where the text is first made by what never halts. -/
theorem written {action : Run String} (ends : ∀ world, ∃ text, (action world).1 = .ok text) :
    (silent (action >>= Run.write)).Settles := by
  refine fun world => .silent fun fault failed => ?_
  obtain ⟨text, made⟩ := ends world
  rcases done : action world with ⟨result, after⟩
  rw [done] at made
  cases made
  rw [Run.bind_apply, done] at failed
  exact untaken_of_write failed

/-- So it is with a value. -/
theorem emit (station : Station) (value : Value) : (silent (station.emit value)).Settles := by
  rw [Station.emit]
  split
  · exact write value.written
  · exact written fun _ => ⟨_, rfl⟩

/-- An expression does. -/
theorem evaluate (expression : Expr) : (silent (Run.evaluate expression)).Settles :=
  certain fun _ => ⟨_, rfl⟩

/-- Its text does. -/
theorem evaluateText (expression : Expr) : (silent (Run.evaluateText expression)).Settles :=
  certain fun _ => ⟨_, rfl⟩

/-- The scope of bindings does. -/
theorem scopeOf (bindings : List Binding) : (silent (Run.scopeOf bindings)).Settles :=
  certain fun world =>
    let ⟨scope, _, made, _⟩ := Run.scopeOf_apply bindings world
    ⟨scope, by rw [made]⟩

/-- Loops pass it on. -/
theorem telling : Telling fun account => account.Settles where
  pure := pure
  bind := bind
  inScope := fun scope settles => settles.inScope scope
  capture := capture
  write := write
  record := fun _ => certain fun _ => ⟨_, rfl⟩
  enclosing := certain fun _ => ⟨_, rfl⟩
  children := fun node => certain fun world => by
    unfold Value.children
    cases node.field? "children" <;> exact ⟨_, rfl⟩

/-- A statement does if all that it does does. -/
theorem begins {statement : Stmt} {station : Station} {depth : Nat} {account : Account Unit}
    (isAccount : statement.executeTold (expandTold depth) station =
      beginning station statement account) (settles : account.Settles) :
    (statement.executeTold (expandTold depth) station).Settles :=
  fun world => .begins isAccount ((settles world).weaken fun _ => .inl)

end Settles

end Account

/-- So all statements and goals convey it that an account does. -/
theorem Fault.Traced.conveys {depth : Nat} (traced : Fault.Traced depth) :
    Narration.Conveys (expandTold depth) (fun account => account.Settles)
      (.ofStations (fun _ => True) id) where
  toTelling := Account.Settles.telling
  evaluate := Account.Settles.evaluate
  evaluateText := Account.Settles.evaluateText
  scopeOf := Account.Settles.scopeOf
  emit := Account.Settles.emit
  shorten := fun _ => .written fun _ => ⟨_, rfl⟩
  assign := fun _ _ => .certain fun _ => ⟨_, rfl⟩
  goal := fun _ => traced _ _
  begins := fun _ _ isAccount settles => .begins isAccount settles
  inherit := fun _ world => .begins rfl (Moment.traces_inheritTold traced _ _ world _)
  insert := fun _ world => .begins rfl (Moment.traces_insertTold traced _ _ world _ _)
  create := fun _ world => .begins rfl (Moment.traces_createTold traced _ _ world _ _)
  cycle := by
    intro station number first others _
    refine .begins rfl (.bind (.certain fun _ => ⟨_, rfl⟩) fun turn => ?_)
    exact (Account.Settles.evaluate _).bind fun found => .emit station found
  message := fun _ inside =>
    .begins rfl ((inside _ trivial).capture.bind fun text => .certain fun _ => ⟨_, rfl⟩)
  tabbing := by
    intro station body _ inside
    refine .begins rfl ?_
    simp only [Station.withinTold]
    split
    · exact inside station trivial
    · exact fun world => (inside _ trivial _).inside rfl

/-- All goals trace faults, however deep they lie inside one another. -/
theorem Fault.traced (depth : Nat) : Fault.Traced depth := by
  induction depth with
  | zero => exact fun station goal world => .silent fun fault failed => nomatch failed
  | succ depth inductionHypothesis =>
    exact fun station goal => inductionHypothesis.conveys.pursue trivial

/-- A rendering to a text that fails with a fault tells of a tag that is at fault, and the fault
leads to it. -/
theorem Workshop.culprit_of_render {shop : Workshop} {handle : Handle} {fault : Fault}
    (failed : (shop.render handle).1 = .error (.fault fault)) :
    ∃ (moment : Moment) (span : Span),
      moment.event ∈ shop.chronicle expansionLimit handle (.buffer "") ∧ moment.AtFault fault ∧
        moment.statement.span? = some span ∧ moment.Indicts span fault := by
  have taken := cause_of_render failed
  have traces := Fault.traced expansionLimit (.start handle) .whole
    { shop with turns := [], sink := .buffer "" }
  have halted : ((expandTold expansionLimit (.start handle) .whole).run
      { shop with turns := [], sink := .buffer "" }).1 = .error (.fault fault) := by
    rw [run_expandTold]
    exact renderInto_of_failed failed
  rcases traces.halts fault halted with ⟨moment, told, atFault, answers⟩ | ⟨untaken, _⟩
  · obtain ⟨span, isTag, indicts⟩ := answers.resolve_left taken
    exact ⟨moment, span, told, atFault, isTag, indicts⟩
  · exact absurd untaken taken

/-- A template in which a statement is begun stands on the shelf under its name when the rendering
is over, if the template that is rendered has a name. -/
theorem Workshop.shelved_of_begun {shop : Workshop} {handle : Handle}
    (ready : shop.catalogue.Ready handle) (named : handle.template.name.isSome = true)
    {limit : Nat} {sink : Sink} {moment : Moment}
    (told : moment.event ∈ shop.chronicle limit handle sink) :
    moment.statement ∈ moment.station.template.parts ∧
      ∃ name, moment.station.template.name = some name ∧
        (shop.renderInto limit handle sink).2.catalogue.shelved? name =
          some moment.station.handle := by
  obtain ⟨earlier, later, split⟩ := List.append_of_mem told
  obtain ⟨known, -⟩ := ready.knows_of_begun split
  refine ⟨(begun_in_chronicle split).2.1, ?_⟩
  rcases (ready_renderInto ready limit sink).shelved_of_knows known with there | ⟨isRoot, unnamed⟩
  · exact there
  · rw [isRoot] at unnamed
    rw [unnamed] at named
    cases named

/-- A fault that leads to a tag in a template with a name points at the tag there, or at the flaw in
the template that the tag asks for; unless that cannot be read. -/
theorem Moment.Indicts.place {moment : Moment} {span : Span} {fault : Fault}
    (indicts : moment.Indicts span fault) {name : String}
    (isName : moment.station.template.name = some name) :
    (¬ moment.Unreadable fault.cause →
      fault.PointsAt (some name) moment.station.template.source span ∨
        ∃ name source flaw, moment.Flawed name source flaw ∧
          fault.cause = .malformed flaw.cause ∧ fault.PointsAt (some name) source flaw.span) ∧
      (moment.Unreadable fault.cause → fault.template = none ∧
        fault.line = some (moment.station.template.line span)) := by
  cases indicts with
  | tag readable points =>
    exact ⟨fun _ => .inl (isName ▸ points), fun unreadable => absurd unreadable readable⟩
  | flaw flawed cause points =>
    refine ⟨fun _ => .inr ⟨_, _, _, flawed, cause, points⟩, fun unreadable => ?_⟩
    obtain ⟨_, _, isIo⟩ := unreadable
    rw [cause] at isIo
    cases isIo
  | unread unreadable template line =>
    exact ⟨fun readable => absurd unreadable readable, fun _ => ⟨template, line⟩⟩

namespace Session

/-- A template that is asked for by its name and is not obtained has a flaw in its source that the
fault points at, or the fault carries no line. -/
theorem fault_of_refused {session : Session} {name : String} {fault : Fault}
    (refused : session.obtain? (.name name none) = .error (.halted (.fault fault))) :
    fault.line = none ∨ ∃ source flaw,
      session.shop.catalogue.findSource session.shop.host.files (TemplateName.normal name) =
        .ok source ∧
      Template.compile session.shop.catalogue.arity? (some (TemplateName.normal name)) source =
        .error flaw ∧
      fault.cause = .malformed flaw.cause ∧
      fault.PointsAt (some (TemplateName.normal name)) source flaw.span := by
  unfold obtain? at refused
  dsimp only at refused
  split at refused
  · cases refused
  · rename_i reason failed
    cases refused
    obtain ⟨-, ⟨cause, -, rfl⟩ | ⟨source, flaw, read, compiled, rfl⟩⟩ :=
      Catalogue.load_error_cases failed
    · exact .inl rfl
    · exact .inr ⟨source, flaw, read, compiled, rfl, rfl, rfl, rfl⟩

/-- A fault names the place where it is, whatever a session was used for. A template that is
obtained by its name, and cannot be, has a flaw in its source that the fault points at, or the
fault carries no line. Let a rendering to a text fail of a template that the session offers under
a name. Then the chronicle tells of a tag that is at fault. Unless that tag asks for a template
that is there and cannot be read, the fault carries the name of a template and the line of a
place in its source, and points at the place: it is the tag, in the template that stands under
the name; or it is the flaw for which the source that is found under the name does not compile,
when the tag asks for it. If the template cannot be read then the fault carries the line of the
tag, and no name. -/
theorem faults_name_their_places (steps : List Step) :
    let session := (Session.empty.prepare steps).2
    (∀ name fault, session.obtain? (.name name none) = .error (.halted (.fault fault)) →
      fault.line = none ∨ ∃ source flaw,
        session.shop.catalogue.findSource session.shop.host.files (TemplateName.normal name) =
          .ok source ∧
        Template.compile session.shop.catalogue.arity? (some (TemplateName.normal name)) source =
          .error flaw ∧
        fault.cause = .malformed flaw.cause ∧
        fault.PointsAt (some (TemplateName.normal name)) source flaw.span) ∧
    ∀ (shop : Workshop) (handle : Handle) (fault : Fault),
      session.Offers handle shop.catalogue → handle.template.name.isSome = true →
      (shop.render handle).1 = .error (.fault fault) →
      ∃ (moment : Moment) (span : Span),
        moment.event ∈ shop.chronicle expansionLimit handle (.buffer "") ∧
        moment.AtFault fault ∧
        moment.statement ∈ moment.station.template.parts ∧ moment.statement.span? = some span ∧
        (¬ moment.Unreadable fault.cause → ∃ (name source : String) (place : Span),
          fault.PointsAt (some name) source place ∧
          ((source = moment.station.template.source ∧ place = span ∧
              (shop.render handle).2.catalogue.shelved? name = some moment.station.handle) ∨
            ∃ flaw, moment.Flawed name source flaw ∧ fault.cause = .malformed flaw.cause ∧
              place = flaw.span)) ∧
        (moment.Unreadable fault.cause → fault.template = none ∧
          fault.line = some (moment.station.template.line span)) := by
  intro session
  refine ⟨fun name fault => fault_of_refused, ?_⟩
  intro shop handle fault offers named failed
  have ready := ready_of_steps steps offers
  obtain ⟨moment, span, told, atFault, isTag, indicts⟩ := Workshop.culprit_of_render failed
  obtain ⟨isPart, name, isName, there⟩ := Workshop.shelved_of_begun ready named told
  obtain ⟨place, unread⟩ := indicts.place isName
  refine ⟨moment, span, told, atFault, isPart, isTag, fun readable => ?_, unread⟩
  rcases place readable with points | ⟨name, source, flaw, flawed, cause, points⟩
  · exact ⟨name, _, span, points, .inl ⟨rfl, rfl, there⟩⟩
  · exact ⟨name, source, flaw.span, points, .inr ⟨flaw, flawed, cause, rfl⟩⟩

/-- A page that includes a part, which includes a template that there is not. -/
def dangling : List Step := [
  .addTemplate "part" ("\n" ++ Source.tag "include 'missing'"),
  .addTemplate "page" (Source.tag "include 'part'")]

/-- What the rendering of the page of a session fails with: the name of the page, the cause, and
the template and the line that the fault names. -/
def faultOf (steps : List Step) :
    Option (Option String × Option (Cause × Option String × Option Nat)) :=
  (page? steps).map fun (handle, session) => (handle.template.name,
    match (session.shop.render handle).1 with
    | .error (.fault fault) => some (fault.cause, fault.template, fault.line)
    | _ => none)

/-- The fault names the part and the line of its tag there, which is at fault. -/
theorem dangling_named : ∃ (handle : Handle) (session : Session) (fault : Fault)
    (moment : Moment) (span : Span),
    (Session.empty.prepare dangling).2.obtain? (.name "page" none) = .ok (handle, session) ∧
      handle.template.name.isSome = true ∧
      (session.shop.render handle).1 = .error (.fault fault) ∧
      fault.template = some "part" ∧ fault.line = some 2 ∧ moment.AtFault fault ∧
      moment.statement.span? = some span ∧
      (session.shop.render handle).2.catalogue.shelved? "part" = some moment.station.handle ∧
      span.line moment.station.template.source.toList = 2 := by
  have circumstances : faultOf dangling =
      some (some "page", some (.unknownTemplate "missing", some "part", some 2)) := by
    decide +kernel
  obtain ⟨⟨handle, session⟩, given, same⟩ := Option.map_eq_some_iff.mp circumstances
  obtain ⟨isPage, failed⟩ := Prod.mk.inj same
  have obtained := obtained_of_page given
  split at failed
  · rename_i fault rendered
    obtain ⟨cause, template, line⟩ : fault.cause = .unknownTemplate "missing" ∧
        fault.template = some "part" ∧ fault.line = some 2 := by simpa using failed
    have named : handle.template.name.isSome = true := by rw [show _ = _ from isPage]; rfl
    obtain ⟨moment, span, -, atFault, -, isTag, places, -⟩ :=
      (faults_name_their_places dangling).2 session.shop handle fault (.obtained obtained) named
        rendered
    have readable : ¬ moment.Unreadable fault.cause :=
      Moment.not_unreadable_of_kind (by simp [cause, Cause.kind])
    obtain ⟨name, source, place, points, isTagOrFlaw⟩ := places readable
    rcases isTagOrFlaw with ⟨rfl, rfl, there⟩ | ⟨flaw, -, isFlaw, -⟩
    · obtain rfl := Option.some.inj (points.template.symm.trans template)
      exact ⟨handle, session, fault, moment, place, obtained, named, rendered, template, line,
        atFault, isTag, there, Option.some.inj (points.line.symm.trans line)⟩
    · rw [cause] at isFlaw
      cases isFlaw
  · cases failed

/-- A page that includes what is a folder in the template directory. -/
def misled : List Step := [
  .makeFolder "tpl/part",
  .setDirectory "tpl",
  .addTemplate "page" (Source.tag "include 'part'")]

/-- The folder cannot be read: the fault carries the line of the tag in the page, but not the
name of the page. -/
theorem misled_unnamed : faultOf misled =
    some (some "page", some (.file "tpl/part" .isDirectory, none, some 1)) := by
  decide +kernel

end Session

end Stencil
