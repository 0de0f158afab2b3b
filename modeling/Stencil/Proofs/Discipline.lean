import Stencil.Proofs.Lockstep
import Stencil.Proofs.Wording

/-!
# Disciplines of execution

Most of what is true of a rendering is true because each primitive action respects
it, and because every change for a time is changed back. A discipline names such a
relation between the worlds of two renderings, one for each circumstance that a
statement may be executed in, with what it expects of stations, values, texts and
statements. It is lawful if the primitive actions respect it. The main statement is
that then whole lists of statements do, executed by two ways of expanding goals
that respect it; the induction over the statements is done here once.
-/

namespace Stencil

/-- What a tag that asks for a template does to the world: the catalogue changes, and
the journal tells about it; or nothing changes. -/
theorem Station.load_apply (station : Station) (span : Span) (name : String) (world : World) :
    station.load span name world =
      match world.catalogue.load world.host.files name (some (station.template.line span)) with
      | .ok loaded => (.ok loaded.handle,
          { world with
            catalogue := loaded.catalogue
            host := { world.host with records := loaded.record :: world.host.records } })
      | .error fault => (.error (.fault (match fault.cause.kind with
          | .resolution => station.locate span fault
          | _ => fault.through (station.sites ++ [station.site span]))), world) := by
  rw [Station.load]
  rw [Run.get_apply]
  cases world.catalogue.load world.host.files name (some (station.template.line span)) <;> rfl

/-- Going through a tag changes nothing. -/
theorem Station.enter_apply (station : Station) (span : Span) (world : World) :
    station.enter span world =
      (if station.sites.length < world.catalogue.depthLimit then
          .ok { station with sites := station.sites ++ [station.site span] }
        else .error (.fault (station.locate span (.ofCause (.tooDeep world.catalogue.depthLimit)))),
        world) := by
  rw [Station.enter, Run.get_apply]
  by_cases shallow : station.sites.length < world.catalogue.depthLimit
  · simp only [shallow, if_true]
    rfl
  · simp only [shallow, if_false]
    rfl

/-- Writing a file depends on the host's side and changes nothing else. -/
theorem Station.writeFile_apply (station : Station) (span : Span) (path text : String)
    (host : Host) :
    ∃ result after, ∀ world : World, world.host = host →
      station.writeFile span path text world = (result, { world with host := after }) := by
  rcases made : host.files.create path text.toUTF8 with ⟨cause | _, files⟩
  · refine ⟨.error (.fault (station.locate span (.ofCause cause))),
      { host with files := files }, ?_⟩
    rintro world rfl
    rw [Station.writeFile]
    rw [Run.get_apply, made]
    rfl
  · refine ⟨.ok (), { host with files := files, records := .created path :: host.records }, ?_⟩
    rintro world rfl
    rw [Station.writeFile]
    rw [Run.get_apply, made]
    rfl

/-- A value is written in lockstep, if its text may be written where it is not escaped,
and what is made of it where it is. -/
theorem Station.emit_lockstep {breaks : Halt → Prop} {related : World → World → Prop}
    {legible : String → Prop} {station : Station} {value : Value}
    (unescaped : (value.raw || !station.escaping) = true → legible value.written)
    (escapes : Run.Lockstep breaks related legible (Run.escape value.written)
      (Run.escape value.written))
    (writes : ∀ text, legible text →
      Run.Lockstep breaks related (fun _ => True) (Run.write text) (Run.write text)) :
    Run.Lockstep breaks related (fun _ => True) (station.emit value) (station.emit value) := by
  rw [Station.emit]
  by_cases asItIs : (value.raw || !station.escaping) = true
  · rw [if_pos asItIs]
    exact writes value.written (unescaped asItIs)
  · rw [if_neg asItIs]
    exact Run.Lockstep.bind escapes writes

/-- A relation between worlds for each circumstance, with what goes along with it:
the stations that statements are executed at, those that whole templates are
rendered at, the values that expressions may have, those that may be bound in a
scope, the texts that may be written, and how templates are worded. -/
structure Discipline (Circumstance : Type) where
  breaks : Halt → Prop
  related : Circumstance → World → World → Prop
  fits : Circumstance → Station → Prop
  awaits : Circumstance → Station → Prop
  good : Circumstance → Value → Prop
  bindable : Circumstance → Value → Prop
  legible : Circumstance → String → Prop
  wording : Template → Wording

namespace Discipline

variable {Circumstance : Type} {α : Type} (discipline : Discipline Circumstance)

/-- Two actions respect the discipline, and the values they come to are good. -/
def Keeps (circumstance : Circumstance) (isGood : α → Prop) (first second : Run α) : Prop :=
  Run.Lockstep discipline.breaks (discipline.related circumstance) isGood first second

/-- What is right in the outer circumstance is right in the inner one. -/
structure Within (outer inner : Circumstance) : Prop where
  fits : ∀ station, discipline.fits outer station → discipline.fits inner station
  awaits : ∀ station, discipline.awaits outer station → discipline.awaits inner station
  good : ∀ value, discipline.good outer value → discipline.good inner value

/-- A change of the world for a time: it leads to a circumstance, and what is related
there is related as before once it is changed back. -/
def Passage (circumstance : Circumstance) (enter : World → World)
    (leave : World → World → World) (inside : Circumstance → Prop)
    (yields : World → World → Prop) : Prop :=
  ∀ world other, discipline.related circumstance world other →
    ∃ inner, inside inner ∧ discipline.related inner (enter world) (enter other) ∧
      ∀ after after', discipline.related inner after after' →
        discipline.related circumstance (leave world after) (leave other after') ∧
          yields after after'

/-- What holds once a tag of a station has led to a handle: the template may be
rendered in the place of the tag, and as the one that the station's extends. -/
structure Arrival (outer inner : Circumstance) (station : Station) (handle : Handle) : Prop where
  fits : discipline.fits inner station
  good : ∀ value, discipline.good outer value → discipline.good inner value
  alone : ∀ sites, discipline.awaits inner (({ station with sites := sites }).into handle [])
  extended : (discipline.wording station.template).inherit = true → ∀ sites,
    discipline.awaits inner
      (({ station with sites := sites }).into handle (station.derived ++ [station.handle]))

/-- A tag that asks for a template finds the same one in related worlds, or fails in
the same way; and a template that was found can be given back. -/
def Loads (circumstance : Circumstance) (station : Station) (span : Span) (name : String) : Prop :=
  ∀ world other, discipline.related circumstance world other →
    (station.load span name world).1 = (station.load span name other).1 ∧
      match (station.load span name world).1 with
      | .error _ => discipline.related circumstance (station.load span name world).2
          (station.load span name other).2
      | .ok handle => ∃ inner, discipline.Arrival circumstance inner station handle ∧
          discipline.related inner (station.load span name world).2
            (station.load span name other).2 ∧
          ∀ after after', discipline.related inner after after' →
            discipline.related circumstance
              { after with catalogue := after.catalogue.release handle }
              { after' with catalogue := after'.catalogue.release handle }

/-- The world with an empty buffer for its sink. -/
def emptied (world : World) : World := { world with sink := .buffer "" }

/-- The world after a rendering to another sink. -/
def resink (world after : World) : World := { after with sink := world.sink }

/-- The world in which a file is rendered: its policy selected, and an empty buffer
for its sink. -/
def filing (extension : String) (world : World) : World :=
  emptied { world with context := world.context.select extension }

/-- The world after a file was rendered. -/
def filed (world after : World) : World :=
  resink world { after with context := { after.context with active := world.context.active } }

/-- The primitive actions respect the discipline. -/
structure Lawful : Prop where
  text : ∀ {circumstance station content}, discipline.fits circumstance station →
    (discipline.wording station.template).text content = true →
    discipline.legible circumstance content
  bindable : ∀ {circumstance value}, discipline.good circumstance value →
    discipline.bindable circumstance value
  bindableNone : ∀ {circumstance}, discipline.bindable circumstance .none
  bindableBoolean : ∀ {circumstance} (value : Bool),
    discipline.bindable circumstance (.boolean value)
  bindableInteger : ∀ {circumstance} (value : Int64),
    discipline.bindable circumstance (.integer value)
  bindableText : ∀ {circumstance text}, discipline.legible circumstance text →
    discipline.bindable circumstance (.rawText text)
  elements : ∀ {circumstance value}, discipline.good circumstance value →
    ∀ item ∈ value.elements, discipline.good circumstance item
  evaluate : ∀ {circumstance station expression}, discipline.fits circumstance station →
    (discipline.wording station.template).value expression = true →
    discipline.Keeps circumstance (discipline.good circumstance)
      (Run.evaluate expression) (Run.evaluate expression)
  pattern : ∀ {circumstance station expression}, discipline.fits circumstance station →
    (discipline.wording station.template).pattern expression = true →
    discipline.Keeps circumstance
      (fun text => ∀ content, .text content ∈ PatternPart.parts text.toList →
        discipline.legible circumstance (String.ofList content))
      (Run.evaluateText expression) (Run.evaluateText expression)
  children : ∀ {circumstance node value}, discipline.good circumstance node →
    node.field? "children" = some value →
    discipline.Keeps circumstance (discipline.good circumstance)
      (Run.hosted value.invoked) (Run.hosted value.invoked)
  record : ∀ {circumstance} (entries : List (String × Value)),
    (∀ entry ∈ entries, discipline.bindable circumstance entry.2) →
    discipline.Keeps circumstance (discipline.bindable circumstance)
      (Run.hosted (Host.fresh (Value.newRecord entries)))
      (Run.hosted (Host.fresh (Value.newRecord entries)))
  enclosing : ∀ {circumstance}, discipline.Keeps circumstance
    (fun found => ∀ value, found = some value → discipline.bindable circumstance value)
    (Run.lookUp "forloop") (Run.lookUp "forloop")
  emit : ∀ {circumstance station value}, discipline.fits circumstance station →
    discipline.good circumstance value →
    discipline.Keeps circumstance (fun _ => True) (station.emit value) (station.emit value)
  write : ∀ {circumstance text}, discipline.legible circumstance text →
    discipline.Keeps circumstance (fun _ => True) (Run.write text) (Run.write text)
  removeSpace : ∀ {circumstance text}, discipline.legible circumstance text →
    discipline.Keeps circumstance (discipline.legible circumstance)
      (Run.removeSpace text) (Run.removeSpace text)
  assign : ∀ {circumstance} (name : String) {value}, discipline.good circumstance value →
    discipline.Keeps circumstance (fun _ => True) (Run.assign name value) (Run.assign name value)
  turn : ∀ {circumstance} (tag : CycleTag),
    discipline.Keeps circumstance (fun _ => True) (Run.turn tag) (Run.turn tag)
  note : ∀ {circumstance} (record : Record),
    discipline.Keeps circumstance (fun _ => True) (Run.note record) (Run.note record)
  writeFile : ∀ {circumstance station} (span : Span) (path text : String),
    discipline.fits circumstance station →
    discipline.Keeps circumstance (fun _ => True) (station.writeFile span path text)
      (station.writeFile span path text)
  depthLimit : ∀ {circumstance world other}, discipline.related circumstance world other →
    world.catalogue.depthLimit = other.catalogue.depthLimit
  outputDirectory : ∀ {circumstance world other}, discipline.related circumstance world other →
    world.context.outputDirectory = other.context.outputDirectory
  scope : ∀ {circumstance} (scope : Named Value),
    (∀ entry ∈ scope, discipline.bindable circumstance entry.2) →
    discipline.Passage circumstance
      (fun world => { world with context := world.context.push scope })
      (fun _ after => { after with context := after.context.pop })
      (discipline.Within circumstance) (fun _ _ => True)
  capture : ∀ {circumstance}, discipline.Passage circumstance emptied resink
    (discipline.Within circumstance)
    (fun after after' => after.sink.text = after'.sink.text ∧
      discipline.legible circumstance after.sink.text)
  mute : ∀ {circumstance}, discipline.Passage circumstance emptied resink
    (fun inner => ∀ station, discipline.fits circumstance station →
      discipline.fits inner { station with escaping := false })
    (fun after after' => after.sink.text = after'.sink.text)
  file : ∀ {circumstance} (extension : String),
    discipline.Passage circumstance (filing extension) filed (discipline.Within circumstance)
      (fun after after' => after.sink.text = after'.sink.text)
  tabbed : ∀ {circumstance}, discipline.Passage circumstance (Run.switchTabbing true)
    (fun _ after => Run.switchTabbing false after)
    (fun inner => ∀ station, discipline.fits circumstance station →
      discipline.fits inner { station with tabbing := true }) (fun _ _ => True)
  load : ∀ {circumstance station} (span : Span) (name : String),
    discipline.fits circumstance station → discipline.Loads circumstance station span name

/-- The definitions of a block may be rendered where a station stands. -/
def Supplies (circumstance : Circumstance) (station : Station) (name : String)
    (definitions : List Handle) : Prop :=
  ∀ definition ∈ definitions,
    discipline.fits circumstance { station with handle := definition } ∧
      ∀ body, definition.template.block? name = some body →
        allObey (discipline.wording definition.template) body = true

/-- Two ways of expanding goals respect the discipline. -/
structure Follows (first second : Expansion) : Prop where
  whole : ∀ {circumstance station}, discipline.awaits circumstance station →
    discipline.Keeps circumstance (fun _ => True) (first station .whole) (second station .whole)
  reference : ∀ {circumstance station} (name : String), discipline.fits circumstance station →
    (discipline.wording station.template).block name = true →
    discipline.Keeps circumstance (fun _ => True) (first station (.reference name))
      (second station (.reference name))
  block : ∀ {circumstance station} (name : String) (definitions : List Handle),
    discipline.fits circumstance station →
    discipline.Supplies circumstance station name definitions →
    discipline.Keeps circumstance (fun _ => True) (first station (.block name definitions))
      (second station (.block name definitions))
  tree : ∀ {circumstance station} (nodes : List Value) (body : List Stmt),
    discipline.fits circumstance station →
    (∀ node ∈ nodes, discipline.good circumstance node) →
    allObey (discipline.wording station.template) body = true →
    discipline.Keeps circumstance (fun _ => True) (first station (.tree nodes body))
      (second station (.tree nodes body))

/-- It is enough to compare goal by goal, where nothing is asked of them. -/
theorem Follows.of_keeps {discipline : Discipline Circumstance} {first second : Expansion}
    (keeps : ∀ circumstance station goal, discipline.Keeps circumstance (fun _ => True)
      (first station goal) (second station goal)) : discipline.Follows first second := by
  constructor
  · intro circumstance station _
    exact keeps circumstance station .whole
  · intro circumstance station name _ _
    exact keeps circumstance station (.reference name)
  · intro circumstance station name definitions _ _
    exact keeps circumstance station (.block name definitions)
  · intro circumstance station nodes body _ _ _
    exact keeps circumstance station (.tree nodes body)

end Discipline

end Stencil
