import Stencil.Policy.Stock
import Stencil.Proofs.Confinement
import Stencil.Proofs.Escaping.Care

/-!
# Escaping is complete

Where the active policy escapes a sign, a rendering with nothing raw to begin with
writes a text without it. The discipline of escaping is lawful, so all statements
respect it, and so does every way of expanding goals that comes only to templates
without the sign.
-/

namespace Stencil

namespace Escaping

variable {sign : Char} {extension : String} {care : Care} {α : Type}

/-- An action keeps the discipline if it upholds what is the case. -/
theorem keeps_of {isGood : α → Prop} {action : Run α}
    (upholds : ∀ world, Upheld sign extension care world →
      Upheld sign extension care (action world).2 ∧
        ∀ value, (action world).1 = .ok value → isGood value) :
    (discipline sign extension).Keeps care isGood action action :=
  Run.Lockstep.diagonal upholds

/-- What needs the host's side only upholds everything. -/
theorem keeps_hosted {isGood : α → Prop} {action : Hosted α}
    (yields : Hosted.Yields isGood action) :
    (discipline sign extension).Keeps care isGood (Run.hosted action) (Run.hosted action) := by
  refine keeps_of fun world upheld => ⟨upheld.transfer rfl rfl rfl, ?_⟩
  intro value found
  exact Except.ok.inj found ▸ yields world.host

/-- Every sink takes a text without the sign, and keeps one. -/
theorem keeps_write {text : String} (legible : care.guarded = true → Text.lacks sign text = true) :
    (discipline sign extension).Keeps care (fun _ => True) (Run.write text) (Run.write text) := by
  refine keeps_of fun world upheld => ⟨upheld.toSink _ fun guarded => ?_, fun _ _ => trivial⟩
  have written := upheld.written guarded
  cases sink : world.sink with
  | buffer before =>
    rw [sink] at written
    simpa [Sink.text] using ⟨written, legible guarded⟩
  | device target said => exact Text.lacks_empty sign

/-- A text is escaped as the circumstances ask for. -/
theorem keeps_escape (text : String) :
    (discipline sign extension).Keeps care
      (fun escaped => care.guarded = true → Text.lacks sign escaped = true)
      (Run.escape text) (Run.escape text) := by
  refine keeps_of fun world upheld => ⟨(upheld.escape text).1, ?_⟩
  intro value found
  exact Except.ok.inj found ▸ (upheld.escape text).2

/-- A good value may be written where a station fits. -/
theorem keeps_emit {station : Station} {value : Value}
    (fits : (discipline sign extension).fits care station)
    (good : (discipline sign extension).good care value) :
    (discipline sign extension).Keeps care (fun _ => True) (station.emit value)
      (station.emit value) := by
  refine Station.emit_lockstep (fun asItIs guarded => ?_) (keeps_escape value.written)
    fun text legible => keeps_write legible
  have escaping : station.escaping = true := fits.1.2 guarded
  have raw : value.raw = true := by simpa [escaping] using asItIs
  exact Value.lacks_of_harmless (good (care.level guarded)) raw

/-- Expressions that are allowed have good values. -/
theorem keeps_evaluate {expression : Expr} (worded : expression.usesNoRaw = true) :
    (discipline sign extension).Keeps care ((discipline sign extension).good care)
      (Run.evaluate expression) (Run.evaluate expression) := by
  refine keeps_of fun world upheld => ⟨upheld.transfer rfl rfl rfl, ?_⟩
  intro value found reached
  have filters := upheld.secure.filters
  have yields := Expr.harmless_evaluate (upheld.allHarmless reached) expression worded world.host
  rw [← filters] at yields
  exact Except.ok.inj found ▸ yields

/-- The text parts of a pattern that is written out lack the sign. -/
theorem keeps_pattern {expression : Expr}
    (worded : Wording.isPatternWithout sign expression = true) :
    (discipline sign extension).Keeps care
      (fun text => ∀ content, .text content ∈ PatternPart.parts text.toList →
        (discipline sign extension).legible care (String.ofList content))
      (Run.evaluateText expression) (Run.evaluateText expression) := by
  unfold Wording.isPatternWithout at worded
  split at worded
  · rename_i pattern
    have lacking : sign ∉ pattern.toList := (Text.lacks_iff sign pattern).mp worded
    refine keeps_of fun world upheld => ⟨upheld.transfer rfl rfl rfl, ?_⟩
    intro text found content isPart _
    have same : pattern = text := Except.ok.inj found
    subst same
    refine (Text.lacks_iff sign _).mpr fun inPart => ?_
    rw [String.toList_ofList] at inPart
    exact lacking (PatternPart.mem_of_mem_parts isPart inPart)
  · cases worded

/-- A new record is harmless where its entries are. -/
theorem keeps_record (entries : List (String × Value))
    (bound : ∀ entry ∈ entries, (discipline sign extension).bindable care entry.2) :
    (discipline sign extension).Keeps care ((discipline sign extension).bindable care)
      (Run.hosted (Host.fresh (Value.newRecord entries)))
      (Run.hosted (Host.fresh (Value.newRecord entries))) := by
  refine keeps_hosted fun host guarded => Value.harmless_record ?_
  exact fun entry member => bound entry (Named.mem_of_mem_ofPairs member) guarded

/-- What is found under a name in all scopes is harmless in a guarded rendering. -/
theorem keeps_lookUp (name : String) :
    (discipline sign extension).Keeps care
      (fun found => ∀ value, found = some value → (discipline sign extension).bindable care value)
      (Run.lookUp name) (Run.lookUp name) := by
  refine keeps_of fun world upheld => ⟨upheld, ?_⟩
  intro found same value here guarded
  have there : world.context.find? name = some value := (Except.ok.inj same).trans here
  have scopes : Scopes.Every (fun inside => inside.harmless sign = true) world.context.scopes :=
    upheld.allHarmless (care.level guarded)
  exact Context.good_find? scopes there

/-- A tag may load a template, and give it back. -/
theorem loads {station : Station} (span : Span) (name : String)
    (fits : (discipline sign extension).fits care station) :
    (discipline sign extension).Loads care station span name := by
  rintro world other ⟨rfl, upheld⟩
  refine ⟨rfl, ?_⟩
  rw [Station.load_apply]
  cases found : world.catalogue.load world.host.files name (some (station.template.line span)) with
  | error fault => exact ⟨rfl, upheld⟩
  | ok loaded =>
    refine ⟨care, ⟨fits, fun _ good => good, ?_, ?_⟩, ?_, ?_⟩
    · exact fun sites => ⟨fun _ impossible => (nomatch impossible), fits.1.2⟩
    · intro _ sites
      refine ⟨fun handle member => ?_, fits.1.2⟩
      rcases List.mem_append.mp member with derived | isOwn
      · exact fits.1.1 handle derived
      · have same : handle = station.handle := by simpa using isOwn
        exact same ▸ fits.2
    · exact ⟨rfl, upheld.transfer (Catalogue.filters_load found) rfl rfl⟩
    · rintro after after' ⟨rfl, later⟩
      exact ⟨rfl, later.transfer (Catalogue.filters_release _ _) rfl rfl⟩

/-- The nodes below a node are good if the node is. -/
theorem keeps_children {node value : Value} (good : (discipline sign extension).good care node)
    (found : node.field? "children" = some value) :
    (discipline sign extension).Keeps care ((discipline sign extension).good care)
      (Run.hosted value.invoked) (Run.hosted value.invoked) := by
  refine keeps_of fun world upheld => ⟨upheld.transfer rfl rfl rfl, ?_⟩
  intro invoked same reached
  have isHarmless := Value.harmless_hereditary.field (good reached) found
  have answered : (value.invoked world.host).1 = invoked := Except.ok.inj same
  rw [Value.harmless_hereditary.invoked isHarmless] at answered
  exact answered ▸ isHarmless

/-- Without a spaceless policy a text stays as it is. -/
theorem keeps_removeSpace {text : String}
    (legible : (discipline sign extension).legible care text) :
    (discipline sign extension).Keeps care ((discipline sign extension).legible care)
      (Run.removeSpace text) (Run.removeSpace text) := by
  refine keeps_of fun world upheld => ?_
  have unchanged : world.context.removeSpace text = (text, [], world.context) := by
    simp only [Context.removeSpace, upheld.secure.spacer]
  constructor
  · apply upheld.transfer
    · rfl
    · simp only [Run.removeSpace, unchanged]
    · rfl
  · intro shorter same
    have equal : (world.context.removeSpace text).1 = shorter := Except.ok.inj same
    rw [unchanged] at equal
    exact equal ▸ legible

/-- Files are written whatever is in them. -/
theorem keeps_writeFile {station : Station} (span : Span) (path text : String) :
    (discipline sign extension).Keeps care (fun _ => True) (station.writeFile span path text)
      (station.writeFile span path text) := by
  refine keeps_of fun world upheld => ⟨?_, fun _ _ => trivial⟩
  obtain ⟨result, host, applied⟩ := station.writeFile_apply span path text world.host
  rw [applied world rfl]
  exact upheld.transfer rfl rfl rfl

/-- What is good is good in a scope that was opened: above the floor there is nothing
to be good for, and a guarded rendering is level. -/
theorem good_deeper {value : Value} (good : (discipline sign extension).good care value) :
    (discipline sign extension).good care.deeper value := by
  intro reached
  apply good
  by_cases guarded : care.guarded = true
  · exact care.level guarded
  · have above := care.above
    simp only [Care.deeper, guarded] at reached
    have raised : care.floor = care.depth + 1 := reached
    omega

/-- A scope may be opened for a time. -/
theorem passage_scope (scope : Named Value)
    (bound : ∀ entry ∈ scope, (discipline sign extension).bindable care entry.2) :
    (discipline sign extension).Passage care
      (fun world => { world with context := world.context.push scope })
      (fun _ after => { after with context := after.context.pop })
      ((discipline sign extension).Within care) (fun _ _ => True) := by
  rintro world other ⟨rfl, upheld⟩
  refine ⟨care.deeper, ⟨fun _ fits => fits, fun _ awaited => awaited, fun _ => good_deeper⟩,
    ⟨rfl, upheld.push scope bound⟩, ?_⟩
  rintro after after' ⟨rfl, later⟩
  exact ⟨⟨rfl, later.pop⟩, trivial⟩

/-- A text may be caught; in a guarded rendering it lacks the sign. -/
theorem passage_capture :
    (discipline sign extension).Passage care Discipline.emptied Discipline.resink
      ((discipline sign extension).Within care)
      (fun after after' => after.sink.text = after'.sink.text ∧
        (discipline sign extension).legible care after.sink.text) := by
  rintro world other ⟨rfl, upheld⟩
  refine ⟨care, ⟨fun _ fits => fits, fun _ awaited => awaited, fun _ good => good⟩,
    ⟨rfl, upheld.toSink _ fun _ => Text.lacks_empty sign⟩, ?_⟩
  rintro after after' ⟨rfl, later⟩
  exact ⟨⟨rfl, later.toSink _ upheld.written⟩, rfl, later.written⟩

/-- For a message the care is dropped. -/
theorem passage_mute :
    (discipline sign extension).Passage care Discipline.emptied Discipline.resink
      (fun inner => ∀ station, (discipline sign extension).fits care station →
        (discipline sign extension).fits inner { station with escaping := false })
      (fun after after' => after.sink.text = after'.sink.text) := by
  rintro world other ⟨rfl, upheld⟩
  refine ⟨care.dropped world.context.active, ?_, ⟨rfl, ?_⟩, ?_⟩
  · intro station fits
    exact ⟨⟨fits.1.1, fun impossible => absurd impossible Bool.false_ne_true⟩, fits.2⟩
  · exact (upheld.drop _).toSink _ fun impossible => absurd impossible Bool.false_ne_true
  · rintro after after' ⟨rfl, later⟩
    have resumed := later.resume upheld
    have active : after.context.active = world.context.active := later.active
    rw [← active] at resumed
    exact ⟨⟨rfl, resumed⟩, rfl⟩

/-- For a created file, too. -/
theorem passage_file (name : String) :
    (discipline sign extension).Passage care (Discipline.filing name) Discipline.filed
      ((discipline sign extension).Within care)
      (fun after after' => after.sink.text = after'.sink.text) := by
  rintro world other ⟨rfl, upheld⟩
  refine ⟨care.dropped (world.context.select name).active, ⟨?_, ?_, fun _ good => good⟩,
    ⟨rfl, ?_⟩, ?_⟩
  · intro station fits
    exact ⟨⟨fits.1.1, fun impossible => absurd impossible Bool.false_ne_true⟩, fits.2⟩
  · intro station awaited
    exact ⟨awaited.1, fun impossible => absurd impossible Bool.false_ne_true⟩
  · exact (upheld.drop _).toSink _ fun impossible => absurd impossible Bool.false_ne_true
  · rintro after after' ⟨rfl, later⟩
    exact ⟨⟨rfl, later.resume upheld⟩, rfl⟩

/-- Tabbing may be switched on for a time. -/
theorem passage_tabbed :
    (discipline sign extension).Passage care (Run.switchTabbing true)
      (fun _ after => Run.switchTabbing false after)
      (fun inner => ∀ station, (discipline sign extension).fits care station →
        (discipline sign extension).fits inner { station with tabbing := true })
      (fun _ _ => True) := by
  rintro world other ⟨rfl, upheld⟩
  refine ⟨care, fun station fits => fits, ⟨rfl, upheld.switchTabbing true⟩, ?_⟩
  rintro after after' ⟨rfl, later⟩
  exact ⟨⟨rfl, later.switchTabbing false⟩, trivial⟩

/-- The discipline of escaping is lawful. -/
theorem lawful : (discipline sign extension).Lawful where
  text := fun _ worded _ => worded
  bindable := fun good guarded => good (Care.level _ guarded)
  bindableNone := fun _ => Value.harmless_none
  bindableBoolean := fun truth _ => Value.harmless_boolean truth
  bindableInteger := fun number _ => Value.harmless_integer number
  bindableText := fun legible guarded => Value.harmless_rawText (legible guarded)
  elements := fun good item member reached =>
    Value.harmless_hereditary.elements (good reached) item member
  evaluate := fun _ worded => keeps_evaluate worded
  pattern := fun _ worded => keeps_pattern worded
  children := keeps_children
  record := keeps_record
  enclosing := keeps_lookUp "forloop"
  emit := keeps_emit
  write := keeps_write
  removeSpace := keeps_removeSpace
  assign := fun name _ good => keeps_of fun _ upheld => ⟨upheld.set name good, fun _ _ => trivial⟩
  turn := fun _ => keeps_of fun _ upheld => ⟨upheld.transfer rfl rfl rfl, fun _ _ => trivial⟩
  note := fun _ => keeps_hosted fun _ => trivial
  writeFile := fun span path text _ => keeps_writeFile span path text
  depthLimit := fun near => near.1 ▸ rfl
  outputDirectory := fun near => near.1 ▸ rfl
  scope := passage_scope
  capture := passage_capture
  mute := passage_mute
  file := passage_file
  tabbed := passage_tabbed
  load := loads

/-- The templates that may be rendered as a whole. -/
def clean (sign : Char) (template : Template) : Bool := template.obeys (Wording.without sign)

/-- The definitions of a block may be rendered where a station fits. -/
theorem supplies {station : Station} (name : String)
    (fits : (discipline sign extension).fits care station) :
    (discipline sign extension).Supplies care station name (station.definitions name) := by
  intro definition member
  have isClean : definition.template.obeys (Wording.without sign) = true := by
    rcases Station.mem_definitions member with derived | rfl
    · exact fits.1.1 definition derived
    · exact fits.2
  exact ⟨⟨fits.1, isClean⟩, fun body found =>
    definition.template.obeys_block _ isClean name body found⟩

/-- Expanding goals respects the discipline as long as all whole templates are clean;
nothing is expanded from others. -/
theorem follows (depth : Nat) :
    (discipline sign extension).Follows
      (expandOnly (wholesAre (clean sign)) (fun _ _ _ => throw .exhausted) depth)
      (expandOnly (wholesAre (clean sign)) (fun _ _ _ => throw .exhausted) depth) := by
  induction depth with
  | zero =>
    exact Discipline.Follows.of_keeps fun _ _ _ => Run.Lockstep.halt _
  | succ depth inductionHypothesis =>
    refine ⟨?_, ?_, ?_, ?_⟩
    · intro care station awaited
      simp only [expandOnly, wholesAre]
      by_cases isClean : clean sign station.template = true
      · simp only [isClean, if_true]
        exact lawful.renderWhole inductionHypothesis ⟨awaited, isClean⟩ isClean
      · simp only [isClean]
        exact Run.Lockstep.halt _
    · intro care station name fits _
      exact lawful.renderBlock inductionHypothesis fits (supplies name fits)
    · intro care station name definitions fits supplied
      exact lawful.renderBlock inductionHypothesis fits supplied
    · intro care station nodes body fits good obeyed
      exact lawful.renderTree inductionHypothesis fits good obeyed

end Escaping

/-- No value in the scopes of the context is raw or a callable, and none inside of
these values. -/
def Context.IsPlain (context : Context) : Prop :=
  ∀ scope ∈ context.scopes, ∀ entry ∈ scope, entry.2.plainThroughout = true

/-- At the start of a rendering under a policy everything is as the care asks for. -/
theorem Escaping.upheld_start {shop : Workshop} {sign : Char} {extension : String}
    {escaper : Escaper} (care : Escaping.Care) (depth : shop.context.outer.length = care.depth)
    (policy : care.active = some extension)
    (builtin : shop.catalogue.filters = Filter.builtins) (isPlain : shop.context.IsPlain)
    (active : shop.context.activeEscaper? = some (extension, escaper))
    (escapes : ∀ uses content, sign ∉ (escaper.policy.escape uses content).toList)
    (noSpacer : shop.context.spacer = none) :
    Upheld sign extension care { shop with turns := [], sink := .buffer "" } := by
  obtain ⟨selected, registered⟩ := Context.activeEscaper?_eq_some active
  refine ⟨⟨builtin, noSpacer, escaper, registered, fun uses content => ?_⟩, depth, ?_,
    selected.trans policy.symm, fun _ => policy, fun _ => Text.lacks_empty sign⟩
  · exact (Text.lacks_iff sign _).mpr (escapes uses content)
  · intro scope member entry inside
    exact Value.harmless_of_plainThroughout
      (isPlain scope (List.mem_of_mem_drop member) entry inside)

/-- A rendering with only the builtin filters, plain values and no spaceless policy,
whose active policy escapes a sign whatever it was used for before, writes no text
with the sign in it, if neither the template nor any that it loads has the sign in
its texts or in a pattern of markers, marks values as raw, or computes a pattern. -/
theorem Workshop.sign_not_mem_of_render {shop after : Workshop} {handle : Handle} {sign : Char}
    {extension text : String} {escaper : Escaper}
    (builtin : shop.catalogue.filters = Filter.builtins)
    (isPlain : shop.context.IsPlain)
    (active : shop.context.activeEscaper? = some (extension, escaper))
    (escapes : ∀ uses content, sign ∉ (escaper.policy.escape uses content).toList)
    (noSpacer : shop.context.spacer = none)
    (loadsClean : shop.LoadsOnly (Escaping.clean sign) handle)
    (rendered : shop.render handle = (.ok text, after)) : sign ∉ text.toList := by
  let care : Escaping.Care :=
    { floor := shop.context.outer.length
      depth := shop.context.outer.length
      active := some extension
      guarded := true
      level := fun _ => rfl
      above := Nat.le_refl _ }
  have upheld := Escaping.upheld_start care rfl rfl builtin isPlain active escapes noSpacer
  have awaited : Escaping.Awaits sign care (Station.start handle) :=
    ⟨fun _ impossible => (nomatch impossible), fun _ => rfl⟩
  have kept := (Escaping.follows expansionLimit).whole awaited _ _ ⟨rfl, upheld⟩
  -- The rendering does what the one does that expands clean templates only.
  have confined := loadsClean fun _ _ _ => throw .exhausted
  simp only [confined] at kept
  obtain ⟨succeeded, written⟩ := Workshop.render_eq_ok rendered
  rcases kept with ⟨_, impossible, _⟩ | ⟨_, ⟨_, after⟩, _⟩
  · exact impossible.elim
  · have lacking : Text.lacks sign text = true := by
      rw [← written]
      exact after.written rfl
    exact (Text.lacks_iff sign text).mp lacking

namespace Escaping.Sample

/-- A template with one block, which writes a variable. -/
def base : Template where
  name := some "base"
  source := ""
  body := [.text "(", .block "a", .text ")"]
  blocks := [("a", [.output (.path ⟨"x", [], "x"⟩)])]
  inherits := false

/-- A template that overrides the block: it writes what the block was and the variable
again, and puts the variable into a message, where nothing is escaped. -/
def page : Template where
  name := none
  source := ""
  body := [.inherit (.literal (.text "base")) ⟨0, 0⟩, .block "a"]
  blocks := [("a", [
    .output (.path ⟨"block", [.field "super"], "block.super"⟩),
    .within .message [.output (.path ⟨"x", [], "x"⟩)],
    .output (.path ⟨"x", [], "x"⟩)])]
  inherits := true

/-- A workshop with these templates, and with a variable whose text is to be escaped. -/
def shop : Workshop where
  catalogue := { Catalogue.empty with shelf := [("base", ⟨⟨0, base⟩, 0⟩)], issued := 2 }
  context :=
    { Context.ofEntries [("x", .text "<")] with
      escapers := [("html", .unused "html" .html)], active := some "html" }
  host := .empty

/-- The bracket is escaped both times. -/
theorem render_page : (shop.render ⟨1, page⟩).1 = .ok "(&lt;&lt;)" := by
  decide +kernel

end Escaping.Sample

open Escaping.Sample in
/-- What the page is rendered to has no bracket in it. -/
theorem Workshop.bracket_not_mem_page :
    (shop.render ⟨1, page⟩).1 = .ok "(&lt;&lt;)" ∧ '<' ∉ "(&lt;&lt;)".toList := by
  refine ⟨render_page, ?_⟩
  have isPlain : shop.context.IsPlain := by
    intro scope member entry inside
    have isScope : scope = [("x", .text "<")] := by
      simpa [shop, Context.scopes, Context.ofEntries, Context.empty] using member
    subst isScope
    have isEntry : entry = ("x", .text "<") := by simpa using inside
    exact isEntry ▸ rfl
  have loadsClean : shop.LoadsOnly (Escaping.clean '<') ⟨1, page⟩ := fun _ => rfl
  have active : shop.context.activeEscaper? = some ("html", .unused "html" .html) := rfl
  have rendered : shop.render ⟨1, page⟩ = (.ok "(&lt;&lt;)", (shop.render ⟨1, page⟩).2) := by
    rw [← render_page]
  exact Workshop.sign_not_mem_of_render rfl isPlain active EscapePolicy.bracket_not_mem_html rfl
    loadsClean rendered

end Stencil
