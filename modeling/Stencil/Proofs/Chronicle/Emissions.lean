import Stencil.Proofs.Chronicle.Surroundings
import Stencil.Proofs.Sessions

/-!
# Values in created files

Output tags and cycle tags write values. In a file that is created a value is escaped by
the policy that is registered for the extension of the file, wherever the tag that creates
it stands, as long as this is not in a message: in a message nothing is escaped, and
neither is anything in the files that are created there.
-/

namespace Stencil

namespace Moment

/-- The value that an output tag or a cycle tag writes at the moment, and the world in
which it is written. -/
def emission? (moment : Moment) : Option (Value × World) :=
  match moment.statement with
  | .output value => some (moment.world.valueOf value)
  | .cycle number first others =>
    let tag : CycleTag := ⟨moment.station.handle.serial, number⟩
    let turn := moment.world.turns.count tag
    let counted := { moment.world with turns := moment.world.turns.advance tag }
    some (counted.valueOf ((first :: others)[turn % (others.length + 1)]?.getD first))
  | _ => none

/-- At the moment a value is written as the policy for an extension escapes it, after
further uses; or as it is, if there is no policy for that extension. -/
def WritesFor (moment : Moment) (escapers : Named Escaper) (extension : String) (value : Value)
    (before : World) : Prop :=
  match escapers.get? extension with
  | some registered => ∃ uses, let escaper := registered.after uses
      before.context.escapers.get? extension = some escaper ∧
        ∀ expand, moment.statement.execute expand moment.station moment.world =
          Run.write (escaper.escape value.written).1
            { before with context := { before.context with
                escapers := before.context.escapers.put extension
                  (escaper.escape value.written).2 } }
  | none => ∀ expand, moment.statement.execute expand moment.station moment.world =
      Run.write value.written before

variable {moment tag : Moment} {value : Value} {before : World}

/-- A tag that writes a value does nothing else from there. -/
theorem execute_of_emission (emits : moment.emission? = some (value, before))
    (expand : Expansion) : moment.statement.execute expand moment.station moment.world =
      moment.station.emit value before := by
  obtain ⟨station, statement, world⟩ := moment
  cases statement with
  | output expression =>
    cases emits
    rfl
  | cycle number first others =>
    cases emits
    rfl
  | _ => cases emits

/-- Nothing in the context has changed by then. -/
theorem context_of_emission (emits : moment.emission? = some (value, before)) :
    before.context = moment.world.context := by
  obtain ⟨station, statement, world⟩ := moment
  cases statement with
  | output expression =>
    cases emits
    rfl
  | cycle number first others =>
    cases emits
    rfl
  | _ => cases emits

/-- What is written at the moment is written to the file of a tag itself: the moment lies
within the tag, and within no message and no other tag that creates a file there. -/
structure WritesTo (moment tag : Moment) : Prop where
  within : moment.Within tag
  direct : ∀ outer : Moment, outer.Within tag → moment.Within outer →
    outer.statement.isMessage = false ∧ outer.statement.isCreate = false

/-- Where something is written to a created file itself, values are escaped if they were at
the tag, the policy for the extension of the file is active, and the policies are those
there were at the tag, used further. -/
theorem WritesTo.circumstances {target template : Expr} {span : Span}
    (writes : moment.WritesTo tag) (creates : tag.statement = .create target template span) :
    ∃ directory, tag.world.context.outputDirectory = some directory ∧
      (tag.station.escaping = true → moment.station.escaping = true) ∧
      moment.world.context.active = (tag.world.context.select
        (FilePath.extension (tag.world.pathOf directory target))).active ∧
      ∀ extension, ∃ uses, moment.world.context.escapers.get? extension =
        (tag.world.context.escapers.get? extension).map fun escaper => escaper.after uses := by
  obtain ⟨⟨depth, told⟩, direct⟩ := writes
  obtain ⟨station, statement, world⟩ := tag
  cases creates
  obtain ⟨opening, opens, toldThere⟩ := mem_inside_create.mp told
  obtain ⟨directory, below, isPath, isStation, selects, -⟩ := of_opening opens
  have inTag : ∀ {outer : Moment},
      outer.event ∈ (expandTold depth opening.station .whole).events opening.world →
      outer.Within ⟨station, .create target template span, world⟩ :=
    fun toldOuter => ⟨depth, mem_inside_create.mpr ⟨opening, opens, toldOuter⟩⟩
  refine ⟨directory, below, fun loud => ?_, ?_, ?_⟩
  · have admitted : Observance.loudness.admits true opening.station := by
      rw [isStation]
      exact loud
    have keeps := Observance.loudness_sound.follows depth true opening.station .whole admitted
    rcases (keeps _).2 moment toldThere with sees | ⟨outer, toldOuter, ⟨-, isMessage⟩, within⟩
    · exact sees
    · have isNot := (direct outer (inTag toldOuter) within).1
      exact absurd (isNot.symm.trans isMessage) (by simp)
  · have keeps := Observance.selection_sound.follows depth () opening.station .whole trivial
    rcases (keeps _).2 moment toldThere with sees | ⟨outer, toldOuter, isCreate, within⟩
    · rw [← isPath, ← selects]
      exact sees
    · have isNot := (direct outer (inTag toldOuter) within).2
      exact absurd (isNot.symm.trans isCreate) (by simp)
  · have keeps := Observance.usage_sound.follows depth () opening.station .whole trivial
    rcases (keeps _).2 moment toldThere with sees | ⟨_, _, impossible, _⟩
    · intro extension
      have same : opening.world.context.escapers = world.context.escapers := by rw [selects]; rfl
      rw [← same]
      exact sees extension
    · cases impossible

/-- Where values are escaped, and one tag more than at a tag that creates a file has led,
something is written to the file itself. -/
theorem writesTo_of_near (within : moment.Within tag) (creates : tag.statement.isCreate = true)
    (loud : moment.station.escaping = true)
    (near : moment.station.sites.length = tag.station.sites.length + 1) :
    moment.WritesTo tag := by
  refine ⟨within, fun outer inTag around => ⟨?_, ?_⟩⟩
  · refine Bool.eq_false_iff.mpr fun isMessage => ?_
    rw [around.escaping isMessage] at loud
    cases loud
  · refine Bool.eq_false_iff.mpr fun isCreate => ?_
    have further := inTag.sites creates
    have furtherStill := around.sites isCreate
    omega

end Moment

namespace Station

variable {station : Station} {value : Value} {world : World}

/-- Where values are escaped, one that is not raw is written as the context escapes it. -/
theorem emit_of_plain (loud : station.escaping = true) (plain : value.raw = false) :
    station.emit value world = Run.write (world.context.escape value.written).1
      { world with context := (world.context.escape value.written).2 } := by
  simp only [emit, plain, loud]
  rfl

/-- A value is escaped by the active policy. -/
theorem emit_of_active (loud : station.escaping = true) (plain : value.raw = false)
    {extension : String} {escaper : Escaper}
    (active : world.context.activeEscaper? = some (extension, escaper)) :
    station.emit value world = Run.write (escaper.escape value.written).1
      { world with context := { world.context with
          escapers :=
            world.context.escapers.put extension (escaper.escape value.written).2 } } := by
  rw [emit_of_plain loud plain]
  simp only [Context.escape, active]

/-- It is written as it is if no policy is active. -/
theorem emit_of_inactive (loud : station.escaping = true) (plain : value.raw = false)
    (inactive : world.context.activeEscaper? = none) :
    station.emit value world = Run.write value.written world := by
  rw [emit_of_plain loud plain]
  simp only [Context.escape, inactive]

end Station

namespace Workshop

variable {shop : Workshop} {limit : Nat} {handle : Handle} {sink : Sink} {moment tag : Moment}

/-- Outside of messages a rendering escapes values. -/
theorem escaping_of_told (told : moment.event ∈ shop.chronicle limit handle sink)
    (outside : ∀ outer : Moment, outer.event ∈ shop.chronicle limit handle sink →
      moment.Within outer → outer.statement.isMessage = false) :
    moment.station.escaping = true := by
  have keeps := Observance.loudness_sound.follows limit true (.start handle) .whole rfl
  rcases (keeps _).2 moment told with sees | ⟨outer, toldOuter, ⟨-, isMessage⟩, within⟩
  · exact sees
  · rw [outside outer toldOuter within] at isMessage
    cases isMessage

/-- At every moment of a rendering the policies are those it began with, used further. -/
theorem escapers_of_told (told : moment.event ∈ shop.chronicle limit handle sink)
    (extension : String) : ∃ uses, moment.world.context.escapers.get? extension =
      (shop.context.escapers.get? extension).map fun escaper => escaper.after uses := by
  have keeps := Observance.usage_sound.follows limit () (.start handle) .whole trivial
  rcases (keeps _).2 moment told with sees | ⟨_, _, impossible, _⟩
  · exact sees extension
  · cases impossible

/-- Wherever in a rendering a tag that creates a file stands, unless in a message: what an
output tag or a cycle tag writes to the file itself, outside of messages there, is a raw
value, or is escaped by the policy that is registered for the extension of the file, or is
written as it is because no policy is registered for it. -/
theorem values_of_created_escaped {target template : Expr} {span : Span} {value : Value}
    {before : World} (told : tag.event ∈ shop.chronicle limit handle sink)
    (creates : tag.statement = .create target template span)
    (outside : ∀ outer : Moment, outer.event ∈ shop.chronicle limit handle sink →
      tag.Within outer → outer.statement.isMessage = false)
    (writes : moment.WritesTo tag) (emits : moment.emission? = some (value, before))
    (plain : value.raw = false) :
    ∃ directory, tag.world.context.outputDirectory = some directory ∧
      moment.WritesFor shop.context.escapers (Context.normalExtension
        (FilePath.extension (tag.world.pathOf directory target))) value before := by
  obtain ⟨directory, below, loudIf, active, usedThere⟩ := writes.circumstances creates
  refine ⟨directory, below, ?_⟩
  let extension := Context.normalExtension
    (FilePath.extension (tag.world.pathOf directory target))
  have loud : moment.station.escaping = true := loudIf (escaping_of_told told outside)
  have sameContext := Moment.context_of_emission emits
  obtain ⟨earlier, foundAtTag⟩ := escapers_of_told told extension
  obtain ⟨later, foundLater⟩ := usedThere extension
  have found : before.context.escapers.get? extension =
      (shop.context.escapers.get? extension).map fun escaper =>
        escaper.after (later ++ earlier) := by
    rw [sameContext, foundLater, foundAtTag, Option.map_map]
    simp [Function.comp_def, Escaper.after]
  have selected : before.context.active =
      if (shop.context.escapers.get? extension).isSome then some extension else none := by
    rw [sameContext, active, Context.select, Context.hasPolicy, Named.has, foundAtTag,
      Option.isSome_map]
  show moment.WritesFor shop.context.escapers extension value before
  unfold Moment.WritesFor
  cases registered : shop.context.escapers.get? extension with
  | none =>
    intro expand
    rw [Moment.execute_of_emission emits expand]
    exact Station.emit_of_inactive loud plain
      (by simp [Context.activeEscaper?, selected, registered])
  | some escaper =>
    rw [registered, Option.map_some] at found
    refine ⟨later ++ earlier, found, fun expand => ?_⟩
    rw [Moment.execute_of_emission emits expand]
    exact Station.emit_of_active loud plain
      (by simp [Context.activeEscaper?, selected, registered, found])

end Workshop

/-- The moments that some events tell of. -/
def Event.moments (events : List Event) : List Moment :=
  events.filterMap fun
    | .began station statement world => some ⟨station, statement, world⟩
    | _ => none

/-- The events tell of the moments that they tell of. -/
theorem Event.mem_moments {events : List Event} {moment : Moment} :
    moment ∈ moments events ↔ moment.event ∈ events := by
  rw [moments, List.mem_filterMap]
  constructor
  · rintro ⟨event, told, same⟩
    cases event <;> cases same
    exact told
  · exact fun told => ⟨moment.event, told, rfl⟩

/-- What a result is known to be if it has a value. -/
theorem eq_ok_of_toOption {ε α : Type} {result : Except ε α} {value : α}
    (given : result.toOption = some value) : result = .ok value := by
  cases result with
  | error reason => cases given
  | ok other => exact congrArg Except.ok (Option.some.inj given)

namespace Session

/-- A page with a message and with a tag that creates a file in a scope of its own. -/
def filing : List Step := [
  .addTemplate "part" (Source.hole "x" ++ Source.tag "msg" ++ Source.hole "x" ++
    Source.tag "endmsg"),
  .addTemplate "page" (Source.tag "msg" ++ Source.hole "x" ++ Source.tag "endmsg" ++
    Source.tag "with y='a'" ++ Source.tag "create 'x.html' from 'part'" ++
    Source.tag "endwith"),
  .setOutputDirectory "out",
  .setEscapePolicy "html" .html,
  .set "x" (.text "<")]

/-- The same page, but for the tag that creates the file standing in a message. -/
def muffled : List Step := [
  .addTemplate "part" (Source.hole "x"),
  .addTemplate "page" (Source.tag "msg" ++ Source.tag "create 'x.html' from 'part'" ++
    Source.tag "endmsg"),
  .setOutputDirectory "out",
  .setEscapePolicy "html" .html,
  .set "x" (.text "<")]

/-- The handle to the page of a session that was prepared, and the session then. -/
def page? (steps : List Step) : Option (Handle × Session) :=
  ((Session.empty.prepare steps).2.obtain? (.name "page" none)).toOption

/-- It was obtained by its name. -/
theorem obtained_of_page {steps : List Step} {made : Handle × Session}
    (given : page? steps = some made) :
    (Session.empty.prepare steps).2.obtain? (.name "page" none) = .ok made :=
  eq_ok_of_toOption given

/-- The text of a file after the page of a session was rendered. -/
def fileOf (steps : List Step) (path : String) : Option String :=
  match ((Session.empty.prepare steps).2.render (.name "page" none)) with
  | (.text _, after) => (after.shop.host.files.readText path).toOption
  | _ => none

/-- The first tag of the page that creates a file, and the first moment within it at which
a value is written. -/
def firstWrite? (steps : List Step) : Option (Handle × Session × Moment × Moment) := do
  let (handle, session) ← page? steps
  let tag ← (Event.moments (session.shop.chronicle 4 handle (.buffer ""))).find?
    (·.statement.isCreate)
  let moment ← (Event.moments (tag.inside 4)).find? (·.emission?.isSome)
  return (handle, session, tag, moment)

/-- They are told of in the rendering of the page. -/
theorem told_of_firstWrite {steps : List Step} {handle : Handle} {session : Session}
    {tag moment : Moment} (first : firstWrite? steps = some (handle, session, tag, moment)) :
    (Session.empty.prepare steps).2.obtain? (.name "page" none) = .ok (handle, session) ∧
      tag.event ∈ session.shop.chronicle 4 handle (.buffer "") ∧
      tag.statement.isCreate = true ∧ moment.Within tag := by
  obtain ⟨⟨_, _⟩, given, rest⟩ := Option.bind_eq_some_iff.mp first
  obtain ⟨_, isTag, rest⟩ := Option.bind_eq_some_iff.mp rest
  obtain ⟨_, isMoment, same⟩ := Option.bind_eq_some_iff.mp rest
  cases same
  refine ⟨obtained_of_page given, Event.mem_moments.mp (List.mem_of_find?_eq_some isTag),
    by simpa using List.find?_some isTag,
    ⟨4, Event.mem_moments.mp (List.mem_of_find?_eq_some isMoment)⟩⟩

/-- The value in the file that is created outside of a message is escaped. -/
theorem filing_escapes : ∃ (handle : Handle) (session : Session) (tag moment : Moment)
    (value : Value) (before : World) (target : Expr) (directory : String),
    (Session.empty.prepare filing).2.obtain? (.name "page" none) = .ok (handle, session) ∧
      tag.event ∈ session.shop.chronicle 4 handle (.buffer "") ∧ moment.Within tag ∧
      moment.emission? = some (value, before) ∧ value.raw = false ∧
      tag.world.context.outputDirectory = some directory ∧
      moment.WritesFor session.shop.context.escapers (Context.normalExtension
        (FilePath.extension (tag.world.pathOf directory target))) value before := by
  have circumstances : (firstWrite? filing).map (fun (_, _, tag, moment) =>
      (tag.station.escaping, moment.station.escaping,
        moment.station.sites.length == tag.station.sites.length + 1,
        moment.emission?.map fun emission => emission.1.raw)) =
      some (true, true, true, some false) := by decide +kernel
  obtain ⟨⟨handle, session, tag, moment⟩, first, same⟩ := Option.map_eq_some_iff.mp circumstances
  simp only [Prod.mk.injEq, beq_iff_eq] at same
  obtain ⟨loudTag, loud, near, emits⟩ := same
  obtain ⟨⟨value, before⟩, emits, plain⟩ := Option.map_eq_some_iff.mp emits
  obtain ⟨given, told, creates, within⟩ := told_of_firstWrite first
  obtain ⟨target, template, span, isThis⟩ := Stmt.eq_of_isCreate creates
  have outside : ∀ outer : Moment, outer.event ∈ session.shop.chronicle 4 handle (.buffer "") →
      tag.Within outer → outer.statement.isMessage = false := by
    intro outer _ around
    refine Bool.eq_false_iff.mpr fun isMessage => ?_
    rw [around.escaping isMessage] at loudTag
    cases loudTag
  obtain ⟨directory, below, writes⟩ := Workshop.values_of_created_escaped told isThis outside
    (Moment.writesTo_of_near within creates loud near) emits plain
  exact ⟨handle, session, tag, moment, value, before, target, directory, given, told, within,
    emits, plain, below, writes⟩

/-- In a message it is not, although the policy of its extension leaves no bracket. -/
theorem muffled_unescaped :
    fileOf muffled "out/x.html" = some "<" ∧ EscapePolicy.html.escape [] "<" = "&lt;" := by
  decide +kernel

end Session

end Stencil
