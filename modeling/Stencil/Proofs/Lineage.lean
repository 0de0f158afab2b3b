import Stencil.Proofs.Discipline.Statements
import Stencil.Proofs.Soundness
import Stencil.Rendering

/-!
# Lines of descent

The templates of an extend chain, most derived first, are a line of descent. A
station knows those that extend its template, and has to guess the line from them:
the definitions of a block depend on the template that the rendering stands in.
Here goals are expanded with the line at hand. Wherever a reference stands, its
station is one of the line, and so any way of finding definitions that agrees with
the station's at all such places gives the same rendering; that is the main
statement, and what is known about lines follows from it.
-/

namespace Stencil

/-- The template defines a block of the name. -/
def Handle.defines (handle : Handle) (name : String) : Bool := (handle.template.block? name).isSome

namespace Lineage

/-- A way to find the definitions of a block, given the line of descent and where the
reference stands. -/
abbrev Resolution := List Handle → Station → String → List Handle

/-- Expands goals with the line of descent at hand. A whole template ends a line of its
own, with those that extend it before it; all that is executed for it has this line. -/
def expand (resolve : Resolution) : Nat → List Handle → Expansion
  | 0, _, _, _ => throw .exhausted
  | depth + 1, _, station, .whole =>
    station.pursue (expand resolve depth (station.derived ++ [station.handle])) .whole
  | depth + 1, line, station, .reference name =>
    station.pursue (expand resolve depth line) (.block name (resolve line station name))
  | depth + 1, line, station, .block name definitions =>
    station.pursue (expand resolve depth line) (.block name definitions)
  | depth + 1, line, station, .tree nodes body =>
    station.pursue (expand resolve depth line) (.tree nodes body)

/-- The station's template is one of the line, behind those that extend the last one;
and all of the line are held. -/
structure Stands (held line : List Handle) (station : Station) : Prop where
  own : station.handle ∈ line
  descent : ∃ base, line = station.derived ++ [base]
  held : ∀ handle ∈ line, handle ∈ held

/-- The handles that are held by a rendering. They are to closed templates, and no two
have the same serial number. -/
structure Held where
  handles : List Handle
  closed : ∀ handle ∈ handles, handle.template.Closed
  distinct : ∀ handle ∈ handles, ∀ other ∈ handles, handle.serial = other.serial → handle = other

/-- What is held with regard to a sound catalogue. -/
def Held.of {catalogue : Catalogue} {handles : List Handle} (sound : catalogue.Sound handles) :
    Held where
  handles := handles
  closed := fun handle member => sound.closed handle (List.mem_append_left _ member)
  distinct := fun handle member other among =>
    sound.distinct handle (List.mem_append_left _ member) other (List.mem_append_left _ among)

/-- A way to find definitions agrees with the station's wherever a reference may stand:
to a block that the template there defines. -/
def Agrees (resolve : Resolution) : Prop :=
  ∀ (held : Held) (line : List Handle) (station : Station) (name : String),
    Stands held.handles line station → station.handle.defines name = true →
    resolve line station name = station.definitions name

/-- The discipline of a line: the catalogue stays sound, and stations stand in the
line. -/
def discipline (line : List Handle) : Discipline Held where
  breaks := fun _ => False
  related := fun held world other => world = other ∧ world.catalogue.Sound held.handles
  fits := fun held station => Stands held.handles line station
  awaits := fun held station =>
    (∀ handle ∈ station.derived, handle ∈ held.handles) ∧ station.handle ∈ held.handles
  good := fun _ _ => True
  bindable := fun _ _ => True
  legible := fun _ _ => True
  wording := fun template => Wording.referring fun name => (template.block? name).isSome

variable {line : List Handle} {held : Held} {α : Type}

/-- What does not change the catalogue respects the discipline. -/
theorem keeps_of_still {isGood : α → Prop} {action : Run α}
    (still : ∀ world, (action world).2.catalogue = world.catalogue)
    (all : ∀ value, isGood value) :
    (discipline line).Keeps held isGood action action := by
  refine Run.Lockstep.diagonal fun world sound => ?_
  constructor
  · rw [still]
    exact sound
  · exact fun value _ => all value

/-- A change that does not touch the catalogue may be made for a time. -/
theorem passage_of_still {enter : World → World} {leave : World → World → World}
    {inside : Held → Prop} {yields : World → World → Prop}
    (entering : ∀ world, (enter world).catalogue = world.catalogue)
    (leaving : ∀ world after, (leave world after).catalogue = after.catalogue)
    (isInside : inside held) (all : ∀ after, yields after after) :
    (discipline line).Passage held enter leave inside yields := by
  rintro world other ⟨rfl, sound⟩
  refine ⟨held, isInside, ⟨rfl, ?_⟩, ?_⟩
  · rw [entering]
    exact sound
  · rintro after after' ⟨rfl, later⟩
    refine ⟨⟨rfl, ?_⟩, all after⟩
    rw [leaving]
    exact later

/-- What a rendering is executed in stays what it is. -/
theorem within_refl : (discipline line).Within held held :=
  ⟨fun _ fits => fits, fun _ awaited => awaited, fun _ good => good⟩

/-- Values may be written whatever they are. -/
theorem keeps_emit (station : Station) (value : Value) :
    (discipline line).Keeps held (fun _ => True) (station.emit value) (station.emit value) :=
  Station.emit_lockstep (fun _ => trivial) (keeps_of_still (fun _ => rfl) fun _ => trivial)
    fun _ (_ : True) => keeps_of_still (fun _ => rfl) fun _ => trivial

/-- A template that a tag loads is held until it is given back. -/
theorem loads {station : Station} (span : Span) (name : String)
    (stands : Stands held.handles line station) :
    (discipline line).Loads held station span name := by
  rintro world other ⟨rfl, sound⟩
  refine ⟨rfl, ?_⟩
  rw [Station.load_apply]
  cases found : world.catalogue.load world.host.files name (some (station.template.line span)) with
  | error fault => exact ⟨rfl, sound⟩
  | ok loaded =>
    have larger := sound.load found
    have stillHeld : ∀ handle ∈ line, handle ∈ (Held.of larger).handles := fun handle member =>
      List.mem_cons_of_mem _ (stands.held handle member)
    refine ⟨Held.of larger, ⟨⟨stands.own, stands.descent, stillHeld⟩, fun _ good => good, ?_, ?_⟩,
      ⟨rfl, larger⟩, ?_⟩
    · intro sites
      exact ⟨fun _ impossible => (nomatch impossible), List.mem_cons_self⟩
    · intro _ sites
      refine ⟨fun handle member => ?_, List.mem_cons_self⟩
      obtain ⟨base, isLine⟩ := stands.descent
      rcases List.mem_append.mp member with derived | isOwn
      · exact stillHeld handle (isLine ▸ List.mem_append_left _ derived)
      · have same : handle = station.handle := by simpa using isOwn
        exact same ▸ stillHeld _ stands.own
    · rintro after after' ⟨rfl, later⟩
      exact ⟨rfl, later.tail.release _⟩

/-- The discipline of a line is lawful. -/
theorem lawful : (discipline line).Lawful where
  text := fun _ _ => trivial
  bindable := fun _ => trivial
  bindableNone := trivial
  bindableBoolean := fun _ => trivial
  bindableInteger := fun _ => trivial
  bindableText := fun _ => trivial
  elements := fun _ _ _ => trivial
  evaluate := fun _ _ => keeps_of_still (fun _ => rfl) fun _ => trivial
  pattern := fun _ _ => keeps_of_still (fun _ => rfl) fun _ _ _ => trivial
  children := fun _ _ => keeps_of_still (fun _ => rfl) fun _ => trivial
  record := fun _ _ => keeps_of_still (fun _ => rfl) fun _ => trivial
  enclosing := keeps_of_still (fun _ => rfl) fun _ _ _ => trivial
  emit := fun _ _ => keeps_emit _ _
  write := fun _ => keeps_of_still (fun _ => rfl) fun _ => trivial
  removeSpace := fun _ => keeps_of_still (fun _ => rfl) fun _ => trivial
  assign := fun _ _ _ => keeps_of_still (fun _ => rfl) fun _ => trivial
  turn := fun _ => keeps_of_still (fun _ => rfl) fun _ => trivial
  note := fun _ => keeps_of_still (fun _ => rfl) fun _ => trivial
  writeFile := by
    intro held station span path text _
    refine keeps_of_still (fun world => ?_) fun _ => trivial
    obtain ⟨result, host, applied⟩ := station.writeFile_apply span path text world.host
    rw [applied world rfl]
  depthLimit := fun near => near.1 ▸ rfl
  outputDirectory := fun near => near.1 ▸ rfl
  scope := fun _ _ => passage_of_still (fun _ => rfl) (fun _ _ => rfl) within_refl fun _ => trivial
  capture := passage_of_still (fun _ => rfl) (fun _ _ => rfl) within_refl fun _ => ⟨rfl, trivial⟩
  mute := passage_of_still (fun _ => rfl) (fun _ _ => rfl)
    (fun _ stands => ⟨stands.own, stands.descent, stands.held⟩) fun _ => rfl
  file := fun _ => passage_of_still (fun _ => rfl) (fun _ _ => rfl) within_refl fun _ => rfl
  tabbed := passage_of_still (fun _ => rfl) (fun _ _ => rfl)
    (fun _ stands => ⟨stands.own, stands.descent, stands.held⟩) fun _ => trivial
  load := loads

/-- Definitions of a block belong to the line where a reference to it stands. -/
theorem supplies {station : Station} (name : String) (stands : Stands held.handles line station) :
    (discipline line).Supplies held station name (station.definitions name) := by
  intro definition member
  obtain ⟨base, isLine⟩ := stands.descent
  have inLine : definition ∈ line := by
    rcases Station.mem_definitions member with derived | rfl
    · exact isLine ▸ List.mem_append_left _ derived
    · exact stands.own
  refine ⟨⟨inLine, stands.descent, stands.held⟩, fun body found => ?_⟩
  exact definition.template.obeys_block _ (held.closed definition (stands.held definition inLine))
    name body found

/-- Expanding goals with the line at hand follows expanding them without it, if
definitions are found in a way that agrees with the station's. -/
theorem follows {resolve : Resolution} (agrees : Agrees resolve) (depth : Nat)
    (line : List Handle) :
    (discipline line).Follows (Stencil.expand depth) (expand resolve depth line) := by
  induction depth generalizing line with
  | zero =>
    exact Discipline.Follows.of_keeps fun _ _ _ => Run.Lockstep.halt _
  | succ depth inductionHypothesis =>
    constructor
    · intro held station awaited
      -- The template ends a line of its own, whatever the line around it is.
      have stands : Stands held.handles (station.derived ++ [station.handle]) station := by
        refine ⟨by simp, ⟨station.handle, rfl⟩, fun handle member => ?_⟩
        rcases List.mem_append.mp member with derived | isOwn
        · exact awaited.1 handle derived
        · have same : handle = station.handle := by simpa using isOwn
          exact same ▸ awaited.2
      have rendered := lawful.renderWhole
        (inductionHypothesis (station.derived ++ [station.handle])) stands
        (held.closed station.handle awaited.2)
      exact rendered
    · intro held station name stands defined
      show (discipline line).Keeps held (fun _ => True)
        (station.renderBlock (Stencil.expand depth) name (station.definitions name))
        (station.renderBlock (expand resolve depth line) name (resolve line station name))
      rw [agrees held line station name stands defined]
      exact lawful.renderBlock (inductionHypothesis line) stands (supplies name stands)
    · intro held station name definitions stands supplied
      exact lawful.renderBlock (inductionHypothesis line) stands supplied
    · intro held station nodes body stands good obeyed
      exact lawful.renderTree (inductionHypothesis line) stands good obeyed

/-- A rendering with the line at hand does what the rendering does, and the catalogue
stays sound. -/
theorem expand_whole {resolve : Resolution} (agrees : Agrees resolve) {world : World}
    {handles : List Handle} {handle : Handle} (sound : world.catalogue.Sound handles)
    (isHeld : handle ∈ handles) (limit : Nat) (line : List Handle) :
    Stencil.expand limit (.start handle) .whole world =
        expand resolve limit line (.start handle) .whole world ∧
      (Stencil.expand limit (.start handle) .whole world).2.catalogue.Sound handles := by
  have awaited : (discipline line).awaits (Held.of sound) (.start handle) :=
    ⟨fun _ impossible => (nomatch impossible), isHeld⟩
  rcases (follows agrees limit line).whole awaited world world ⟨rfl, sound⟩ with
    ⟨_, impossible, _⟩ | ⟨sameResult, ⟨sameWorld, later⟩, _⟩
  · exact impossible.elim
  · exact ⟨Prod.ext sameResult sameWorld, later⟩

end Lineage

end Stencil
