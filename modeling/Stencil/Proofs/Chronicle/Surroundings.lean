import Stencil.Proofs.Chronicle.Observances
import Stencil.Proofs.Chronicle.Openings
import Stencil.Policy.Stock

/-!
# What surrounds a moment

A value is written as the tags around it want it: without being escaped in a message, with
tabbing on in a region of it, under another policy in a file that is created. Here it is
shown that nothing else makes a difference: where none of these tags is around a moment,
the moment is like the start in that regard. The other way round, all that lies within a
message is not escaped, and all that lies within a region with tabbing has it on.
-/

namespace Stencil

namespace Stmt

/-- The statement is a message. -/
def isMessage : Stmt → Bool
  | .within .message _ => true
  | _ => false

/-- The statement is a region with tabbing. -/
def isTabbing : Stmt → Bool
  | .within .tabbing _ => true
  | _ => false

/-- The statement creates a file. -/
def isCreate : Stmt → Bool
  | .create .. => true
  | _ => false

/-- A statement that creates a file has its two expressions and its span. -/
theorem eq_of_isCreate {statement : Stmt} (creates : statement.isCreate = true) :
    ∃ target template span, statement = .create target template span := by
  cases statement <;> cases creates
  exact ⟨_, _, _, rfl⟩

end Stmt

namespace Context

/-- The active policy is told that tabbing is switched, and no other is. -/
theorem get?_switchTabbing (context : Context) (on : Bool) (extension : String) :
    (context.switchTabbing on).2.escapers.get? extension =
      (context.escapers.get? extension).map fun escaper =>
        escaper.after (if context.active = some extension then [.tabbing on] else []) := by
  unfold switchTabbing
  split
  · rename_i active escaper found
    obtain ⟨isActive, registered⟩ := activeEscaper?_eq_some found
    by_cases isThis : extension = active
    · subst isThis
      simp [Named.get?_put_self, registered, isActive, Escaper.switchTabbing, Escaper.after]
    · simp [Named.get?_put_of_ne _ _ _ _ isThis, isActive, Ne.symm isThis, Escaper.after]
  · rename_i unused
    by_cases isActive : context.active = some extension
    · have unregistered : context.escapers.get? extension = none := by
        simpa [activeEscaper?, isActive] using unused
      simp [unregistered]
    · simp [isActive, Escaper.after]

end Context

namespace Observance

/-- Whether values are escaped is as it was, outside of messages that have them not
escaped. -/
def loudness : Observance Bool where
  tabbing := false
  admits loud station := station.escaping = loud
  shuts loud _ statement := loud = true ∧ statement.isMessage = true
  sees loud _ moment := moment.station.escaping = loud

/-- Whether tabbing is on is as it was, outside of regions that switch it on. -/
def switching : Observance Bool where
  tabbing := false
  admits on station := station.tabbing = on
  shuts on station statement :=
    on = false ∧ statement.isTabbing = true ∧ station.tabbing = false
  sees on _ moment := moment.station.tabbing = on

/-- The active policy is the one that was active, outside of files that are created. -/
def selection : Observance Unit where
  tabbing := false
  admits _ _ := True
  shuts _ _ statement := statement.isCreate = true
  sees _ world moment := moment.world.context.active = world.context.active

/-- The policies are those that were registered, after further uses. -/
def usage : Observance Unit where
  tabbing := false
  admits _ _ := True
  shuts _ _ _ := False
  sees _ world moment := ∀ extension, ∃ uses, moment.world.context.escapers.get? extension =
    (world.context.escapers.get? extension).map fun escaper => escaper.after uses

/-- The policies were told of tabbing what they may be told where it is on, or where it is
off and outside of regions that switch it on. -/
def hearing (tabbing : Bool) : Observance Unit where
  tabbing := tabbing
  admits _ station := station.tabbing = tabbing
  shuts _ station statement :=
    tabbing = false ∧ statement.isTabbing = true ∧ station.tabbing = false
  sees _ world moment := ∀ extension, ∃ uses, EscapeUse.Told tabbing uses ∧
    moment.world.context.escapers.get? extension =
      (world.context.escapers.get? extension).map fun escaper => escaper.after uses

/-- The tags that have led somewhere have led to all that is executed there. -/
def leading : Observance (List Site) where
  tabbing := false
  admits sites station := sites <+: station.sites
  shuts _ _ _ := False
  sees sites _ moment := sites <+: moment.station.sites

/-- Loudness is kept. -/
theorem loudness_sound : loudness.Sound where
  tabbing _ impossible := nomatch impossible
  moves admitted escaping _ _ := escaping.trans admitted
  muted {loud _ _} _ unshut := by
    cases loud with
    | true => exact absurd ⟨rfl, rfl⟩ unshut
    | false => rfl
  switched admitted _ _ := ⟨admitted, fun _ _ sees => sees⟩
  selected _ _ _ _ _ sees := sees
  own _ _ admitted := admitted
  carried _ sees := sees

/-- So is whether tabbing is on. -/
theorem switching_sound : switching.Sound where
  tabbing _ impossible := nomatch impossible
  moves admitted _ tabbing _ := tabbing.trans admitted
  muted admitted _ := admitted
  switched admitted off unshut := absurd ⟨admitted.symm.trans off, rfl, off⟩ unshut
  selected _ _ _ _ _ sees := sees
  own _ _ admitted := admitted
  carried _ sees := sees

/-- So is the active policy. -/
theorem selection_sound : selection.Sound where
  tabbing _ impossible := nomatch impossible
  moves _ _ _ _ := trivial
  muted _ _ := trivial
  switched _ _ _ := by
    refine ⟨trivial, fun world moment sees => Eq.trans sees ?_⟩
    show (world.context.switchTabbing true).2.active = _
    unfold Context.switchTabbing
    split <;> rfl
  selected _ unshut := absurd rfl unshut
  own _ _ _ := rfl
  carried used sees := Eq.trans sees used.active

/-- So are the policies. -/
theorem usage_sound : usage.Sound where
  tabbing _ impossible := nomatch impossible
  moves _ _ _ _ := trivial
  muted _ _ := trivial
  switched {_ _ _} _ _ _ := by
    refine ⟨trivial, fun world moment sees extension => ?_⟩
    obtain ⟨later, found⟩ := sees extension
    have switched := world.context.get?_switchTabbing true extension
    refine ⟨later ++ if world.context.active = some extension then [.tabbing true] else [], ?_⟩
    rw [found, show (Run.switchTabbing true world).context.escapers.get? extension = _ from
      switched, Option.map_map]
    simp [Function.comp_def, Escaper.after]
  selected _ _ _ _ _ sees := sees
  own _ _ _ _ := ⟨[], by simp [Escaper.after]⟩
  carried {_ world after moment} used sees extension := by
    obtain ⟨uses, -, found⟩ := used.told extension
    obtain ⟨later, foundLater⟩ := sees extension
    refine ⟨later ++ uses, ?_⟩
    rw [foundLater, found, Option.map_map]
    simp [Function.comp_def, Escaper.after]

/-- So is what policies were told of tabbing. -/
theorem hearing_sound (tabbing : Bool) : (hearing tabbing).Sound where
  tabbing admitted on := admitted.trans on
  moves admitted _ same _ := same.trans admitted
  muted admitted _ := admitted
  switched admitted off unshut := absurd ⟨admitted.symm.trans off, rfl, off⟩ unshut
  selected _ _ _ _ _ sees := sees
  own _ _ _ _ := ⟨[], EscapeUse.told_of_silent rfl, by simp [Escaper.after]⟩
  carried {_ world after moment} used sees extension := by
    obtain ⟨uses, told, found⟩ := used.told extension
    obtain ⟨later, toldLater, foundLater⟩ := sees extension
    refine ⟨later ++ uses, toldLater.append told, ?_⟩
    rw [foundLater, found, Option.map_map]
    simp [Function.comp_def, Escaper.after]

/-- So are the tags that have led somewhere. -/
theorem leading_sound : leading.Sound where
  tabbing _ impossible := nomatch impossible
  moves admitted _ _ longer := admitted.trans longer
  muted admitted _ := admitted
  switched admitted _ _ := ⟨admitted, fun _ _ sees => sees⟩
  selected _ _ _ _ _ sees := sees
  own _ _ admitted := admitted
  carried _ sees := sees

end Observance

namespace Moment

open Account

variable {inner : Moment} {station : Station} {world : World} {body : List Stmt} {depth : Nat}

/-- Within a message lies what its body is made of, with values not escaped. -/
theorem told_of_message
    (told : inner.event ∈ inside ⟨station, .within .message body, world⟩ depth) :
    inner.event ∈ (executeAllTold (expandTold depth) { station with escaping := false } body).events
      { world with sink := .buffer "" } := by
  rcases mem_events_bind.mp (show inner.event ∈ (station.withinTold (expandTold depth) .message body
    fun inner => executeAllTold (expandTold depth) inner body).events world from told) with
    first | ⟨_, _, _, impossible⟩
  · exact first
  · cases impossible

/-- Within a region with tabbing lies what its body is made of, where tabbing is on. -/
theorem told_of_tabbing (off : station.tabbing = false)
    (told : inner.event ∈ inside ⟨station, .within .tabbing body, world⟩ depth) :
    inner.event ∈ (executeAllTold (expandTold depth) { station with tabbing := true } body).events
      (Run.switchTabbing true world) := by
  have member : inner.event ∈ (station.withinTold (expandTold depth) .tabbing body
    fun inner => executeAllTold (expandTold depth) inner body).events world := told
  simp only [Station.withinTold, off, Bool.false_eq_true, if_false] at member
  exact member

/-- A region where tabbing is on already changes nothing. -/
theorem told_of_tabbing_on (on : station.tabbing = true)
    (told : inner.event ∈ inside ⟨station, .within .tabbing body, world⟩ depth) :
    inner.event ∈ (executeAllTold (expandTold depth) station body).events world := by
  have member : inner.event ∈ (station.withinTold (expandTold depth) .tabbing body
    fun inner => executeAllTold (expandTold depth) inner body).events world := told
  simp only [Station.withinTold, on, if_true] at member
  exact member

namespace Within

variable {outer : Moment}

/-- Nothing within a message is escaped. -/
theorem escaping (within : inner.Within outer) (isMessage : outer.statement.isMessage = true) :
    inner.station.escaping = false := by
  obtain ⟨depth, told⟩ := within
  obtain ⟨station, statement, world⟩ := outer
  cases statement with
  | within region body =>
    cases region with
    | message =>
      have keeps := Observance.loudness_sound.executeAll depth body
        (show Observance.loudness.admits false { station with escaping := false } from rfl)
      rcases (keeps _).2 inner (told_of_message told) with sees | ⟨_, _, ⟨impossible, _⟩, _⟩
      · exact sees
      · cases impossible
    | _ => cases isMessage
  | _ => cases isMessage

/-- Tabbing is on throughout a region with tabbing. -/
theorem tabbing (within : inner.Within outer) (isTabbing : outer.statement.isTabbing = true) :
    inner.station.tabbing = true := by
  obtain ⟨depth, told⟩ := within
  obtain ⟨station, statement, world⟩ := outer
  cases statement with
  | within region body =>
    cases region with
    | tabbing =>
      have keeps : ∀ station : Station, station.tabbing = true →
          Observance.switching.tenor.Keeps true (executeAllTold (expandTold depth) station body) :=
        fun _ on => Observance.switching_sound.executeAll depth body on
      have sees : ∀ {station : Station} {world : World}, station.tabbing = true →
          inner.event ∈ (executeAllTold (expandTold depth) station body).events world →
          inner.station.tabbing = true := by
        intro station world on told
        rcases (keeps station on world).2 inner told with sees | ⟨_, _, ⟨impossible, _⟩, _⟩
        · exact sees
        · cases impossible
      cases on : station.tabbing with
      | false => exact sees rfl (told_of_tabbing on told)
      | true => exact sees on (told_of_tabbing_on on told)
    | _ => cases isTabbing
  | _ => cases isTabbing

/-- What lies within a tag that creates a file is led to by one tag more, at least. -/
theorem sites (within : inner.Within outer) (isCreate : outer.statement.isCreate = true) :
    outer.station.sites.length < inner.station.sites.length := by
  obtain ⟨depth, told⟩ := within
  obtain ⟨station, statement, world⟩ := outer
  cases statement with
  | create target template span =>
    obtain ⟨opening, opens, toldThere⟩ := mem_inside_create.mp told
    obtain ⟨_, _, _, isStation, _, _⟩ := of_opening opens
    have admitted : Observance.leading.admits opening.station.sites opening.station :=
      List.prefix_refl _
    have keeps := Observance.leading_sound.follows depth _ opening.station .whole admitted
    rcases (keeps _).2 inner toldThere with sees | ⟨_, _, impossible, _⟩
    · have longer : opening.station.sites.length = station.sites.length + 1 := by
        rw [isStation]
        simp [Station.into]
      have atLeast : opening.station.sites.length ≤ inner.station.sites.length := sees.length_le
      show station.sites.length < inner.station.sites.length
      omega
    · cases impossible
  | _ => cases isCreate

end Within

end Moment

end Stencil
