import Stencil.Proofs.Chronicle.Course
import Stencil.Proofs.Safety.Goals
import Stencil.Proofs.Shelf.Sources

/-!
# What a session offers to be rendered

A catalogue is ready for the rendering of a template if serial numbers tell the templates
apart, what stands on the shelf was compiled under the name that it stands under, and the
template itself was compiled, and stands on the shelf if it has a name. Whatever a session
was used for, its catalogue is ready for every template that it offers; and a rendering
keeps it so. In a ready catalogue the name tells the templates apart, too.
-/

namespace Stencil

namespace Catalogue

variable {catalogue after : Catalogue} {root handle other : Handle}

/-- What stands on the shelf was compiled under the name that it stands under. -/
def Labelled (catalogue : Catalogue) : Prop :=
  ∀ name handle, catalogue.shelved? name = some handle →
    ∃ arity? source, Template.compile arity? (some name) source = .ok handle.template

/-- So it is if what is new on the shelf was made from a source. -/
theorem Labelled.onward (labelled : catalogue.Labelled)
    (introduced : ∀ name handle, after.shelved? name = some handle →
      catalogue.shelved? name = some handle ∨ catalogue.Made name handle) : after.Labelled := by
  intro name handle there
  rcases introduced name handle there with before | made
  · exact labelled name handle before
  · obtain ⟨arity?, compiled⟩ := made.compiled
    exact ⟨arity?, _, compiled⟩

/-- So it is after some templates were lent. -/
theorem Labelled.lends (labelled : catalogue.Labelled) (lends : Lends catalogue after) :
    after.Labelled :=
  labelled.onward fun _ _ there => lends.introduced there

/-- The catalogue is ready for the rendering of a template. -/
structure Ready (catalogue : Catalogue) (root : Handle) : Prop where
  sound : catalogue.Sound [root]
  labelled : catalogue.Labelled
  compiled : root.template.Compiled
  current : ∀ name, root.template.name = some name → catalogue.shelved? name = some root

namespace Ready

variable (ready : catalogue.Ready root)
include ready

/-- A template that is known was compiled. -/
theorem compiled_of_knows (known : catalogue.Knows root handle) : handle.template.Compiled := by
  rcases known with rfl | ⟨name, there⟩
  · exact ready.compiled
  · obtain ⟨arity?, source, compiled⟩ := ready.labelled name handle there
    exact ⟨arity?, some name, source, compiled⟩

/-- The serial numbers tell templates that are known apart. -/
theorem eq_of_serial (known : catalogue.Knows root handle) (knownToo : catalogue.Knows root other)
    (same : handle.serial = other.serial) : handle = other := by
  have among : ∀ handle, catalogue.Knows root handle → handle ∈ catalogue.known [root] := by
    rintro handle (rfl | ⟨name, there⟩)
    · exact List.mem_cons_self
    · obtain ⟨shelved, found, rfl⟩ := Option.map_eq_some_iff.mp there
      exact mem_known_of_shelved found
  exact ready.sound.distinct handle (among handle known) other (among other knownToo) same

/-- A template that is known stands on the shelf under its name, if it has one; only the
first one may have none. -/
theorem shelved_of_knows (known : catalogue.Knows root handle) :
    (∃ name, handle.template.name = some name ∧ catalogue.shelved? name = some handle) ∨
      handle = root ∧ handle.template.name = none := by
  rcases known with rfl | ⟨name, there⟩
  · cases named : handle.template.name with
    | none => exact Or.inr ⟨rfl, rfl⟩
    | some name => exact Or.inl ⟨name, rfl, ready.current name named⟩
  · obtain ⟨arity?, source, compiled⟩ := ready.labelled name handle there
    exact Or.inl ⟨name, (Template.of_compile compiled).1, there⟩

/-- The names tell templates that are known apart. -/
theorem eq_of_name (known : catalogue.Knows root handle) (knownToo : catalogue.Knows root other)
    (same : handle.template.name = other.template.name) : handle = other := by
  rcases ready.shelved_of_knows known with ⟨name, named, there⟩ | ⟨isRoot, unnamed⟩
  · rcases ready.shelved_of_knows knownToo with ⟨_, namedToo, thereToo⟩ | ⟨_, unnamed⟩
    · obtain rfl := Option.some.inj ((named.symm.trans same).trans namedToo)
      exact Option.some.inj (there.symm.trans thereToo)
    · cases (named.symm.trans same).trans unnamed
  · rcases ready.shelved_of_knows knownToo with ⟨_, namedToo, _⟩ | ⟨isRootToo, _⟩
    · cases (unnamed.symm.trans same).trans namedToo
    · rw [isRoot, isRootToo]

end Ready

end Catalogue

/-- A rendering keeps a catalogue ready. -/
theorem Workshop.ready_renderInto {shop : Workshop} {handle : Handle}
    (ready : shop.catalogue.Ready handle) (limit : Nat) (sink : Sink) :
    (shop.renderInto limit handle sink).2.catalogue.Ready handle := by
  have lends := shop.lends_renderInto limit handle sink
  exact ⟨sound_renderInto ready.sound List.mem_cons_self limit sink, ready.labelled.lends lends,
    ready.compiled, fun name named => lends.keeps name handle (ready.current name named)⟩

namespace Session

variable {session after : Session} {handle : Handle}

/-- What a session offers to be rendered, with the catalogue that it is rendered with: a
template that is obtained just now, or one in a slot. -/
inductive Offers (session : Session) : Handle → Catalogue → Prop where
  | obtained {origin : Origin} {handle : Handle} {after : Session} :
      session.obtain? origin = .ok (handle, after) → Offers session handle after.shop.catalogue
  | held {slot : String} {handle : Handle} :
      session.slots.get? slot = some handle → Offers session handle session.shop.catalogue

/-- A session of which all templates were compiled, those on the shelf under their names. -/
structure Stocked (session : Session) : Prop where
  labelled : session.shop.catalogue.Labelled
  compiled : ∀ handle ∈ session.handles, handle.template.Compiled

/-- A handle that such a session gives is to a compiled template. -/
theorem Stocked.obtain? (stocked : session.Stocked) {origin : Origin}
    (given : session.obtain? origin = .ok (handle, after)) : handle.template.Compiled := by
  cases gives_of_obtain? given with
  | again held => exact stocked.compiled handle (mem_handles held)
  | loaded found =>
    rcases Catalogue.load_cases found with ⟨shelved, there, same, _⟩ | ⟨_, _, _, _, made, same, _⟩
    · obtain ⟨arity?, source, compiled⟩ := stocked.labelled _ shelved.handle
        (Option.map_eq_some_iff.mpr ⟨_, there, rfl⟩)
      exact same ▸ ⟨arity?, _, source, compiled⟩
    · exact same ▸ ⟨_, _, _, made⟩
  | compiled made => exact ⟨_, _, _, made⟩

/-- No step puts a handle into a slot but to a compiled template. -/
theorem Stocked.perform (stocked : session.Stocked) (counted : session.Counted) (step : Step) :
    ∀ handle ∈ (session.perform step).2.handles, handle.template.Compiled := by
  have kept : ∀ after : Session, after.slots = session.slots →
      ∀ handle ∈ after.handles, handle.template.Compiled := by
    intro after same
    rw [handles, same]
    exact stocked.compiled
  by_cases concerned : step.concernsTemplates = false
  · exact kept _ (perform_of_unconcerned session concerned).2
  cases step with
  | addTemplate name source =>
    unfold Session.perform Session.addTemplate
    intro handle member
    dsimp only at member
    split at member <;> cases member
  | removeTemplate name => exact List.forall_mem_nil _
  | addFilter name filter => exact List.forall_mem_nil _
  | setDirectory directory => exact List.forall_mem_nil _
  | setDepthLimit limit => exact List.forall_mem_nil _
  | take slot origin =>
    cases given : session.obtain? origin with
    | error answer =>
      simp only [Session.perform, given]
      exact kept session rfl
    | ok made =>
      obtain ⟨handle, between⟩ := made
      have slots : between.slots = session.slots := (counted.obtain? given).2.1
      have filled : (between.fill slot handle).slots = session.slots.put slot handle := by
        unfold Session.fill
        split <;> simp [slots, Session.release, Session.withCatalogue]
      simp only [Session.perform, given]
      intro other member
      rw [handles, filled] at member
      obtain ⟨entry, isEntry, rfl⟩ := List.mem_map.mp member
      rcases Named.mem_of_mem_put isEntry with rfl | earlier
      · exact stocked.obtain? given
      · exact stocked.compiled _ (List.mem_map_of_mem earlier)
  | unload slot =>
    cases found : session.slots.get? slot with
    | none =>
      simp only [Session.perform, found]
      exact kept session rfl
    | some handle =>
      simp only [Session.perform, found]
      intro other member
      obtain ⟨entry, isEntry, rfl⟩ := List.mem_map.mp member
      exact stocked.compiled _ (List.mem_map_of_mem (List.mem_filter.mp isEntry).1)
  | evict => exact kept _ rfl
  | render origin => exact kept _ (counted.render origin).slots
  | renderData slot data => exact kept _ (counted.renderData slot data).slots
  | renderToDevice slot room refusal =>
    exact kept _ (counted.renderToDevice slot room refusal).slots
  | _ => exact absurd rfl concerned

/-- Whatever a session was used for, all its templates were compiled. -/
theorem stocked_of_steps (steps : List Step) : (Session.empty.prepare steps).2.Stocked := by
  induction steps using List.reverseRecOn with
  | nil => exact ⟨fun _ _ impossible => (nomatch impossible), nofun⟩
  | append_singleton steps step inductionHypothesis =>
    refine ⟨fun name handle there => ?_, ?_⟩
    · obtain ⟨arity?, compiled⟩ := (sourced _ there).made.compiled
      exact ⟨arity?, _, compiled⟩
    · have counted := counted_empty.prepare steps
      have quiet : ({ (Session.empty.prepare steps).2 with
          shop := { (Session.empty.prepare steps).2.shop with
            host := (Session.empty.prepare steps).2.shop.host.withoutJournal } } :
          Session).Stocked := ⟨inductionHypothesis.labelled, inductionHypothesis.compiled⟩
      rw [prepare_append _ steps [step]]
      exact quiet.perform counted.quiet step

/-- Whatever a session was used for, its catalogue is ready for what it offers. -/
theorem ready_of_steps (steps : List Step) {catalogue : Catalogue}
    (offers : (Session.empty.prepare steps).2.Offers handle catalogue) :
    catalogue.Ready handle := by
  have counted := counted_empty.prepare steps
  have stocked := stocked_of_steps steps
  have only : ∀ {catalogue : Catalogue} {held : List Handle} {handle : Handle},
      catalogue.Counted held → handle ∈ held → catalogue.Sound [handle] := by
    intro catalogue held handle counted isHeld
    refine counted.toSound.restrict (fun other member => ?_) (Nat.le_refl _)
    rcases List.mem_append.mp member with isThis | onShelf
    · exact List.mem_append_left _ (List.mem_singleton.mp isThis ▸ isHeld)
    · exact List.mem_append_right _ onShelf
  cases offers with
  | @obtained origin _ after given =>
    obtain ⟨larger, _, _⟩ := counted.obtain? given
    exact ⟨only larger List.mem_cons_self, stocked.labelled.onward (introduced_obtain? given).2,
      stocked.obtain? given, larger.current handle List.mem_cons_self⟩
  | held found =>
    have isHeld := mem_handles found
    exact ⟨only counted.catalogue isHeld, stocked.labelled, stocked.compiled handle isHeld,
      counted.catalogue.current handle isHeld⟩

end Session

end Stencil
