import Stencil.Proofs.Lineage
import Stencil.Session

/-!
# Sessions are sound

A session is sound if its catalogue is, with regard to the handles in the slots.
The empty session is, and every step keeps it so, renderings included: so whatever
a session was used for, the handles that it gives are to closed templates, and
their serial numbers tell them apart.
-/

namespace Stencil

namespace Workshop

variable {shop : Workshop} {handles : List Handle} {handle : Handle}

/-- A rendering of a template that is held keeps the catalogue sound. -/
theorem sound_renderInto (sound : shop.catalogue.Sound handles) (isHeld : handle ∈ handles)
    (limit : Nat) (sink : Sink) :
    (shop.renderInto limit handle sink).2.catalogue.Sound handles := by
  have agrees : Lineage.Agrees fun _ station name => station.definitions name :=
    fun _ _ _ _ _ _ => rfl
  exact (Lineage.expand_whole agrees sound isHeld limit []).2

/-- So does a rendering to a text. -/
theorem sound_render (sound : shop.catalogue.Sound handles) (isHeld : handle ∈ handles) :
    (shop.render handle).2.catalogue.Sound handles :=
  sound_renderInto sound isHeld expansionLimit (.buffer "")

end Workshop

namespace Source

/-- The source of a tag. -/
def tag (words : String) : String := "\x7b% " ++ words ++ " %\x7d"

/-- The source of a value that is written. -/
def hole (expression : String) : String := "\x7b\x7b " ++ expression ++ " \x7d\x7d"

/-- The source of a named block. -/
def block (name body : String) : String := tag ("block " ++ name) ++ body ++ tag "endblock"

end Source

namespace Session

variable {session after : Session} {handle : Handle}

/-- The handles in the slots. -/
def handles (session : Session) : List Handle := session.slots.map Prod.snd

/-- The catalogue is sound with regard to the handles in the slots. -/
def Sound (session : Session) : Prop := session.shop.catalogue.Sound session.handles

/-- The handle in a slot is held. -/
theorem mem_handles {slot : String} (found : session.slots.get? slot = some handle) :
    handle ∈ session.handles :=
  List.mem_map.mpr ⟨(slot, handle), Named.mem_of_get? found, rfl⟩

/-- Fewer handles need to be held. -/
theorem Sound.fewer (sound : session.Sound) {fewer : List Handle}
    (less : ∀ handle ∈ fewer, handle ∈ session.handles) :
    session.shop.catalogue.Sound fewer := by
  refine Catalogue.Sound.restrict sound ?_ (Nat.le_refl _)
  intro other member
  rcases List.mem_append.mp member with isHeld | onShelf
  · exact List.mem_append_left _ (less other isHeld)
  · exact List.mem_append_right _ onShelf

/-- Dropping handles changes no slot, and keeps the catalogue sound. -/
theorem release_all (handles : List Handle) (dropped : List (String × Handle)) (session : Session)
    (sound : session.shop.catalogue.Sound handles) :
    (dropped.foldl (fun session entry => session.release entry.2)
      session).shop.catalogue.Sound handles := by
  induction dropped generalizing session with
  | nil => exact sound
  | cons entry rest inductionHypothesis =>
    exact inductionHypothesis (session.release entry.2) (sound.release entry.2)

/-- With all handles dropped a session is sound. -/
theorem Sound.releaseAll (sound : session.Sound) : session.releaseAll.Sound := by
  have none : session.shop.catalogue.Sound [] :=
    sound.fewer fun handle impossible => nomatch impossible
  exact release_all [] session.slots session none

/-- A handle that is held may be put into a slot. -/
theorem sound_fill (sound : session.shop.catalogue.Sound (handle :: session.handles))
    (slot : String) : (session.fill slot handle).Sound := by
  have filled : ({ session with slots := session.slots.put slot handle } : Session).Sound := by
    refine Catalogue.Sound.restrict sound ?_ (Nat.le_refl _)
    intro other member
    rcases List.mem_append.mp member with inSlot | onShelf
    · obtain ⟨entry, isEntry, rfl⟩ := List.mem_map.mp inSlot
      refine List.mem_append_left _ ?_
      rcases Named.mem_of_mem_put isEntry with rfl | earlier
      · exact List.mem_cons_self
      · exact List.mem_cons_of_mem _ (List.mem_map_of_mem earlier)
    · exact List.mem_append_right _ onShelf
  rw [fill]
  cases session.slots.get? slot with
  | none => exact filled
  | some earlier => exact Catalogue.Sound.release filled earlier

/-- How a session comes to a handle, and what it is afterwards: there is one more handle to
the template in a slot, a template was loaded, which is noted, or one was compiled that
stands nowhere. -/
inductive Gives (session : Session) : Origin → Handle → Session → Prop
  | again {slot : String} {handle : Handle} (held : session.slots.get? slot = some handle) :
      Gives session (.slot slot) handle
        (session.withCatalogue (session.shop.catalogue.retain handle))
  | loaded {name : String} {line : Option Nat} {loaded : Loaded}
      (found : session.shop.catalogue.load session.shop.host.files name line = .ok loaded) :
      Gives session (.name name line) loaded.handle
        ((session.withCatalogue loaded.catalogue).hosted (Host.note loaded.record)).2
  | compiled {source : String} {template : Template}
      (made : Template.compile session.shop.catalogue.arity? none source = .ok template) :
      Gives session (.source source) ⟨session.shop.catalogue.issued, template⟩
        (session.withCatalogue
          { session.shop.catalogue with issued := session.shop.catalogue.issued + 1 })

/-- There is no other way. -/
theorem gives_of_obtain? {origin : Origin}
    (given : session.obtain? origin = .ok (handle, after)) : session.Gives origin handle after := by
  cases origin with
  | slot slot =>
    cases held : session.slots.get? slot with
    | none =>
      simp only [obtain?, held] at given
      cases given
    | some own =>
      simp only [obtain?, held] at given
      cases given
      exact .again held
  | name name line =>
    cases found : session.shop.catalogue.load session.shop.host.files name line with
    | error fault =>
      simp only [obtain?, found] at given
      cases given
    | ok loaded =>
      simp only [obtain?, found] at given
      cases given
      exact .loaded found
  | source source =>
    cases compiled : session.shop.catalogue.compile none source with
    | error fault =>
      simp only [obtain?, compiled] at given
      cases given
    | ok made =>
      obtain ⟨own, catalogue⟩ := made
      obtain ⟨template, made, rfl, rfl⟩ := Catalogue.compile_cases compiled
      simp only [obtain?, compiled] at given
      cases given
      exact .compiled made

/-- A handle that a session gives may be held, and changes no slot. -/
theorem Sound.obtain? (sound : session.Sound) {origin : Origin}
    (given : session.obtain? origin = .ok (handle, after)) :
    after.shop.catalogue.Sound (handle :: session.handles) ∧ after.slots = session.slots := by
  cases gives_of_obtain? given with
  | again held =>
    have isHeld : handle ∈ session.shop.catalogue.known session.handles :=
      List.mem_append_left _ (mem_handles held)
    exact ⟨(Catalogue.Sound.hold sound isHeld).retain handle, rfl⟩
  | loaded found => exact ⟨Catalogue.Sound.load sound found, rfl⟩
  | compiled made =>
    exact ⟨Catalogue.Sound.issue sound (Template.closed_of_compile made), rfl⟩

/-- A rendering keeps a session sound. -/
theorem Sound.render (sound : session.Sound) (origin : Origin) :
    (session.render origin).2.Sound := by
  rw [Session.render]
  cases given : session.obtain? origin with
  | error answer => exact sound
  | ok made =>
    obtain ⟨handle, between⟩ := made
    obtain ⟨larger, slots⟩ := sound.obtain? given
    have rendered := Workshop.sound_render larger List.mem_cons_self
    have same : between.handles = session.handles := congrArg (List.map Prod.snd) slots
    rw [← same] at rendered
    exact rendered.tail.release handle

/-- A change of the catalogue keeps a session sound if it knows no more handles and
has given out no fewer numbers. -/
theorem Sound.changeCatalogue (sound : session.Sound) {change : Catalogue → Catalogue}
    (keeps : ∀ catalogue : Catalogue, catalogue.Sound [] → (change catalogue).Sound []) :
    (session.changeCatalogue change).2.Sound :=
  keeps _ sound.releaseAll

/-- Fewer templates on the shelf are no harm. -/
theorem sound_of_shelf {catalogue smaller : Catalogue} {handles : List Handle}
    (sound : catalogue.Sound handles) (shelf : ∀ entry ∈ smaller.shelf, entry ∈ catalogue.shelf)
    (issued : smaller.issued = catalogue.issued) : smaller.Sound handles :=
  sound.reshelve (fun entry member => Catalogue.known_of_shelf (shelf entry member) handles) issued

/-- A template may be added. -/
theorem Sound.addTemplate (sound : session.Sound) (name source : String) :
    (session.addTemplate name source).2.Sound := by
  unfold Session.addTemplate Catalogue.addTemplate
  cases compiled :
      session.releaseAll.shop.catalogue.compile (some (TemplateName.normal name)) source with
  | error fault =>
    simp only [compiled]
    exact sound.releaseAll
  | ok made =>
    obtain ⟨handle, catalogue⟩ := made
    simp only [compiled]
    have made := Catalogue.Sound.compile sound.releaseAll compiled
    have shelved := made.shelve List.mem_cons_self (TemplateName.normal name) 0
    exact sound_of_shelf shelved.tail (fun _ member => member) rfl

/-- What changes neither the catalogue nor the slots keeps a session sound. -/
theorem Sound.still (sound : session.Sound)
    (catalogue : after.shop.catalogue = session.shop.catalogue)
    (slots : after.slots = session.slots) : after.Sound := by
  unfold Sound handles
  rw [catalogue, slots]
  exact sound

/-- A step about shared entries does not touch the catalogue. -/
theorem Sound.changeEntries (sound : session.Sound) (shared : String)
    (change : Named Value → Answer × Named Value) :
    (session.changeEntries shared change).2.Sound := by
  rw [Session.changeEntries]
  split
  · exact sound.still rfl rfl
  · exact sound

/-- A step about files does not touch it either. -/
theorem Sound.changeFiles (sound : session.Sound) (changed : Except Cause Unit × Files) :
    (session.changeFiles changed).2.Sound := by
  unfold Session.changeFiles
  split <;> exact sound.still rfl rfl

/-- A rendering with a context of its own keeps a session sound. -/
theorem Sound.renderData (sound : session.Sound) (slot : String) (data : Data) :
    (session.renderData slot data).2.Sound := by
  rw [Session.renderData]
  cases found : session.slots.get? slot with
  | none => exact sound
  | some handle =>
    simp only []
    split
    · rename_i cause converted failed
      exact sound.still (congrArg (·.2.shop.catalogue) failed).symm
        (congrArg (·.2.slots) failed).symm
    · rename_i context converted made
      have still : converted.Sound := sound.still (congrArg (·.2.shop.catalogue) made).symm
        (congrArg (·.2.slots) made).symm
      have isHeld : handle ∈ converted.handles := by
        have slots : converted.slots = session.slots := (congrArg (·.2.slots) made).symm
        rw [handles]
        rw [slots]
        exact mem_handles found
      exact @Workshop.sound_render { converted.shop with context := context } _ handle still isHeld

/-- So does a rendering to a device. -/
theorem Sound.renderToDevice (sound : session.Sound) (slot : String) (room : Nat)
    (refusal : FileError) : (session.renderToDevice slot room refusal).2.Sound := by
  rw [Session.renderToDevice]
  cases found : session.slots.get? slot with
  | none => exact sound
  | some handle => exact Workshop.sound_renderInto sound (mem_handles found) expansionLimit _

/-- Every step keeps a session sound. -/
theorem Sound.perform (sound : session.Sound) (step : Step) : (session.perform step).2.Sound := by
  cases step with
  | addTemplate name source => exact sound.addTemplate name source
  | removeTemplate name =>
    refine sound.changeCatalogue fun catalogue empty => ?_
    exact sound_of_shelf empty (fun _ member => (List.mem_filter.mp member).1) rfl
  | addFilter name filter =>
    exact sound.changeCatalogue fun catalogue empty =>
      sound_of_shelf empty (fun _ member => member) rfl
  | setDirectory directory =>
    refine sound.changeCatalogue fun catalogue empty => ?_
    exact sound_of_shelf empty (fun _ impossible => nomatch impossible) rfl
  | setDepthLimit limit =>
    exact sound.changeCatalogue fun catalogue empty =>
      sound_of_shelf empty (fun _ member => member) rfl
  | take slot origin =>
    cases given : session.obtain? origin with
    | error answer =>
      simp only [Session.perform, given]
      exact sound
    | ok made =>
      obtain ⟨handle, between⟩ := made
      obtain ⟨larger, slots⟩ := sound.obtain? given
      have same : between.handles = session.handles := congrArg (List.map Prod.snd) slots
      simp only [Session.perform, given]
      rw [← same] at larger
      exact sound_fill larger slot
  | unload slot =>
    cases found : session.slots.get? slot with
    | none =>
      simp only [Session.perform, found]
      exact sound
    | some handle =>
      simp only [Session.perform, found]
      have dropped : session.shop.catalogue.Sound ((session.slots.drop slot).map Prod.snd) := by
        refine sound.fewer fun other member => ?_
        obtain ⟨entry, isEntry, rfl⟩ := List.mem_map.mp member
        exact List.mem_map_of_mem (List.mem_filter.mp isEntry).1
      exact dropped.release handle
  | inspect slot =>
    simp only [Session.perform]
    split <;> exact sound
  | evict => exact sound_of_shelf sound (fun _ member => (List.mem_filter.mp member).1) rfl
  | render origin => exact sound.render origin
  | renderData slot data => exact sound.renderData slot data
  | renderToDevice slot room refusal => exact sound.renderToDevice slot room refusal
  | contextOf data =>
    simp only [Session.perform]
    split
    · rename_i context converted made
      exact sound.still (congrArg (·.2.shop.catalogue) made).symm (congrArg (·.2.slots) made).symm
    · rename_i cause converted failed
      exact sound.still (congrArg (·.2.shop.catalogue) failed).symm
        (congrArg (·.2.slots) failed).symm
  | setEntry shared name value => exact sound.changeEntries shared _
  | removeEntry shared name => exact sound.changeEntries shared _
  | appendItem shared value =>
    simp only [Session.perform]
    split
    · exact sound.still rfl rfl
    · exact sound
  | writeFile path bytes => exact sound.changeFiles _
  | makeFolder path => exact sound.changeFiles _
  | isShelved name => exact sound
  | directory => exact sound
  | describeCatalogue => exact sound
  | newContext => exact sound
  | set name value => exact sound
  | push => exact sound
  | pop => exact sound
  | get name => exact sound
  | find name => exact sound
  | setOutputDirectory directory => exact sound
  | outputDirectory => exact sound
  | setEscapePolicy extension policy => exact sound
  | selectPolicy extension => exact sound
  | setSpaceless policy => exact sound
  | describeContext => exact sound
  | listFiles folder => exact sound

/-- So do several steps. -/
theorem Sound.prepare (sound : session.Sound) (steps : List Step) :
    (session.prepare steps).2.Sound := by
  induction steps generalizing session with
  | nil => exact sound
  | cons step rest inductionHypothesis =>
    refine inductionHypothesis ?_
    have quiet : ({ session with
        shop := { session.shop with host := session.shop.host.withoutJournal } } : Session).Sound :=
      sound.still rfl rfl
    exact quiet.perform step

end Session

end Stencil
