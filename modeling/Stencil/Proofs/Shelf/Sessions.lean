import Stencil.Proofs.Sessions
import Stencil.Proofs.Shelf.Accounts

/-!
# The accounts of a session

The handles that a session holds are those in its slots. Whatever is done in a session,
one step after the other, the shelf counts these handles and no others. So taking unused
templates off the shelf takes exactly those that no slot has a handle to, and a rendering,
however it ends, changes no count and leaves the templates that it found without users.
-/

namespace Stencil

namespace Workshop

/-- A rendering lends templates, and gives them back. -/
theorem lends_renderInto (shop : Workshop) (limit : Nat) (handle : Handle) (sink : Sink) :
    Catalogue.Lends shop.catalogue (shop.renderInto limit handle sink).2.catalogue :=
  Catalogue.lends_expand limit (.start handle) .whole { shop with turns := [], sink := sink }

end Workshop

namespace Catalogue

/-- What became of the shelf if no count changed: what stood there stands there, with as
many users, and what is new there has none. -/
structure Uncharged (before after : Catalogue) : Prop where
  kept : ∀ name shelved, before.shelf.get? name = some shelved →
    after.shelf.get? name = some shelved
  fresh : ∀ name shelved, before.shelf.get? name = none →
    after.shelf.get? name = some shelved → shelved.users = 0

/-- Taking unused templates off the shelf has taken those that no handle is to, and has
told how many. -/
structure Evicted (before after : Catalogue) (held : List Handle) (answer : Answer) : Prop where
  shelf : after.shelf = before.shelf.filter fun entry => uses held entry.2.handle ≠ 0
  answer : answer = .number (before.shelf.countP fun entry => uses held entry.2.handle = 0)

end Catalogue

/-- The step has to do with the catalogue, or with handles. -/
def Step.concernsTemplates : Step → Bool
  | addTemplate _ _ | removeTemplate _ | addFilter _ _ | setDirectory _ | setDepthLimit _ => true
  | take _ _ | unload _ | evict => true
  | render _ | renderData _ _ | renderToDevice _ _ _ => true
  | _ => false

namespace Session

variable {session after : Session} {handle : Handle}

/-- The shelf counts the handles in the slots. -/
structure Counted (session : Session) : Prop where
  catalogue : session.shop.catalogue.Counted session.handles
  slots : Named.Ordered session.slots

/-- In the session with nothing in it there is nothing to count. -/
theorem counted_empty : Session.empty.Counted := ⟨.of_bare rfl, Named.ordered_nil⟩

namespace Counted

/-- What changes neither the catalogue nor the slots changes no count. -/
theorem still (counted : session.Counted)
    (catalogue : after.shop.catalogue = session.shop.catalogue)
    (slots : after.slots = session.slots) : after.Counted := by
  constructor
  · rw [handles, slots, catalogue]
    exact counted.catalogue
  · exact slots ▸ counted.slots

/-- Dropping handles one after the other leaves the others counted. -/
theorem dropping {others : List Handle} (dropped : List (String × Handle)) (session : Session)
    (counted : session.shop.catalogue.Counted (dropped.map Prod.snd ++ others)) :
    (dropped.foldl (fun session entry => session.release entry.2)
      session).shop.catalogue.Counted others := by
  induction dropped generalizing session with
  | nil => exact counted
  | cons entry rest inductionHypothesis =>
    exact inductionHypothesis (session.release entry.2) counted.release

/-- When all handles are dropped nothing is used. -/
theorem releaseAll (counted : session.Counted) : session.releaseAll.Counted := by
  refine ⟨dropping session.slots session ?_, Named.ordered_nil⟩
  exact (List.append_nil session.handles).symm ▸ counted.catalogue

/-- A handle that is counted may be put into a slot; one that was there is dropped. -/
theorem fill (counted : session.shop.catalogue.Counted (handle :: session.handles))
    (slots : Named.Ordered session.slots) (slot : String) : (session.fill slot handle).Counted := by
  unfold Session.fill
  cases found : session.slots.get? slot with
  | none =>
    refine ⟨counted.perm ?_, slots.put slot handle⟩
    exact ((Named.put_perm_of_none found handle).map Prod.snd).symm
  | some earlier =>
    obtain ⟨there, putting⟩ := slots.exchange found
    refine ⟨Catalogue.Counted.release (counted.perm ?_), slots.put slot handle⟩
    have filled := (putting handle).map Prod.snd
    have handles := there.map Prod.snd
    exact ((handles.cons handle).trans (List.Perm.swap _ _ _)).trans (filled.symm.cons earlier)

/-- A handle that a session gives is counted; no slot changes, and every template stays. -/
theorem obtain? (counted : session.Counted) {origin : Origin}
    (given : session.obtain? origin = .ok (handle, after)) :
    after.shop.catalogue.Counted (handle :: session.handles) ∧ after.slots = session.slots ∧
      session.shop.catalogue.Keeps after.shop.catalogue := by
  cases gives_of_obtain? given with
  | again held =>
    have isHeld := mem_handles held
    exact ⟨counted.catalogue.retain (List.mem_append_left _ isHeld)
      (counted.catalogue.current handle isHeld), rfl, Catalogue.keeps_recount _ _ _⟩
  | loaded found => exact ⟨counted.catalogue.load found, rfl, Catalogue.keeps_load found⟩
  | compiled made =>
    exact ⟨counted.catalogue.issue (Template.closed_of_compile made) (Template.of_compile made).1,
      rfl, fun _ _ there => there⟩

/-- A change of the catalogue that keeps the accounts right while no handle is held keeps
those of the session right. -/
theorem changeCatalogue (counted : session.Counted) {change : Catalogue → Catalogue}
    (keeps : ∀ catalogue : Catalogue, catalogue.Counted [] → (change catalogue).Counted []) :
    (session.changeCatalogue change).2.Counted :=
  ⟨keeps _ counted.releaseAll.catalogue, Named.ordered_nil⟩

/-- A template may be added. -/
theorem addTemplate (counted : session.Counted) (name source : String) :
    (session.addTemplate name source).2.Counted := by
  unfold Session.addTemplate
  cases added : session.releaseAll.shop.catalogue.addTemplate name source with
  | error fault =>
    simp only [added]
    exact counted.releaseAll
  | ok catalogue =>
    simp only [added]
    exact ⟨counted.releaseAll.catalogue.addTemplate added, Named.ordered_nil⟩

/-- A slot may be cleared. -/
theorem unload (counted : session.Counted) {slot : String}
    (found : session.slots.get? slot = some handle) :
    ({ session with slots := session.slots.drop slot }.release handle : Session).Counted := by
  have handles := (counted.slots.exchange found).1.map Prod.snd
  exact ⟨(counted.catalogue.perm handles).release, counted.slots.drop slot⟩

end Counted

/-- A step that leaves the handles of a session as they are, with the accounts right, and
keeps every template on the shelf. -/
structure Undisturbing (session after : Session) : Prop where
  counted : after.Counted
  slots : after.slots = session.slots
  keeps : session.shop.catalogue.Keeps after.shop.catalogue

/-- The accounts after some templates were lent and given back. -/
theorem Counted.lends (counted : session.Counted) (slots : after.slots = session.slots)
    (lends : session.shop.catalogue.Lends after.shop.catalogue) : session.Undisturbing after := by
  refine ⟨⟨?_, slots ▸ counted.slots⟩, slots, lends.keeps⟩
  rw [handles, slots]
  exact counted.catalogue.lends lends

/-- A rendering, however it ends, disturbs no account. -/
theorem Counted.render (counted : session.Counted) (origin : Origin) :
    session.Undisturbing (session.render origin).2 := by
  unfold Session.render
  cases given : session.obtain? origin with
  | error answer => exact ⟨counted, rfl, fun _ _ there => there⟩
  | ok made =>
    obtain ⟨handle, between⟩ := made
    obtain ⟨larger, slots, keeps⟩ := counted.obtain? given
    have lends : between.shop.catalogue.Lends (between.shop.render handle).2.catalogue :=
      between.shop.lends_renderInto expansionLimit handle (.buffer "")
    have released := (larger.lends lends).release
    refine ⟨⟨?_, ?_⟩, slots, keeps.trans (lends.keeps.trans (Catalogue.keeps_recount _ _ _))⟩
    · rw [handles]
      exact slots ▸ released
    · exact slots ▸ counted.slots

/-- So does one with a context of its own. -/
theorem Counted.renderData (counted : session.Counted) (slot : String) (data : Data) :
    session.Undisturbing (session.renderData slot data).2 := by
  have same : session.Undisturbing session := ⟨counted, rfl, fun _ _ there => there⟩
  have hosted : ∀ converted : Session, converted.shop.catalogue = session.shop.catalogue →
      converted.slots = session.slots → session.Undisturbing converted := by
    intro converted catalogue slots
    exact counted.lends slots (catalogue ▸ .nothing _)
  unfold Session.renderData
  cases found : session.slots.get? slot with
  | none => exact same
  | some handle =>
    simp only []
    split
    · rename_i cause converted failed
      exact hosted converted (congrArg (·.2.shop.catalogue) failed).symm
        (congrArg (·.2.slots) failed).symm
    · rename_i context converted made
      refine counted.lends (congrArg (·.2.slots) made).symm ?_
      have catalogue : converted.shop.catalogue = session.shop.catalogue :=
        (congrArg (·.2.shop.catalogue) made).symm
      have lends := Workshop.lends_renderInto { converted.shop with context := context }
        expansionLimit handle (.buffer "")
      exact catalogue ▸ lends

/-- And one to a device. -/
theorem Counted.renderToDevice (counted : session.Counted) (slot : String) (room : Nat)
    (refusal : FileError) : session.Undisturbing (session.renderToDevice slot room refusal).2 := by
  unfold Session.renderToDevice
  cases found : session.slots.get? slot with
  | none => exact ⟨counted, rfl, fun _ _ there => there⟩
  | some handle =>
    exact counted.lends rfl (session.shop.lends_renderInto expansionLimit handle _)

/-- A step that has nothing to do with templates touches neither the catalogue nor the
slots. -/
theorem perform_of_unconcerned (session : Session) {step : Step}
    (unconcerned : step.concernsTemplates = false) :
    (session.perform step).2.shop.catalogue = session.shop.catalogue ∧
      (session.perform step).2.slots = session.slots := by
  cases step with
  | inspect slot =>
    simp only [Session.perform]
    split <;> exact ⟨rfl, rfl⟩
  | contextOf data =>
    simp only [Session.perform]
    split
    · rename_i context converted made
      exact ⟨(congrArg (·.2.shop.catalogue) made).symm, (congrArg (·.2.slots) made).symm⟩
    · rename_i cause converted failed
      exact ⟨(congrArg (·.2.shop.catalogue) failed).symm, (congrArg (·.2.slots) failed).symm⟩
  | setEntry shared name value =>
    simp only [Session.perform, Session.changeEntries]
    split <;> exact ⟨rfl, rfl⟩
  | removeEntry shared name =>
    simp only [Session.perform, Session.changeEntries]
    split <;> exact ⟨rfl, rfl⟩
  | appendItem shared value =>
    simp only [Session.perform]
    split <;> exact ⟨rfl, rfl⟩
  | writeFile path bytes =>
    simp only [Session.perform, Session.changeFiles]
    split <;> exact ⟨rfl, rfl⟩
  | makeFolder path =>
    simp only [Session.perform, Session.changeFiles]
    split <;> exact ⟨rfl, rfl⟩
  | _ => first | exact ⟨rfl, rfl⟩ | cases unconcerned

/-- Every step keeps the accounts right. -/
theorem Counted.perform (counted : session.Counted) (step : Step) :
    (session.perform step).2.Counted := by
  by_cases concerned : step.concernsTemplates = false
  · obtain ⟨catalogue, slots⟩ := perform_of_unconcerned session concerned
    exact counted.still catalogue slots
  cases step with
  | addTemplate name source => exact counted.addTemplate name source
  | removeTemplate name =>
    refine counted.changeCatalogue fun catalogue empty => ?_
    have narrowed := empty.narrow (fun entry => entry.1 ≠ TemplateName.normal name)
      (fun _ _ _ impossible => nomatch impossible)
    exact narrowed.of_shelf rfl rfl
  | addFilter name filter =>
    exact counted.changeCatalogue fun catalogue empty => empty.of_shelf rfl rfl
  | setDirectory directory => exact counted.changeCatalogue fun catalogue _ => .of_bare rfl
  | setDepthLimit limit =>
    exact counted.changeCatalogue fun catalogue empty => empty.of_shelf rfl rfl
  | take slot origin =>
    cases given : session.obtain? origin with
    | error answer =>
      simp only [Session.perform, given]
      exact counted
    | ok made =>
      obtain ⟨handle, between⟩ := made
      obtain ⟨larger, slots, _⟩ := counted.obtain? given
      have same : between.handles = session.handles := congrArg (List.map Prod.snd) slots
      simp only [Session.perform, given]
      exact fill (same ▸ larger) (slots ▸ counted.slots) slot
  | unload slot =>
    cases found : session.slots.get? slot with
    | none =>
      simp only [Session.perform, found]
      exact counted
    | some handle =>
      simp only [Session.perform, found]
      exact counted.unload found
  | evict => exact ⟨counted.catalogue.evict, counted.slots⟩
  | render origin => exact (counted.render origin).counted
  | renderData slot data => exact (counted.renderData slot data).counted
  | renderToDevice slot room refusal => exact (counted.renderToDevice slot room refusal).counted
  | _ => exact absurd rfl concerned

/-- A session with an empty journal has the same accounts. -/
theorem Counted.quiet (counted : session.Counted) :
    ({ session with
      shop := { session.shop with host := session.shop.host.withoutJournal } } : Session).Counted :=
  counted.still rfl rfl

/-- So do several steps. -/
theorem Counted.prepare (counted : session.Counted) (steps : List Step) :
    (session.prepare steps).2.Counted := by
  induction steps generalizing session with
  | nil => exact counted
  | cons step rest inductionHypothesis => exact inductionHypothesis (counted.quiet.perform step)

/-- The accounts of a session, in full: every count on the shelf is the number of handles
to that very compilation, every handle under a name is to the template that stands there,
and the templates stand under their own, normal names. -/
structure Accounted (session : Session) : Prop where
  users : ∀ name shelved, session.shop.catalogue.shelf.get? name = some shelved →
    shelved.users = Catalogue.uses session.handles shelved.handle
  current : ∀ handle ∈ session.handles, ∀ name, handle.template.name = some name →
    session.shop.catalogue.shelved? name = some handle
  keyed : ∀ name shelved, session.shop.catalogue.shelf.get? name = some shelved →
    shelved.handle.template.name = some name ∧ TemplateName.normal name = name

/-- Where the shelf counts the handles, the accounts are right. -/
theorem Counted.accounted (counted : session.Counted) : session.Accounted :=
  ⟨counted.catalogue.users, counted.catalogue.current, counted.catalogue.keyed⟩

/-- A step that disturbs no account changes no count. -/
theorem Undisturbing.uncharged (undisturbing : session.Undisturbing after)
    (counted : session.Counted) : session.shop.catalogue.Uncharged after.shop.catalogue := by
  have handles : after.handles = session.handles :=
    congrArg (List.map Prod.snd) undisturbing.slots
  have users := undisturbing.counted.catalogue.users
  rw [handles] at users
  constructor
  · intro name shelved there
    have stands : session.shop.catalogue.shelved? name = some shelved.handle := by
      rw [Catalogue.shelved?, there]
      rfl
    obtain ⟨later, found, same⟩ :=
      Option.map_eq_some_iff.mp (undisturbing.keeps name shelved.handle stands)
    have equal : later.users = shelved.users := by
      rw [users name later found, same, counted.catalogue.users name shelved there]
    rw [found]
    obtain ⟨handle, count⟩ := later
    subst same equal
    rfl
  · intro name shelved missing found
    -- A handle to it would be to the template that stood under its name before.
    refine (undisturbing.counted.catalogue.users_eq_zero found).mpr fun isHeld => ?_
    have named := (undisturbing.counted.catalogue.keyed name shelved found).1
    have stood := counted.catalogue.current shelved.handle (handles ▸ isHeld) name named
    rw [Catalogue.shelved?, missing] at stood
    cases stood

/-- Where the shelf counts the handles, the templates that nobody uses are those that no
handle is to. -/
theorem Counted.evicted (counted : session.Counted) :
    session.shop.catalogue.Evicted session.evict.2.shop.catalogue session.handles
      session.evict.1 := by
  have users : ∀ entry ∈ session.shop.catalogue.shelf,
      entry.2.users = Catalogue.uses session.handles entry.2.handle := by
    intro entry member
    exact counted.catalogue.users entry.1 entry.2 (counted.catalogue.ordered.get?_of_mem member)
  refine ⟨List.filter_congr fun entry member => ?_, ?_⟩
  · rw [users entry member]
  · simp only [Session.evict, Catalogue.unused, Named.names, List.length_map,
      ← List.countP_eq_length_filter]
    exact congrArg Answer.number (List.countP_congr fun entry member => by rw [users entry member])

/-- Whatever a session was used for from the start on, its accounts are right; taking
unused templates off the shelf takes those that no handle is to; and a rendering, however
it ends, changes no count. -/
theorem accounts_of_steps (steps : List Step) :
    let session := (Session.empty.prepare steps).2
    let uncharged := fun step =>
      session.shop.catalogue.Uncharged (session.report step).2.shop.catalogue
    session.Accounted ∧
      session.shop.catalogue.Evicted (session.report .evict).2.shop.catalogue session.handles
        (session.report .evict).1.answer ∧
      (∀ origin, uncharged (.render origin)) ∧
      (∀ slot data, uncharged (.renderData slot data)) ∧
      ∀ slot room refusal, uncharged (.renderToDevice slot room refusal) := by
  intro session uncharged
  have counted : session.Counted := counted_empty.prepare steps
  have quiet := counted.quiet
  refine ⟨counted.accounted, quiet.evicted, ?_, ?_, ?_⟩
  · exact fun origin => (quiet.render origin).uncharged quiet
  · exact fun slot data => (quiet.renderData slot data).uncharged quiet
  · exact fun slot room refusal => (quiet.renderToDevice slot room refusal).uncharged quiet

end Session

end Stencil
