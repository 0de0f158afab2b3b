import Mathlib.Data.List.Induction
import Stencil.Proofs.Shelf.Reading
import Stencil.Proofs.Shelf.Sessions

/-!
# The sources of templates

A session knows the source that was last added under a name, and the template that stands
on the shelf under that name was compiled from it, whatever happened in between. Where no
source was added, or it was removed, the template was read from the template directory,
in the step that put it on the shelf, and the directory has been the same since then.
What fails changes nothing.
-/

namespace Stencil

namespace Step

/-- The step sets the template directory. -/
def setsDirectory : Step → Bool
  | setDirectory _ => true
  | _ => false

/-- The source that is known under a name after a step that was answered, with the one
before. -/
def adds (step : Step) (answer : Answer) (name : String) (known : Option String) :
    Option String :=
  match step with
  | addTemplate other source =>
    if TemplateName.normal other = name ∧ answer.isFailure = false then some source else known
  | removeTemplate other => if TemplateName.normal other = name then none else known
  | _ => known

end Step

namespace Session

variable {session after : Session} {name : String} {handle : Handle} {step : Step}

/-- The source that was last added under a name in steps, and not removed since. -/
def lastAdded (session : Session) (name : String) (known : Option String) :
    List Step → Option String
  | [] => known
  | step :: rest =>
    let done := session.report step
    done.2.lastAdded name (step.adds done.1.answer name known) rest

/-- The session where a template cannot be compiled. -/
def stopping (session : Session) (name : String) : Session :=
  session.withCatalogue (session.shop.catalogue.stopping name)

/-- The files as they are when a step asks for a template: as it leaves them if it is
stopped there. -/
def filesAsked (session : Session) (step : Step) (name : String) : Files :=
  ((session.stopping name).report step).2.shop.host.files

/-- The template is not there before a step, and there is no source for it; after the step
it is on the shelf. -/
structure Introduces (session : Session) (step : Step) (name source : String) : Prop where
  unread : session.shop.catalogue.Unread name
  shelved : ∃ handle, (session.report step).2.shop.catalogue.shelved? name = some handle ∧
    handle.template.source = source

/-- In one of the steps the template was read from the template directory and put on the
shelf. The directory was not set again in this step or later. -/
def ReadFrom (steps : List Step) (name source : String) : Prop :=
  ∃ earlier step later, steps = earlier ++ step :: later ∧
    (∀ other ∈ step :: later, other.setsDirectory = false) ∧
    (Session.empty.prepare earlier).2.Introduces step name source ∧
    (Session.empty.prepare steps).2.shop.catalogue.readFile
      ((Session.empty.prepare earlier).2.filesAsked step name) name = .ok source

/-- Steps are performed one after the other. -/
theorem prepare_append (session : Session) (steps others : List Step) :
    (session.prepare (steps ++ others)).2 = ((session.prepare steps).2.prepare others).2 := by
  induction steps generalizing session with
  | nil => rfl
  | cons step rest inductionHypothesis => exact inductionHypothesis _

/-- To drop all handles is to give back one after the other. -/
theorem catalogue_releaseAll (session : Session) :
    session.releaseAll.shop.catalogue =
      session.slots.foldl (fun catalogue entry => catalogue.release entry.2)
        session.shop.catalogue := by
  have dropping : ∀ (dropped : List (String × Handle)) (session : Session),
      (dropped.foldl (fun session entry => session.release entry.2) session).shop.catalogue =
        dropped.foldl (fun catalogue entry => catalogue.release entry.2)
          session.shop.catalogue := by
    intro dropped
    induction dropped with
    | nil => exact fun _ => rfl
    | cons entry rest inductionHypothesis =>
      exact fun session => inductionHypothesis (session.release entry.2)
  exact dropping session.slots session

/-- Dropping all handles changes nothing but counts. -/
theorem recounted_releaseAll (session : Session) :
    session.shop.catalogue.Recounted session.releaseAll.shop.catalogue := by
  have dropping : ∀ (dropped : List (String × Handle)) (catalogue : Catalogue),
      catalogue.Recounted
        (dropped.foldl (fun catalogue entry => catalogue.release entry.2) catalogue) := by
    intro dropped
    induction dropped with
    | nil => exact fun catalogue => .refl catalogue
    | cons entry rest inductionHypothesis =>
      exact fun catalogue =>
        (Catalogue.recounted_recount catalogue entry.2 (· - 1)).trans (inductionHypothesis _)
  rw [catalogue_releaseAll]
  exact dropping session.slots session.shop.catalogue

/-- A step about the catalogue drops all handles first. -/
@[simp] theorem catalogue_changeCatalogue (session : Session) (change : Catalogue → Catalogue) :
    (session.changeCatalogue change).2.shop.catalogue = change session.releaseAll.shop.catalogue :=
  rfl

/-- Data are converted without the catalogue. -/
theorem convert_eq {α : Type} (session : Session) (conversion : Conversion α) :
    ∃ result host, ∀ catalogue, (session.withCatalogue catalogue).convert conversion =
      (result, { session with
        shop := { session.shop with catalogue := catalogue, host := host } }) :=
  ⟨(session.convert conversion).1, (session.convert conversion).2.shop.host, fun _ => rfl⟩

/-- Filling a slot changes nothing but counts, either. -/
theorem recounted_fill (session : Session) (slot : String) (handle : Handle) :
    session.shop.catalogue.Recounted (session.fill slot handle).shop.catalogue := by
  unfold fill
  split
  · rename_i earlier _
    exact Catalogue.recounted_recount session.shop.catalogue earlier (· - 1)
  · exact .refl session.shop.catalogue

/-- What a session has to do to give a handle changes no setting, and a template that is new
on the shelf was made. -/
theorem introduced_obtain? {origin : Origin}
    (given : session.obtain? origin = .ok (handle, after)) :
    session.shop.catalogue.Settled after.shop.catalogue ∧
      ∀ name found, after.shop.catalogue.shelved? name = some found →
        session.shop.catalogue.shelved? name = some found ∨
          session.shop.catalogue.Made name found := by
  cases gives_of_obtain? given with
  | again held =>
    have retained := Catalogue.recounted_recount session.shop.catalogue handle (· + 1)
    exact ⟨retained.toSettled, fun name found there => Or.inl (retained.shelved name ▸ there)⟩
  | loaded found =>
    exact ⟨Catalogue.settled_load found,
      fun name other there => Catalogue.introduced_load found there⟩
  | compiled made => exact ⟨⟨rfl, rfl, rfl, rfl⟩, fun name found there => Or.inl there⟩

/-- A handle is obtained in the same way where a template cannot be compiled that is not
asked for. -/
theorem obtain?_stopping (unread : session.shop.catalogue.Unread name) (origin : Origin) :
    (∀ handle after, session.obtain? origin = .ok (handle, after) →
        (session.stopping name).obtain? origin = .ok (handle, after.stopping name) ∧
          after.shop.catalogue.Unread name) ∨
      (∃ answer, (session.stopping name).obtain? origin = .error answer) ∧
        ∀ handle after, session.obtain? origin = .ok (handle, after) →
          after.shop.catalogue.shelved? name = some handle ∧
            session.shop.catalogue.readFile session.shop.host.files name =
              .ok handle.template.source := by
  cases origin with
  | slot slot =>
    refine Or.inl fun handle after given => ?_
    cases gives_of_obtain? given with
    | again held =>
      refine ⟨?_, unread.recount _ _⟩
      have retained := session.shop.catalogue.recount_stopping name handle (· + 1)
      have there : (session.stopping name).slots.get? slot = some handle := held
      simp only [Session.obtain?, there]
      exact congrArg (fun catalogue => Except.ok (handle, session.withCatalogue catalogue)) retained
  | name asked line =>
    by_cases isThis : TemplateName.normal asked = name
    · refine Or.inr ⟨?_, fun handle after given => ?_⟩
      · obtain ⟨fault, refused⟩ : ∃ fault, (session.stopping name).shop.catalogue.load
            (session.stopping name).shop.host.files asked line = .error fault :=
          Catalogue.load_stopping_self unread isThis
        exact ⟨.halted (.fault fault), by simp only [Session.obtain?, refused]⟩
      · cases gives_of_obtain? given with
        | loaded found =>
          refine ⟨?_, Catalogue.readFile_of_load unread isThis found⟩
          have there := Catalogue.shelved?_load found name
          rwa [if_pos isThis.symm] at there
    · refine Or.inl fun handle after given => ?_
      have elsewhere : (session.stopping name).shop.catalogue.load
          (session.stopping name).shop.host.files asked line =
            (session.shop.catalogue.load session.shop.host.files asked line).map fun loaded =>
              { loaded with catalogue := loaded.catalogue.stopping name } :=
        Catalogue.load_stopping_of_ne isThis
      cases gives_of_obtain? given with
      | loaded found =>
        rw [found] at elsewhere
        refine ⟨?_, unread.load isThis found⟩
        simp only [Session.obtain?, elsewhere]
        rfl
  | source source =>
    refine Or.inl fun handle after given => ?_
    cases gives_of_obtain? given with
    | @compiled _ template made =>
      have same : Template.compile (session.stopping name).shop.catalogue.arity? none source =
          .ok template := made
      refine ⟨?_, ⟨unread.unlisted, unread.unshelved⟩⟩
      simp only [Session.obtain?, Catalogue.compile, same]
      rfl

/-- What a step does to sources and templates, told by its answer: the sources are those
that were added; the directory stays, unless it is set; and what is on the shelf afterwards
was there and has the same source as before, or was made just now, from the source that was
added, or else from what the directory held at the moment. -/
structure Follows (session : Session) (step : Step) (answer : Answer) (after : Session) :
    Prop where
  directory : step.setsDirectory = false →
    after.shop.catalogue.directory = session.shop.catalogue.directory
  sources : ∀ name, after.shop.catalogue.sources.get? name =
    step.adds answer name (session.shop.catalogue.sources.get? name)
  shelved : ∀ name handle, after.shop.catalogue.shelved? name = some handle →
    (step.setsDirectory = false ∧ session.shop.catalogue.shelved? name = some handle ∧
      after.shop.catalogue.sources.get? name = session.shop.catalogue.sources.get? name) ∨
    after.shop.catalogue.Made name handle ∧
      (after.shop.catalogue.sources.get? name = none →
        step.setsDirectory = false ∧ session.shop.catalogue.Unread name ∧
          session.shop.catalogue.readFile ((session.stopping name).perform step).2.shop.host.files
            name = .ok handle.template.source)

namespace Follows

variable {answer : Answer}

/-- A step that puts nothing on the shelf, and adds and removes no source. -/
theorem of_fewer (plain : step.setsDirectory = false)
    (adds : ∀ name known, step.adds answer name known = known)
    (directory : after.shop.catalogue.directory = session.shop.catalogue.directory)
    (sources : after.shop.catalogue.sources = session.shop.catalogue.sources)
    (fewer : after.shop.catalogue.Keeps session.shop.catalogue) :
    session.Follows step answer after where
  directory _ := directory
  sources name := by rw [adds, sources]
  shelved name handle there := Or.inl ⟨plain, fewer name handle there, by rw [sources]⟩

/-- A step that loads templates. -/
theorem of_lending (plain : step.setsDirectory = false)
    (adds : ∀ name known, step.adds answer name known = known)
    (settled : session.shop.catalogue.Settled after.shop.catalogue)
    (keeps : session.shop.catalogue.Keeps after.shop.catalogue)
    (introduced : ∀ name handle, after.shop.catalogue.shelved? name = some handle →
      session.shop.catalogue.shelved? name = some handle ∨
        session.shop.catalogue.Made name handle)
    (read : ∀ name handle, session.shop.catalogue.Unread name →
      after.shop.catalogue.shelved? name = some handle →
        session.shop.catalogue.readFile ((session.stopping name).perform step).2.shop.host.files
          name = .ok handle.template.source) :
    session.Follows step answer after where
  directory _ := settled.directory
  sources name := by rw [adds, settled.sources]
  shelved name handle there := by
    rcases introduced name handle there with before | made
    · exact Or.inl ⟨plain, before, by rw [settled.sources]⟩
    · cases before : session.shop.catalogue.shelved? name with
      | some earlier =>
        have same := (keeps name earlier before).symm.trans there
        exact Or.inl ⟨plain, same, by rw [settled.sources]⟩
      | none =>
        refine Or.inr ⟨made.of_sources (by rw [settled.sources]), fun unlisted => ?_⟩
        rw [settled.sources] at unlisted
        exact ⟨plain, ⟨unlisted, before⟩, read name handle ⟨unlisted, before⟩ there⟩

/-- A template that is added takes the place of an earlier one, and so does its source; one
that is flawed is not added. -/
theorem addTemplate (session : Session) (other source : String) :
    session.Follows (.addTemplate other source) (session.addTemplate other source).1
      (session.addTemplate other source).2 := by
  have dropped := session.recounted_releaseAll
  unfold Session.addTemplate
  cases added : session.releaseAll.shop.catalogue.addTemplate other source with
  | error fault =>
    simp only [added]
    refine ⟨fun _ => dropped.directory, fun name => ?_, fun name handle there => ?_⟩
    · simp [Step.adds, Answer.isFailure, dropped.sources]
    · exact Or.inl ⟨rfl, dropped.shelved name ▸ there, by rw [dropped.sources]⟩
  | ok catalogue =>
    obtain ⟨template, made, rfl⟩ := Catalogue.addTemplate_cases added
    have compiled := (Template.of_compile made).2
    simp only [added]
    have listed : ∀ name, (session.releaseAll.shop.catalogue.sources.put
        (TemplateName.normal other) source).get? name =
          if TemplateName.normal other = name then some source
          else session.shop.catalogue.sources.get? name := by
      intro name
      split
      · rename_i isThis
        rw [isThis, Named.get?_put_self]
      · rename_i isOther
        rw [Named.get?_put_of_ne _ _ _ _ (Ne.symm isOther), dropped.sources]
    refine ⟨fun _ => dropped.directory, fun name => ?_, fun name handle there => ?_⟩
    · simpa [Step.adds, Answer.isFailure, Session.withCatalogue] using listed name
    · simp only [Session.withCatalogue] at there ⊢
      by_cases isThis : TemplateName.normal other = name
      · subst isThis
        simp only [Catalogue.shelved?, Catalogue.shelve, Named.get?_put_self, Option.map_some,
          Option.some.injEq] at there
        subst there
        refine Or.inr ⟨⟨⟨_, compiled.symm ▸ made⟩, fun known isKnown => ?_⟩, fun unlisted => ?_⟩
        · simp only [Named.get?_put_self, Option.some.injEq] at isKnown
          exact compiled.trans isKnown
        · simp at unlisted
      · have isOther : name ≠ TemplateName.normal other := Ne.symm isThis
        simp only [Catalogue.shelved?, Catalogue.shelve, Named.get?_put_of_ne _ _ _ _ isOther]
          at there
        refine Or.inl ⟨rfl, ?_, ?_⟩
        · rw [← dropped.shelved]
          exact there
        · simp only [listed, isThis, if_false]

/-- A template that is removed is forgotten, and so is its source. -/
theorem removeTemplate (session : Session) (other : String) :
    session.Follows (.removeTemplate other) .done
      (session.changeCatalogue (·.removeTemplate other)).2 := by
  have dropped := session.recounted_releaseAll
  have kept : ∀ name, name ≠ TemplateName.normal other →
      (session.releaseAll.shop.catalogue.removeTemplate other).sources.get? name =
        session.shop.catalogue.sources.get? name := by
    intro name isOther
    rw [Catalogue.removeTemplate, Named.get?_drop_of_ne _ _ _ isOther, dropped.sources]
  refine ⟨fun _ => dropped.directory, fun name => ?_, fun name handle there => ?_⟩
  · by_cases isThis : TemplateName.normal other = name
    · simp [Step.adds, isThis, Catalogue.removeTemplate]
    · simpa [Step.adds, isThis] using kept name (Ne.symm isThis)
  · rw [catalogue_changeCatalogue] at there
    have isOther : name ≠ TemplateName.normal other := by
      intro isThis
      simp [Catalogue.removeTemplate, Catalogue.shelved?, isThis] at there
    rw [Catalogue.shelved?, Catalogue.removeTemplate, Named.get?_drop_of_ne _ _ _ isOther] at there
    exact Or.inl ⟨rfl, (dropped.shelved name).symm.trans there, kept name isOther⟩

/-- A handle that is put into a slot may be to a template that was loaded for it. -/
theorem take (counted : session.Counted) (slot : String) (origin : Origin) :
    session.Follows (.take slot origin) (session.perform (.take slot origin)).1
      (session.perform (.take slot origin)).2 := by
  cases given : session.obtain? origin with
  | error answer =>
    simp only [Session.perform, given]
    exact of_fewer rfl (fun _ _ => rfl) rfl rfl fun _ _ there => there
  | ok made =>
    obtain ⟨handle, between⟩ := made
    obtain ⟨_, _, keeps⟩ := counted.obtain? given
    have filled := between.recounted_fill slot handle
    simp only [Session.perform, given]
    refine of_lending rfl (fun _ _ => rfl) ?_ ?_ ?_ ?_
    · exact (introduced_obtain? given).1.trans filled.toSettled
    · exact fun name found there => (filled.shelved name).trans (keeps name found there)
    · intro name found there
      exact (introduced_obtain? given).2 name found ((filled.shelved name).symm.trans there)
    · intro name found unread there
      rw [filled.shelved] at there
      rcases obtain?_stopping unread origin with goesOn | ⟨⟨answer, stops⟩, introduces⟩
      · rw [(goesOn handle between given).2.unshelved] at there
        cases there
      · obtain ⟨stands, read⟩ := introduces handle between given
        cases stands.symm.trans there
        simp only [Session.perform, stops]
        exact read

/-- A rendering may load templates, for its own handle and on the way. -/
theorem render (counted : session.Counted) (origin : Origin) :
    session.Follows (.render origin) (session.render origin).1 (session.render origin).2 := by
  have keeps := (counted.render origin).keeps
  cases given : session.obtain? origin with
  | error answer =>
    simp only [Session.render, given]
    exact of_fewer rfl (fun _ _ => rfl) rfl rfl fun _ _ there => there
  | ok made =>
    obtain ⟨handle, between⟩ := made
    obtain ⟨settled, introduced⟩ := introduced_obtain? given
    have lends : between.shop.catalogue.Lends (between.shop.render handle).2.catalogue :=
      between.shop.lends_renderInto expansionLimit handle (.buffer "")
    have released := Catalogue.recounted_recount (between.shop.render handle).2.catalogue handle
      (· - 1)
    refine of_lending rfl (fun _ _ => rfl) ?_ keeps ?_ ?_
    · simp only [Session.render, given]
      exact settled.trans (lends.settled.trans released.toSettled)
    · intro name found there
      simp only [Session.render, given] at there
      rcases lends.introduced ((released.shelved name).symm.trans there) with before | made
      · exact introduced name found before
      · exact Or.inr (made.of_sources (by rw [settled.sources]))
    · intro name found unread there
      simp only [Session.render, given] at there
      have there := (released.shelved name).symm.trans there
      rcases obtain?_stopping unread origin with goesOn | ⟨⟨answer, stops⟩, introduces⟩
      · obtain ⟨same, stillUnread⟩ := goesOn handle between given
        have read := Workshop.read_renderInto stillUnread expansionLimit handle (.buffer "") there
        rw [Catalogue.readFile_of_directory settled.directory] at read
        simp only [Session.perform, Session.render, same]
        exact read
      · obtain ⟨stands, read⟩ := introduces handle between given
        cases (lends.keeps name handle stands).symm.trans there
        simp only [Session.perform, Session.render, stops]
        exact read

/-- So may one with a context of its own. -/
theorem renderData (counted : session.Counted) (slot : String) (data : Data) :
    session.Follows (.renderData slot data) (session.renderData slot data).1
      (session.renderData slot data).2 := by
  have keeps := (counted.renderData slot data).keeps
  cases found : session.slots.get? slot with
  | none =>
    simp only [Session.renderData, found]
    exact of_fewer rfl (fun _ _ => rfl) rfl rfl fun _ _ there => there
  | some handle =>
    obtain ⟨result, host, converts⟩ := session.convert_eq (Context.ofData data)
    have here : session.convert (Context.ofData data) = _ := converts session.shop.catalogue
    cases result with
    | error cause =>
      simp only [Session.renderData, found, here]
      exact of_fewer rfl (fun _ _ => rfl) rfl rfl fun _ _ there => there
    | ok context =>
      have lends : session.shop.catalogue.Lends
          ((⟨session.shop.catalogue, context, host⟩ : Workshop).render handle).2.catalogue :=
        Workshop.lends_renderInto ⟨session.shop.catalogue, context, host⟩ expansionLimit handle
          (.buffer "")
      refine of_lending rfl (fun _ _ => rfl) ?_ keeps ?_ ?_
      · simp only [Session.renderData, found, here]
        exact lends.settled
      · intro name other there
        simp only [Session.renderData, found, here] at there
        exact lends.introduced there
      · intro name other unread there
        simp only [Session.renderData, found, here] at there
        have held : (session.stopping name).slots.get? slot = some handle := found
        have same : (session.stopping name).convert (Context.ofData data) = _ :=
          converts (session.shop.catalogue.stopping name)
        simp only [Session.perform, Session.renderData, held, same]
        exact @Workshop.read_renderInto ⟨session.shop.catalogue, context, host⟩ name unread
          expansionLimit handle (.buffer "") other there

/-- So may one to a device. -/
theorem renderToDevice (counted : session.Counted) (slot : String) (room : Nat)
    (refusal : FileError) :
    session.Follows (.renderToDevice slot room refusal)
      (session.renderToDevice slot room refusal).1
      (session.renderToDevice slot room refusal).2 := by
  have keeps := (counted.renderToDevice slot room refusal).keeps
  cases found : session.slots.get? slot with
  | none =>
    simp only [Session.renderToDevice, found]
    exact of_fewer rfl (fun _ _ => rfl) rfl rfl fun _ _ there => there
  | some handle =>
    have lends := session.shop.lends_renderInto expansionLimit handle
      (.device (.greedy room refusal) none)
    refine of_lending rfl (fun _ _ => rfl) ?_ keeps ?_ ?_
    · simp only [Session.renderToDevice, found]
      exact lends.settled
    · intro name other there
      simp only [Session.renderToDevice, found] at there
      exact lends.introduced there
    · intro name other unread there
      simp only [Session.renderToDevice, found] at there
      have held : (session.stopping name).slots.get? slot = some handle := found
      simp only [Session.perform, Session.renderToDevice, held]
      exact Workshop.read_renderInto unread expansionLimit handle _ there

/-- What every step does to sources and templates. -/
theorem perform (counted : session.Counted) (step : Step) :
    session.Follows step (session.perform step).1 (session.perform step).2 := by
  have dropped := session.recounted_releaseAll
  by_cases concerned : step.concernsTemplates = false
  · obtain ⟨catalogue, _⟩ := perform_of_unconcerned session concerned
    refine of_fewer ?_ ?_ (by rw [catalogue]) (by rw [catalogue]) fun _ _ there => catalogue ▸ there
    · cases step with
      | setDirectory directory => cases concerned
      | _ => rfl
    · cases step with
      | addTemplate other source => cases concerned
      | removeTemplate other => cases concerned
      | _ => exact fun _ _ => rfl
  cases step with
  | addTemplate other source => exact addTemplate session other source
  | removeTemplate other => exact removeTemplate session other
  | addFilter other filter =>
    exact of_fewer rfl (fun _ _ => rfl) dropped.directory dropped.sources
      fun name handle there => (dropped.shelved name).symm.trans there
  | setDirectory directory =>
    exact ⟨fun impossible => (nomatch impossible),
      fun name => congrArg (Named.get? · name) dropped.sources,
      fun _ _ impossible => (nomatch impossible)⟩
  | setDepthLimit limit =>
    exact of_fewer rfl (fun _ _ => rfl) dropped.directory dropped.sources
      fun name handle there => (dropped.shelved name).symm.trans there
  | take slot origin => exact take counted slot origin
  | unload slot =>
    cases found : session.slots.get? slot with
    | none =>
      simp only [Session.perform, found]
      exact of_fewer rfl (fun _ _ => rfl) rfl rfl fun _ _ there => there
    | some handle =>
      simp only [Session.perform, found]
      have released := Catalogue.recounted_recount session.shop.catalogue handle (· - 1)
      exact of_fewer rfl (fun _ _ => rfl) released.directory released.sources
        fun name other there => (released.shelved name).symm.trans there
  | evict =>
    refine of_fewer rfl (fun _ _ => rfl) rfl rfl fun name handle there => ?_
    obtain ⟨shelved, found, same⟩ := Option.map_eq_some_iff.mp there
    have stays := (counted.catalogue.ordered.get?_filter _).symm.trans found
    rw [Option.filter_eq_some_iff] at stays
    exact Option.map_eq_some_iff.mpr ⟨shelved, stays.1, same⟩
  | render origin => exact render counted origin
  | renderData slot data => exact renderData counted slot data
  | renderToDevice slot room refusal => exact renderToDevice counted slot room refusal
  | _ => exact absurd rfl concerned

end Follows

/-- The sources that a session knows are those that were added last. -/
theorem sources_prepare (counted : session.Counted) (name : String) (steps : List Step) :
    (session.prepare steps).2.shop.catalogue.sources.get? name =
      session.lastAdded name (session.shop.catalogue.sources.get? name) steps := by
  induction steps generalizing session with
  | nil => rfl
  | cons step rest inductionHypothesis =>
    have follows := Follows.perform counted.quiet step
    have later := inductionHypothesis (counted.quiet.perform step)
    rw [follows.sources name] at later
    exact later

/-- What was read from the template directory in a step is still so after another one that
does not set it. -/
theorem ReadFrom.onward {steps : List Step} {source : String} (read : ReadFrom steps name source)
    (counted : (Session.empty.prepare steps).2.Counted) (plain : step.setsDirectory = false) :
    ReadFrom (steps ++ [step]) name source := by
  obtain ⟨earlier, reading, later, rfl, stays, introduces, found⟩ := read
  refine ⟨earlier, reading, later ++ [step], by simp, ?_, introduces, ?_⟩
  · intro other member
    rw [← List.cons_append, List.mem_append, List.mem_singleton] at member
    rcases member with among | rfl
    · exact stays other among
    · exact plain
  · have follows := Follows.perform counted.quiet step
    have directory := follows.directory plain
    rw [prepare_append, ← found]
    exact Catalogue.readFile_of_directory directory _ name

/-- The template on the shelf was made from the source there is, or read in one of the
steps. -/
structure Sourced (steps : List Step) (name : String) (handle : Handle) : Prop where
  made : (Session.empty.prepare steps).2.shop.catalogue.Made name handle
  read : (Session.empty.prepare steps).2.shop.catalogue.sources.get? name = none →
    ReadFrom steps name handle.template.source

/-- Whatever was done in a session, this is so for every template on the shelf. -/
theorem sourced (steps : List Step)
    (there : (Session.empty.prepare steps).2.shop.catalogue.shelved? name = some handle) :
    Sourced steps name handle := by
  induction steps using List.reverseRecOn generalizing handle with
  | nil => cases there
  | append_singleton steps step inductionHypothesis =>
    have counted := counted_empty.prepare steps
    have follows := Follows.perform counted.quiet step
    have performed : (Session.empty.prepare (steps ++ [step])).2 =
        ((Session.empty.prepare steps).2.report step).2 := prepare_append _ steps [step]
    rw [performed] at there
    rcases follows.shelved name handle there with ⟨plain, before, sources⟩ | ⟨made, read⟩
    · obtain ⟨made, read⟩ := inductionHypothesis before
      refine ⟨?_, fun unlisted => ?_⟩
      · rw [performed]
        exact made.of_sources sources
      · rw [performed] at unlisted
        exact (read (sources.symm.trans unlisted)).onward counted plain
    · refine ⟨by rw [performed]; exact made, fun unlisted => ?_⟩
      rw [performed] at unlisted
      obtain ⟨plain, unread, found⟩ := read unlisted
      refine ⟨steps, step, [], rfl, ?_, ⟨unread, handle, there, rfl⟩, ?_⟩
      · simpa using plain
      · rw [performed, ← found]
        exact Catalogue.readFile_of_directory (follows.directory plain) _ name

/-- A template that is loaded by a name stands on the shelf afterwards; one that cannot be
loaded leaves the catalogue as it is. -/
theorem report_take_name (session : Session) (slot asked : String) (line : Option Nat) :
    (∃ handle, (session.report (.take slot (.name asked line))).1.answer = .handle handle ∧
        (session.report (.take slot (.name asked line))).2.shop.catalogue.shelved?
          (TemplateName.normal asked) = some handle) ∨
      ∃ halt, (session.report (.take slot (.name asked line))).1.answer = .halted halt ∧
        (session.report (.take slot (.name asked line))).2.shop.catalogue =
          session.shop.catalogue := by
  cases found : session.shop.catalogue.load session.shop.host.files asked line with
  | error fault =>
    refine Or.inr ⟨.fault fault, ?_, ?_⟩ <;>
      simp [report, Session.perform, Session.obtain?, Host.withoutJournal, found]
  | ok loaded =>
    refine Or.inl ⟨loaded.handle, ?_, ?_⟩
    · simp [report, Session.perform, Session.obtain?, Host.withoutJournal, found]
    · have there := Catalogue.shelved?_load found (TemplateName.normal asked)
      rw [if_pos rfl] at there
      simp only [report, Session.perform, Session.obtain?, Host.withoutJournal, found,
        (recounted_fill _ slot loaded.handle).shelved]
      exact there

/-- The sources of loaded templates. Whatever was done in a session from the start on, a
template that is loaded by a name has the source that was last added under it; and if none
was, or it was removed, it was read from the directory that the session has now. A template
that cannot be loaded, or added, changes nothing, but that the handles were dropped before
it was to be added. -/
theorem source_of_load (steps : List Step) (slot asked : String) (line : Option Nat)
    (other source : String) :
    let session := (Session.empty.prepare steps).2
    let load := Step.take slot (.name asked line)
    let name := TemplateName.normal asked
    (match (session.report load).1.answer, Session.empty.lastAdded name none steps with
      | .handle handle, some source =>
        handle.template.name = some name ∧ handle.template.source = source
      | .handle handle, none =>
        handle.template.name = some name ∧ ReadFrom (steps ++ [load]) name handle.template.source
      | _, _ => (session.report load).2.shop.catalogue = session.shop.catalogue) ∧
    ((session.report (.addTemplate other source)).1.answer = .done ∨
      (session.report (.addTemplate other source)).2.shop.catalogue =
        session.releaseAll.shop.catalogue) := by
  intro session load name
  have counted : session.Counted := counted_empty.prepare steps
  have listed : session.shop.catalogue.sources.get? name =
      Session.empty.lastAdded name none steps :=
    sources_prepare counted_empty name steps
  constructor
  · rcases session.report_take_name slot asked line with
      ⟨handle, answered, there⟩ | ⟨halt, answered, unchanged⟩
    · rw [answered]
      have after : (Session.empty.prepare (steps ++ [load])).2 = (session.report load).2 :=
        prepare_append _ steps [load]
      have follows := Follows.perform counted.quiet load
      have sources : (session.report load).2.shop.catalogue.sources.get? name =
          session.shop.catalogue.sources.get? name := follows.sources name
      obtain ⟨made, read⟩ := sourced (steps ++ [load]) (after ▸ there)
      rw [after, sources, listed] at read
      obtain ⟨arities, compiled⟩ := made.compiled
      have named := (Template.of_compile compiled).1
      cases known : Session.empty.lastAdded name none steps with
      | some source =>
        refine ⟨named, made.listed source ?_⟩
        rw [after, sources, listed, known]
      | none => exact ⟨named, read known⟩
    · rw [answered]
      exact unchanged
  · have dropped : ({ session with shop := { session.shop with
        host := session.shop.host.withoutJournal } } : Session).releaseAll.shop.catalogue =
          session.releaseAll.shop.catalogue := by
      rw [catalogue_releaseAll, catalogue_releaseAll]
    simp only [report, Session.perform, Session.addTemplate]
    split
    · exact Or.inl rfl
    · exact Or.inr dropped

end Session

end Stencil
