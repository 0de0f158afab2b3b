import Stencil.Proofs.Shelf.Lending

/-!
# Where templates are read

A template that is not on the shelf and has no source of its own is read from the template
directory when a rendering asks for it first. What the files were like at that moment is
told by the same rendering in a world where the template cannot be compiled: it does the
same until it asks for the template, and stops there. So every template that is new on the
shelf has for its source what the directory held at the moment at which it was asked for.
-/

namespace Stencil

namespace Catalogue

variable {catalogue : Catalogue} {files : Files} {name asked : String} {line : Option Nat}

/-- A hole that is not closed. -/
def unclosed : String := "\x7b\x7b"

/-- No template can be compiled from it, whatever filters there are. -/
theorem compile_unclosed (arity? : String → Option Arity) (name : Option String) :
    ∃ flaw, Template.compile arity? name unclosed = .error flaw := by
  have failed : (Template.compile arity? name unclosed).toOption.isNone = true := rfl
  cases compiled : Template.compile arity? name unclosed with
  | error flaw => exact ⟨flaw, rfl⟩
  | ok template =>
    rw [compiled] at failed
    cases failed

/-- The catalogue with a source under a name that no template can be compiled from. -/
def stopping (catalogue : Catalogue) (name : String) : Catalogue :=
  { catalogue with sources := catalogue.sources.put name unclosed }

/-- No template stands under the name, and no source. -/
structure Unread (catalogue : Catalogue) (name : String) : Prop where
  unlisted : catalogue.sources.get? name = none
  unshelved : catalogue.shelved? name = none

/-- Who asks for that template is stopped. -/
theorem load_stopping_self (unread : catalogue.Unread name)
    (isThis : TemplateName.normal asked = name) :
    ∃ fault, (catalogue.stopping name).load files asked line = .error fault := by
  have missing : catalogue.shelf.get? name = none := by
    simpa [shelved?] using unread.unshelved
  obtain ⟨flaw, flawed⟩ := compile_unclosed (catalogue.stopping name).arity? (some name)
  refine ⟨(Fault.ofFlaw unclosed flaw).inTemplate (some name), ?_⟩
  simp only [load, isThis]
  simp only [stopping] at flawed ⊢
  simp only [missing, loadSource, findSource, Named.get?_put_self, compile, flawed]

/-- Who asks for another template is not. -/
theorem load_stopping_of_ne (other : TemplateName.normal asked ≠ name) :
    (catalogue.stopping name).load files asked line =
      (catalogue.load files asked line).map fun loaded =>
        { loaded with catalogue := loaded.catalogue.stopping name } := by
  have listed : (catalogue.stopping name).sources.get? (TemplateName.normal asked) =
      catalogue.sources.get? (TemplateName.normal asked) :=
    Named.get?_put_of_ne _ _ _ _ other
  have searched : (catalogue.stopping name).findSource files (TemplateName.normal asked) =
      catalogue.findSource files (TemplateName.normal asked) := by
    simp only [findSource, listed]
    rfl
  simp only [load]
  have shelf : (catalogue.stopping name).shelf = catalogue.shelf := rfl
  rw [shelf]
  cases catalogue.shelf.get? (TemplateName.normal asked) with
  | some shelved => rfl
  | none =>
    simp only [loadSource, searched]
    cases catalogue.findSource files (TemplateName.normal asked) with
    | error cause => rfl
    | ok source =>
      have arities : (catalogue.stopping name).arity? = catalogue.arity? := rfl
      simp only [compile, arities]
      cases Template.compile catalogue.arity? (some (TemplateName.normal asked)) source <;> rfl

/-- Counting users does not depend on what can be compiled. -/
theorem recount_stopping (catalogue : Catalogue) (name : String) (handle : Handle)
    (change : Nat → Nat) :
    (catalogue.stopping name).recount handle change =
      (catalogue.recount handle change).stopping name := by
  unfold recount
  cases handle.template.name <;> rfl

/-- It does not read a template. -/
theorem Unread.recount (unread : catalogue.Unread name) (handle : Handle) (change : Nat → Nat) :
    (catalogue.recount handle change).Unread name := by
  constructor
  · rw [(settled_recount catalogue handle change).sources]
    exact unread.unlisted
  · rw [shelved?_recount]
    exact unread.unshelved

/-- Nor does loading another template. -/
theorem Unread.load (unread : catalogue.Unread name) (other : TemplateName.normal asked ≠ name)
    {loaded : Loaded} (found : catalogue.load files asked line = .ok loaded) :
    loaded.catalogue.Unread name := by
  constructor
  · rw [(settled_load found).sources]
    exact unread.unlisted
  · rw [shelved?_load found, if_neg (Ne.symm other)]
    exact unread.unshelved

/-- The catalogue is read for its directory only. -/
theorem readFile_of_directory {before after : Catalogue}
    (directory : after.directory = before.directory) (files : Files) (name : String) :
    after.readFile files name = before.readFile files name := by
  unfold readFile
  rw [directory]

/-- A template that was not there before it was loaded was read from the directory. -/
theorem readFile_of_load (unread : catalogue.Unread name)
    (isThis : TemplateName.normal asked = name) {loaded : Loaded}
    (found : catalogue.load files asked line = .ok loaded) :
    catalogue.readFile files name = .ok loaded.handle.template.source := by
  rcases load_cases found with ⟨shelved, shelf, _⟩ |
    ⟨source, template, _, searched, made, handle, _⟩
  · have there := unread.unshelved
    rw [shelved?, ← isThis, shelf] at there
    cases there
  · rw [isThis] at searched
    simp only [findSource, unread.unlisted] at searched
    rw [handle, searched]
    exact congrArg Except.ok (Template.of_compile made).2.symm

end Catalogue

/-- The world where a template cannot be compiled. -/
def World.stopping (world : World) (name : String) : World :=
  world.withCatalogue (world.catalogue.stopping name)

namespace Run

variable {α : Type}

/-- The action does not ask for the template: it does the same where that cannot be
compiled. -/
structure Unstopped (name : String) (action : Run α) (world : World) : Prop where
  same : action (world.stopping name) = ((action world).1, (action world).2.stopping name)
  unread : (action world).2.catalogue.Unread name

/-- The action asks for the template, and stops there if that cannot be compiled; otherwise
it puts on the shelf what the directory holds at this moment, or fails. -/
structure Stopped (name : String) (action : Run α) (world : World) : Prop where
  halted : ∃ halt, (action (world.stopping name)).1 = .error halt
  read : ∀ handle, (action world).2.catalogue.shelved? name = some handle →
    world.catalogue.readFile (action (world.stopping name)).2.host.files name =
      .ok handle.template.source
  shelved : ∀ value, (action world).1 = .ok value →
    ∃ handle, (action world).2.catalogue.shelved? name = some handle

/-- Where the template was not yet read, the action asks for it or does not. -/
def Ends (name : String) (action : Run α) : Prop :=
  ∀ world, world.catalogue.Unread name → action.Unstopped name world ∨ action.Stopped name world

/-- The action lends templates and gives them back, and asks for the template or not. -/
structure Asks (name : String) (action : Run α) : Prop where
  lends : ∀ world, Catalogue.Lends world.catalogue (action world).2.catalogue
  ends : action.Ends name

/-- What does not deal with the catalogue asks for nothing. -/
theorem Aloof.asks {action : Run α} (aloof : action.Aloof) (name : String) :
    action.Asks name where
  lends := Catalogue.dealing_lends.aloof aloof
  ends world unread := by
    have catalogue := aloof.catalogue_eq world
    refine Or.inl ⟨?_, catalogue ▸ unread⟩
    rw [World.stopping, aloof world (world.catalogue.stopping name) rfl rfl, World.stopping,
      catalogue]

/-- A sequence that does not ask for the template first may do so later. -/
theorem Unstopped.bind {β : Type} {name : String} {action : Run α} {next : α → Run β}
    {world : World} (unstopped : action.Unstopped name world)
    (directory : (action world).2.catalogue.directory = world.catalogue.directory)
    (onward : ∀ value, action.Yields value → (next value).Ends name) :
    (action >>= next).Unstopped name world ∨ (action >>= next).Stopped name world := by
  obtain ⟨same, unread⟩ := unstopped
  cases done : action world with
  | mk result middle =>
    rw [done] at same unread directory
    cases result with
    | error halt => exact Or.inl ⟨by rw [bind_of_error done, bind_of_error same],
        by rw [bind_of_error done]; exact unread⟩
    | ok value =>
      have goesOn := bind_of_ok done next
      have goesOnThere := bind_of_ok same next
      rcases onward value ⟨world, by rw [done]⟩ middle unread with later | later
      · exact Or.inl ⟨by rw [goesOn, goesOnThere, later.same], by rw [goesOn]; exact later.unread⟩
      · refine Or.inr
          ⟨by rw [goesOnThere]; exact later.halted, ?_, by rw [goesOn]; exact later.shelved⟩
        intro handle there
        rw [goesOn] at there
        rw [goesOnThere, ← later.read handle there]
        exact (Catalogue.readFile_of_directory directory _ name).symm

/-- A sequence that asks for the template first is stopped. What it goes on with keeps the
template where it was put. -/
theorem Stopped.bind {β : Type} {name : String} {action : Run α} {next : α → Run β}
    {world : World} (stopped : action.Stopped name world)
    (onward : ∀ value, action.Yields value → (next value).Asks name) :
    (action >>= next).Stopped name world := by
  obtain ⟨halt, halted⟩ := stopped.halted
  have endsThere : (action >>= next) (world.stopping name) =
      (.error halt, (action (world.stopping name)).2) :=
    bind_of_error (Prod.ext halted rfl) next
  have remains : ((action >>= next) world).2.catalogue.shelved? name =
      (action world).2.catalogue.shelved? name := by
    cases done : action world with
    | mk result middle =>
      cases result with
      | error halt => rw [bind_of_error done]
      | ok value =>
        obtain ⟨handle, there⟩ := stopped.shelved value (by rw [done])
        rw [done] at there
        rw [bind_of_ok done, there]
        exact ((onward value ⟨world, by rw [done]⟩).lends middle).keeps name handle there
  have reached : ∀ value, ((action >>= next) world).1 = .ok value →
      ∃ value, (action world).1 = .ok value := by
    intro value isValue
    cases done : action world with
    | mk result middle =>
      cases result with
      | error halt =>
        rw [bind_of_error done] at isValue
        cases isValue
      | ok first => exact ⟨first, rfl⟩
  refine ⟨⟨halt, by rw [endsThere]⟩, ?_, ?_⟩
  · intro handle there
    rw [endsThere]
    exact stopped.read handle (remains ▸ there)
  · intro value isValue
    obtain ⟨first, isFirst⟩ := reached value isValue
    rw [remains]
    exact stopped.shelved first isFirst

/-- A sequence asks for the template in its first part, or later, or not at all. -/
theorem Asks.bind {β : Type} {name : String} {action : Run α} {next : α → Run β}
    (first : action.Asks name) (onward : ∀ value, action.Yields value → (next value).Asks name) :
    (action >>= next).Asks name where
  lends := Catalogue.dealing_lends.bind first.lends fun value yields => (onward value yields).lends
  ends world unread := by
    rcases first.ends world unread with unstopped | stopped
    · exact unstopped.bind (first.lends world).settled.directory fun value yields =>
        (onward value yields).ends
    · exact Or.inr (stopped.bind onward)

/-- What is asked for is asked for also while the world is changed for a time. -/
theorem Asks.bracket {name : String} {action : Run α} {enter : World → World}
    {leave : World → World → World} (bracket : Bracket enter leave) (inside : action.Asks name) :
    Asks name (fun world =>
      ((action (enter world)).1, leave world (action (enter world)).2) : Run α) where
  lends := Catalogue.dealing_lends.bracket enter leave bracket inside.lends
  ends world unread := by
    have entered : enter (world.stopping name) = (enter world).stopping name := by
      rw [World.stopping, bracket.enter_withCatalogue, World.stopping, bracket.catalogue_enter]
    have unreadThere : (enter world).catalogue.Unread name := bracket.catalogue_enter world ▸ unread
    rcases inside.ends (enter world) unreadThere with ⟨same, stays⟩ | ⟨halted, read, shelved⟩
    · refine Or.inl ⟨?_, ?_⟩
      · simp only [entered, same]
        refine Prod.ext rfl ?_
        simp only [World.stopping, bracket.catalogue_leave, bracket.leave_withCatalogue]
      · simp only [bracket.catalogue_leave]
        exact stays
    · refine Or.inr ⟨?_, ?_, ?_⟩
      · simp only [entered]
        exact halted
      · intro handle there
        simp only [bracket.catalogue_leave] at there
        simp only [entered, bracket.files_leave]
        rw [← bracket.catalogue_enter world]
        exact read handle there
      · intro value isValue
        simp only [bracket.catalogue_leave]
        exact shelved value isValue

/-- A template is entered without the catalogue, but for the depth limit. -/
theorem aloof_enter (station : Station) (span : Span) : (station.enter span).Aloof := by
  intro world catalogue filters depthLimit
  simp only [Station.enter_apply, World.withCatalogue, depthLimit]

/-- To give back a handle asks for nothing. -/
theorem Ends.releasing {name : String} {action : Run α} (ends : action.Ends name)
    (handle : Handle) : (Run.releasing handle action).Ends name := by
  intro world unread
  rcases ends world unread with ⟨same, stays⟩ | ⟨halted, read, shelved⟩
  · refine Or.inl ⟨?_, stays.recount handle (· - 1)⟩
    simp only [Run.releasing, Run.between, id_eq, same]
    simp only [World.stopping, World.withCatalogue, Catalogue.release, Catalogue.recount_stopping]
  · refine Or.inr ⟨halted, ?_, ?_⟩
    · intro found there
      simp only [Run.releasing, Run.between, id_eq, Catalogue.release,
        Catalogue.shelved?_recount] at there
      exact read found there
    · intro value isValue
      simp only [Run.releasing, Run.between, id_eq, Catalogue.release, Catalogue.shelved?_recount]
      exact shelved value isValue

/-- A template that cannot be loaded cannot be visited. -/
theorem load_of_error {station : Station} {span : Span} {asked : String} {world : World}
    {fault : Fault} (failed : world.catalogue.load world.host.files asked
      (some (station.template.line span)) = .error fault) :
    ∃ halt, station.load span asked world = (.error halt, world) := by
  rw [Station.load_apply, failed]
  exact ⟨_, rfl⟩

/-- The world after a template was loaded to be visited. -/
theorem load_of_ok {station : Station} {span : Span} {asked : String} {world : World}
    {loaded : Loaded} (found : world.catalogue.load world.host.files asked
      (some (station.template.line span)) = .ok loaded) :
    station.load span asked world = (.ok loaded.handle,
      { world with
        catalogue := loaded.catalogue
        host := { world.host with records := loaded.record :: world.host.records } }) := by
  rw [Station.load_apply, found]

/-- A visit to the template itself is stopped at once. -/
theorem stopped_visit {name asked : String} {station : Station} {rest : Handle → Run Unit}
    (span : Span) {world : World} (unread : world.catalogue.Unread name)
    (isThis : TemplateName.normal asked = name)
    (keeps : ∀ handle world, Catalogue.Keeps world.catalogue (rest handle world).2.catalogue) :
    (station.load span asked >>= rest).Stopped name world := by
  obtain ⟨fault, refused⟩ := Catalogue.load_stopping_self unread isThis
  obtain ⟨halt, stops⟩ : ∃ halt, station.load span asked (world.stopping name) =
      (.error halt, world.stopping name) :=
    load_of_error refused
  have endsThere := bind_of_error stops rest
  cases found : world.catalogue.load world.host.files asked
      (some (station.template.line span)) with
  | error fault =>
    obtain ⟨other, fails⟩ := load_of_error found
    have ends := bind_of_error fails rest
    refine ⟨⟨halt, by rw [endsThere]⟩, ?_, ?_⟩
    · intro handle there
      rw [ends, unread.unshelved] at there
      cases there
    · intro value isValue
      rw [ends] at isValue
      cases isValue
  | ok loaded =>
    have there : ((station.load span asked >>= rest) world).2.catalogue.shelved? name =
        some loaded.handle := by
      rw [bind_of_ok (load_of_ok found)]
      refine keeps _ _ name loaded.handle ?_
      rw [Catalogue.shelved?_load found, if_pos isThis.symm]
    refine ⟨⟨halt, by rw [endsThere]⟩, ?_, fun _ _ => ⟨loaded.handle, there⟩⟩
    intro handle isThere
    cases there.symm.trans isThere
    rw [endsThere]
    exact Catalogue.readFile_of_load unread isThis found

/-- A visit to another template is not stopped when that is loaded. -/
theorem unstopped_load {name asked : String} {station : Station} (span : Span) {world : World}
    (unread : world.catalogue.Unread name) (other : TemplateName.normal asked ≠ name) :
    (station.load span asked).Unstopped name world := by
  have elsewhere : (world.stopping name).catalogue.load (world.stopping name).host.files asked
      (some (station.template.line span)) =
        (world.catalogue.load world.host.files asked (some (station.template.line span))).map
          fun loaded => { loaded with catalogue := loaded.catalogue.stopping name } :=
    Catalogue.load_stopping_of_ne other
  constructor
  · rw [Station.load_apply, Station.load_apply, elsewhere]
    cases world.catalogue.load world.host.files asked (some (station.template.line span)) <;> rfl
  · rw [Station.load_apply]
    cases found : world.catalogue.load world.host.files asked
        (some (station.template.line span)) with
    | error fault => exact unread
    | ok loaded => exact unread.load other found

/-- A visit asks for its own template first, and then for what the visited template asks
for. -/
theorem Asks.visit {name : String} {station : Station} {body : Handle → Station → Run Unit}
    (span : Span) (asked : String) (inside : ∀ handle entered, (body handle entered).Asks name) :
    Asks name (station.load span asked >>= fun handle =>
      Run.releasing handle (station.enter span >>= body handle)) where
  lends := Catalogue.dealing_lends.visit span asked fun handle entered =>
    (inside handle entered).lends
  ends world unread := by
    have entering : ∀ handle, (station.enter span >>= body handle).Asks name := fun handle =>
      ((aloof_enter station span).asks name).bind fun entered _ => inside handle entered
    by_cases isThis : TemplateName.normal asked = name
    · refine Or.inr (stopped_visit span unread isThis fun handle world => ?_)
      exact ((entering handle).lends world).keeps.trans (Catalogue.keeps_recount _ _ _)
    · refine (unstopped_load span unread isThis).bind ?_ fun handle _ =>
        (entering handle).ends.releasing handle
      rw [Station.load_apply]
      cases found : world.catalogue.load world.host.files asked
          (some (station.template.line span)) with
      | error fault => rfl
      | ok loaded => exact (Catalogue.settled_load found).directory

end Run

/-- All that renderings do asks for the template, or does not. -/
theorem dealing_asks (name : String) : Dealing fun {α : Type} (action : Run α) =>
    action.Asks name where
  aloof aloof := aloof.asks name
  bind first onward := first.bind onward
  bracket _ _ bracket inside := inside.bracket bracket
  visit span asked inside := .visit span asked inside

/-- The workshop where a template cannot be compiled. -/
def Workshop.stopping (shop : Workshop) (name : String) : Workshop :=
  { shop with catalogue := shop.catalogue.stopping name }

/-- A template that is new on the shelf after a rendering, and has no source of its own, was
read from the template directory when it was asked for. -/
theorem Workshop.read_renderInto {shop : Workshop} {name : String}
    (unread : shop.catalogue.Unread name) (limit : Nat) (handle : Handle) (sink : Sink)
    {found : Handle}
    (there : (shop.renderInto limit handle sink).2.catalogue.shelved? name = some found) :
    shop.catalogue.readFile ((shop.stopping name).renderInto limit handle sink).2.host.files name =
      .ok found.template.source := by
  have asks := (dealing_asks name).expand limit (.start handle) .whole
  rcases asks.ends { shop with turns := [], sink := sink } unread with unstopped | stopped
  · have missing := unstopped.unread.unshelved
    rw [Workshop.renderInto, missing] at there
    cases there
  · exact stopped.read found there

end Stencil
