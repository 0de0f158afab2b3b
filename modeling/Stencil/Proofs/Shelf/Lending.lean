import Stencil.Proofs.Dealings
import Stencil.Proofs.Ordered

/-!
# Templates are lent and given back

What a rendering does to the catalogue is a sequence of visits: a template is loaded,
other visits are made meanwhile, and it is given back, also if the rendering halted. So
the settings and the sources of the catalogue stay as they are, a template that is on
the shelf stays there, and one that is new there was compiled from its source.
-/

namespace Stencil

/-- The template is compiled under the name that was asked for, and keeps its source. -/
theorem Template.of_compile {arity? : String → Option Arity} {name : Option String}
    {source : String} {template : Template}
    (compiled : Template.compile arity? name source = .ok template) :
    template.name = name ∧ template.source = source := by
  obtain ⟨nesting, -, rfl⟩ := nesting_of_compile compiled
  exact ⟨rfl, rfl⟩

namespace Catalogue

variable {before middle after catalogue : Catalogue} {files : Files} {name : String}
  {line : Option Nat} {loaded : Loaded} {handle : Handle}

/-- A template that is added was compiled, and stands on the shelf without users; its source
is kept. -/
theorem addTemplate_cases {source : String}
    (added : catalogue.addTemplate name source = .ok after) :
    ∃ template,
      Template.compile catalogue.arity? (some (TemplateName.normal name)) source = .ok template ∧
        after = { ({ catalogue with issued := catalogue.issued + 1 } : Catalogue).shelve
            (TemplateName.normal name) ⟨catalogue.issued, template⟩ 0 with
          sources := catalogue.sources.put (TemplateName.normal name) source } := by
  unfold addTemplate at added
  cases compiled : catalogue.compile (some (TemplateName.normal name)) source with
  | error fault =>
    simp only [compiled] at added
    cases added
  | ok made =>
    obtain ⟨handle, catalogue⟩ := made
    obtain ⟨template, made, rfl, rfl⟩ := compile_cases compiled
    simp only [compiled] at added
    cases added
    exact ⟨template, made, rfl⟩

/-- What a rendering does to a catalogue: it loads templates, and gives each back after
what it does meanwhile. -/
inductive Lends : Catalogue → Catalogue → Prop
  | nothing (catalogue : Catalogue) : Lends catalogue catalogue
  | next {before middle after : Catalogue} (first : Lends before middle)
      (later : Lends middle after) : Lends before after
  | visit {before after : Catalogue} {files : Files} {name : String} {line : Option Nat}
      {loaded : Loaded} (found : before.load files name line = .ok loaded)
      (meanwhile : Lends loaded.catalogue after) : Lends before (after.release loaded.handle)

/-- Nothing but lending is done by all that renderings do. -/
theorem dealing_lends : Dealing fun {α : Type} (action : Run α) =>
    ∀ world, Lends world.catalogue (action world).2.catalogue where
  aloof aloof world := by
    rw [aloof.catalogue_eq]
    exact .nothing _
  bind first onward world := by
    have begun := first world
    rw [Run.bind_apply]
    split
    · rename_i value middle done
      rw [done] at begun
      exact .next begun (onward value ⟨world, by rw [done]⟩ middle)
    · rename_i halt middle done
      rw [done] at begun
      exact begun
  bracket enter leave bracket inside world := by
    have meanwhile := inside (enter world)
    rw [bracket.catalogue_enter] at meanwhile
    rw [bracket.catalogue_leave]
    exact meanwhile
  visit {station body} span name inside world := by
    rw [Run.bind_apply, Station.load_apply]
    cases found :
        world.catalogue.load world.host.files name (some (station.template.line span)) with
    | error fault => exact .nothing _
    | ok loaded =>
      refine .visit found ?_
      simp only [id_eq, Run.bind_apply, Station.enter_apply]
      by_cases shallow : station.sites.length < loaded.catalogue.depthLimit
      · simp only [shallow, if_true]
        exact inside loaded.handle { station with sites := station.sites ++ [station.site span] }
          { world with
            catalogue := loaded.catalogue
            host := { world.host with records := loaded.record :: world.host.records } }
      · simp only [shallow, if_false]
        exact .nothing _

/-- A rendering lends templates, and gives them back. -/
theorem lends_expand (depth : Nat) (station : Station) (goal : Goal) (world : World) :
    Lends world.catalogue (expand depth station goal world).2.catalogue :=
  dealing_lends.expand depth station goal world

/-- The settings of one catalogue are those of another. -/
structure Settled (before after : Catalogue) : Prop where
  directory : after.directory = before.directory
  sources : after.sources = before.sources
  filters : after.filters = before.filters
  depthLimit : after.depthLimit = before.depthLimit

/-- A setting that stays twice stays. -/
theorem Settled.trans (first : Settled before middle) (second : Settled middle after) :
    Settled before after :=
  ⟨second.directory.trans first.directory, second.sources.trans first.sources,
    second.filters.trans first.filters, second.depthLimit.trans first.depthLimit⟩

/-- Counting users changes no setting. -/
theorem settled_recount (catalogue : Catalogue) (handle : Handle) (change : Nat → Nat) :
    Settled catalogue (catalogue.recount handle change) := by
  unfold recount
  cases handle.template.name <;> exact ⟨rfl, rfl, rfl, rfl⟩

/-- Nor does loading a template. -/
theorem settled_load (found : catalogue.load files name line = .ok loaded) :
    Settled catalogue loaded.catalogue := by
  rcases load_cases found with ⟨_, _, _, after⟩ | ⟨_, _, _, _, _, _, after⟩ <;>
    · rw [after]
      exact ⟨rfl, rfl, rfl, rfl⟩

/-- Lending changes no setting. -/
theorem Lends.settled (lends : Lends before after) : Settled before after := by
  induction lends with
  | nothing => exact ⟨rfl, rfl, rfl, rfl⟩
  | next _ _ first later => exact first.trans later
  | visit found _ meanwhile =>
    exact (settled_load found).trans (meanwhile.trans (settled_recount _ _ _))

/-- The template on the shelf under a name. -/
def shelved? (catalogue : Catalogue) (name : String) : Option Handle :=
  (catalogue.shelf.get? name).map Shelved.handle

/-- Counting users concerns the template that the handle is to, where it stands on the
shelf. -/
theorem get?_recount (catalogue : Catalogue) (handle : Handle) (change : Nat → Nat)
    (asked : String) :
    (catalogue.recount handle change).shelf.get? asked =
      (catalogue.shelf.get? asked).map fun shelved =>
        if handle.template.name = some asked ∧ shelved.handle.serial = handle.serial then
          { shelved with users := change shelved.users }
        else shelved := by
  unfold recount
  cases handle.template.name with
  | none => simp
  | some name =>
    simp only [Named.get?_update, Option.some.injEq]
    refine congrArg (Option.map · _) (funext fun shelved => ?_)
    by_cases isThis : asked = name
    · simp [isThis]
    · simp [isThis, Ne.symm isThis]

/-- It changes no template. -/
@[simp] theorem shelved?_recount (catalogue : Catalogue) (handle : Handle)
    (change : Nat → Nat) (asked : String) :
    (catalogue.recount handle change).shelved? asked = catalogue.shelved? asked := by
  simp only [shelved?, get?_recount, Option.map_map]
  refine congrArg (Option.map · _) (funext fun shelved => ?_)
  simp only [Function.comp_apply]
  split <;> rfl

/-- Of one catalogue nothing was changed but counts. -/
structure Recounted (before after : Catalogue) : Prop extends Settled before after where
  shelved : ∀ name, after.shelved? name = before.shelved? name

/-- Nothing at all was changed. -/
theorem Recounted.refl (catalogue : Catalogue) : Recounted catalogue catalogue :=
  ⟨⟨rfl, rfl, rfl, rfl⟩, fun _ => rfl⟩

/-- Counts may be changed again. -/
theorem Recounted.trans (first : Recounted before middle) (second : Recounted middle after) :
    Recounted before after :=
  ⟨first.toSettled.trans second.toSettled,
    fun name => (second.shelved name).trans (first.shelved name)⟩

/-- Counting users changes nothing else. -/
theorem recounted_recount (catalogue : Catalogue) (handle : Handle) (change : Nat → Nat) :
    Recounted catalogue (catalogue.recount handle change) :=
  ⟨settled_recount catalogue handle change, shelved?_recount catalogue handle change⟩

/-- Loading a template puts it on the shelf, and changes no other one. -/
theorem shelved?_load (found : catalogue.load files name line = .ok loaded) (asked : String) :
    loaded.catalogue.shelved? asked =
      if asked = TemplateName.normal name then some loaded.handle
      else catalogue.shelved? asked := by
  rcases load_cases found with ⟨_, _, handle, after⟩ | ⟨_, _, _, _, _, handle, after⟩ <;>
    · rw [after, handle]
      by_cases isThis : asked = TemplateName.normal name
      · simp [shelved?, shelve, isThis]
      · simp [shelved?, shelve, Named.get?_put_of_ne _ _ _ _ isThis, isThis]

/-- The templates that stand on one shelf stand on another. -/
def Keeps (before after : Catalogue) : Prop :=
  ∀ name handle, before.shelved? name = some handle → after.shelved? name = some handle

/-- What is kept twice is kept. -/
theorem Keeps.trans (first : Keeps before middle) (second : Keeps middle after) :
    Keeps before after :=
  fun name handle there => second name handle (first name handle there)

/-- Counting users keeps every template. -/
theorem keeps_recount (catalogue : Catalogue) (handle : Handle) (change : Nat → Nat) :
    Keeps catalogue (catalogue.recount handle change) := by
  intro name found there
  rwa [shelved?_recount]

/-- So does loading a template. -/
theorem keeps_load (found : catalogue.load files name line = .ok loaded) :
    Keeps catalogue loaded.catalogue := by
  intro other handle there
  rw [shelved?_load found]
  split
  · rename_i isThis
    rw [shelved?, isThis] at there
    rcases load_cases found with ⟨shelved, shelf, same, _⟩ | ⟨_, _, missing, _⟩
    · rw [shelf] at there
      rw [same]
      exact there
    · rw [missing] at there
      cases there
  · exact there

/-- A template on the shelf stays there while others are lent. -/
theorem Lends.keeps (lends : Lends before after) : Keeps before after := by
  induction lends with
  | nothing => exact fun _ _ there => there
  | next _ _ first later => exact first.trans later
  | visit found _ meanwhile =>
    exact (keeps_load found).trans (meanwhile.trans (keeps_recount _ _ _))

/-- A template was compiled under a name, and from the source that there is for it if there
is one. -/
structure Made (catalogue : Catalogue) (name : String) (handle : Handle) : Prop where
  compiled : ∃ arity?, Template.compile arity? (some name) handle.template.source =
    .ok handle.template
  listed : ∀ source, catalogue.sources.get? name = some source → handle.template.source = source

/-- Only the source under the name counts. -/
theorem Made.of_sources (made : before.Made name handle)
    (same : after.sources.get? name = before.sources.get? name) : after.Made name handle :=
  ⟨made.compiled, same ▸ made.listed⟩

/-- A template that is new on the shelf after one was loaded was made just now. -/
theorem introduced_load (found : catalogue.load files name line = .ok loaded) {asked : String}
    (there : loaded.catalogue.shelved? asked = some handle) :
    catalogue.shelved? asked = some handle ∨ catalogue.Made asked handle := by
  rw [shelved?_load found] at there
  split at there
  · rename_i isThis
    cases there
    rcases load_cases found with ⟨shelved, shelf, same, _⟩ |
      ⟨source, template, _, searched, made, same, _⟩
    · rw [shelved?, isThis, shelf, same]
      exact Or.inl rfl
    · have named := (Template.of_compile made).2
      refine Or.inr ⟨⟨catalogue.arity?, ?_⟩, ?_⟩
      · rw [same, isThis, named]
        exact made
      · intro listed isListed
        rw [isThis] at isListed
        simp only [findSource, isListed] at searched
        cases searched
        rw [same, named]
  · exact Or.inl there

/-- So was one that is new there after templates were lent. -/
theorem Lends.introduced (lends : Lends before after) {asked : String}
    (there : after.shelved? asked = some handle) :
    before.shelved? asked = some handle ∨ before.Made asked handle := by
  induction lends with
  | nothing => exact Or.inl there
  | next first _ earlier later =>
    rcases later there with meanwhile | made
    · exact earlier meanwhile
    · exact Or.inr (made.of_sources (congrArg (Named.get? · asked) first.settled.sources.symm))
  | visit found _ meanwhile =>
    rw [release, shelved?_recount] at there
    rcases meanwhile there with loaded | made
    · exact introduced_load found loaded
    · have sources := (settled_load found).sources
      exact Or.inr (made.of_sources (congrArg (Named.get? · asked) sources.symm))

end Catalogue

end Stencil
