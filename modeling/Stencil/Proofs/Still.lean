import Stencil.Proofs.Discipline

/-!
# What primitive actions leave alone

Most primitive actions change the host's side, the sink, the shelf and what policies
were used for. The scopes, the settings of the context and the limits of the catalogue
stay as they are. A policy is still the one that was registered, whatever it was used
for.
-/

namespace Stencil

/-- The label and the policy that were registered. -/
def Escaper.registered (escaper : Escaper) : String × EscapePolicy :=
  (escaper.label, escaper.policy)

namespace Context

/-- The settings of one context are those of another: the output directory and the
registered policies. -/
structure Equipped (before after : Context) : Prop where
  outputDirectory : after.outputDirectory = before.outputDirectory
  policies : ∀ extension, (after.escapers.get? extension).map Escaper.registered =
    (before.escapers.get? extension).map Escaper.registered
  spacer : after.spacer.map Spacer.policy = before.spacer.map Spacer.policy

variable {context before after : Context}

/-- A context has its own settings. -/
theorem Equipped.refl (context : Context) : Equipped context context := ⟨rfl, fun _ => rfl, rfl⟩

/-- Settings that were left alone twice were left alone. -/
theorem Equipped.trans {middle : Context} (first : Equipped before middle)
    (second : Equipped middle after) : Equipped before after :=
  ⟨second.outputDirectory.trans first.outputDirectory,
    fun extension => (second.policies extension).trans (first.policies extension),
    second.spacer.trans first.spacer⟩

/-- The scopes and the active policy do not belong to the settings. -/
theorem Equipped.of_same (equipped : Equipped before context)
    (outputDirectory : after.outputDirectory = context.outputDirectory)
    (escapers : after.escapers = context.escapers) (spacer : after.spacer = context.spacer) :
    Equipped before after :=
  ⟨outputDirectory.trans equipped.outputDirectory,
    fun extension => escapers ▸ equipped.policies extension, spacer ▸ equipped.spacer⟩

/-- Using a policy leaves the settings alone. -/
theorem equipped_put {extension : String} {escaper new : Escaper}
    (found : context.escapers.get? extension = some escaper)
    (same : new.registered = escaper.registered) :
    Equipped context { context with escapers := context.escapers.put extension new } := by
  refine ⟨rfl, fun asked => ?_, rfl⟩
  by_cases isThis : asked = extension
  · subst isThis
    rw [Named.get?_put_self, found, Option.map_some, Option.map_some, same]
  · rw [Named.get?_put_of_ne _ _ _ _ isThis]

end Context

/-- What primitive actions leave alone: the scopes, the settings and the active policy
of the context, and the filters and the depth limit of the catalogue. -/
structure World.Still (before after : World) : Prop where
  inner : after.context.inner = before.context.inner
  outer : after.context.outer = before.context.outer
  active : after.context.active = before.context.active
  equipped : Context.Equipped before.context after.context
  filters : after.catalogue.filters = before.catalogue.filters
  depthLimit : after.catalogue.depthLimit = before.catalogue.depthLimit

namespace World.Still

variable {world after : World}

/-- What changes neither the context nor the filters nor the depth limit leaves all of
this alone. -/
theorem of_context (context : after.context = world.context)
    (filters : after.catalogue.filters = world.catalogue.filters)
    (depthLimit : after.catalogue.depthLimit = world.catalogue.depthLimit) :
    Still world after :=
  ⟨by rw [context], by rw [context], by rw [context], by rw [context]; exact .refl _, filters,
    depthLimit⟩

/-- Escaping a text uses the active policy. -/
theorem escape (world : World) (text : String) :
    Still world { world with context := (world.context.escape text).2 } := by
  rcases world.context.escape_cases text with ⟨_, same⟩ | ⟨_, _, _, registered, same⟩ <;> rw [same]
  · exact of_context rfl rfl rfl
  · exact ⟨rfl, rfl, rfl, Context.equipped_put registered rfl, rfl, rfl⟩

/-- Switching tabbing tells the active policy. -/
theorem switchTabbing (on : Bool) (world : World) : Still world (Run.switchTabbing on world) := by
  unfold Run.switchTabbing
  rcases world.context.switchTabbing_cases on with ⟨_, same⟩ | ⟨_, _, _, registered, same⟩ <;>
    rw [same]
  · exact of_context rfl rfl rfl
  · exact ⟨rfl, rfl, rfl, Context.equipped_put registered rfl, rfl, rfl⟩

/-- Removing space uses the spaceless policy. -/
theorem removeSpace (world : World) (text : String) :
    Still world (Run.removeSpace text world).2 := by
  unfold Run.removeSpace Context.removeSpace
  cases found : world.context.spacer with
  | none => exact of_context rfl rfl rfl
  | some spacer =>
    exact ⟨rfl, rfl, rfl, ⟨rfl, fun _ => rfl, by simp [found, Spacer.remove]⟩, rfl, rfl⟩

/-- Giving back a handle changes the shelf. -/
theorem release (world : World) (handle : Handle) :
    Still world { world with catalogue := world.catalogue.release handle } :=
  of_context rfl (Catalogue.filters_release _ _) (Catalogue.depthLimit_release _ _)

/-- So does loading a template. -/
theorem load (station : Station) (span : Span) (name : String) (world : World) :
    Still world (station.load span name world).2 := by
  rw [Station.load_apply]
  cases found : world.catalogue.load world.host.files name (some (station.template.line span)) with
  | error fault => exact of_context rfl rfl rfl
  | ok loaded =>
    exact of_context rfl (Catalogue.filters_load found) (Catalogue.depthLimit_load found)

end World.Still

end Stencil
