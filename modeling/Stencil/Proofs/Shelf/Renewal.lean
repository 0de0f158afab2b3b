import Stencil.Filter.Further
import Stencil.Proofs.Fitting.Templates
import Stencil.Proofs.Shelf.Sources

/-!
# Templates that are compiled again

A template that was added may be taken off the shelf when nobody uses it; it is compiled
again when it is loaded the next time. What is loaded is the same then, unless a filter in
it was exchanged meanwhile for one that it does not fit: the arity of a filter is looked at
when a template is compiled, not when one is loaded from the shelf.
-/

namespace Stencil

/-- What loading a template came to: the template, or why there is none. -/
def Answer.outcome? : Answer → Option (Except Halt Template)
  | handle found => some (.ok found.template)
  | halted halt => some (.error halt)
  | _ => none

namespace Catalogue

variable {catalogue : Catalogue} {files : Files} {name source : String} {line : Option Nat}

/-- What a source is compiled to: a template, or a fault. -/
def compiled (catalogue : Catalogue) (name source : String) : Except Halt Template :=
  match Template.compile catalogue.arity? (some name) source with
  | .ok template => .ok template
  | .error flaw => .error (.fault ((Fault.ofFlaw source flaw).inTemplate (some name)))

/-- What a template is loaded to. -/
def loads (catalogue : Catalogue) (files : Files) (name : String) (line : Option Nat) :
    Except Halt Template :=
  match catalogue.load files name line with
  | .ok loaded => .ok loaded.handle.template
  | .error fault => .error (.fault fault)

/-- A template that is not on the shelf is compiled from its source. -/
theorem loads_of_listed (missing : catalogue.shelf.get? (TemplateName.normal name) = none)
    (listed : catalogue.sources.get? (TemplateName.normal name) = some source) :
    catalogue.loads files name line = catalogue.compiled (TemplateName.normal name) source := by
  simp only [loads, load, missing, loadSource, findSource, listed, compile, compiled]
  cases Template.compile catalogue.arity? (some (TemplateName.normal name)) source <;> rfl

/-- One that is on the shelf is taken from there. -/
theorem loads_of_shelved {handle : Handle}
    (there : catalogue.shelved? (TemplateName.normal name) = some handle) :
    catalogue.loads files name line = .ok handle.template := by
  obtain ⟨shelved, found, rfl⟩ := Option.map_eq_some_iff.mp there
  simp only [loads, load, found]

/-- A template that was made from its source fits the filters and is compiled to itself again,
or does not fit them and is a flaw to compile. -/
theorem Made.compiled_cases {handle : Handle} (made : catalogue.Made name handle)
    (listed : catalogue.sources.get? name = some source) :
    handle.template.fits catalogue.arity? = true ∧
        catalogue.compiled name source = .ok handle.template ∨
      handle.template.fits catalogue.arity? = false ∧
        ∃ fault, catalogue.compiled name source = .error (.fault fault) ∧
          fault.cause.kind = .syntactic := by
  obtain ⟨⟨arities, compiled⟩, agrees⟩ := made
  rw [agrees source listed] at compiled
  obtain ⟨_, same | ⟨⟨flaw, flawed⟩, unfit⟩⟩ := Template.compile_cases compiled catalogue.arity?
  · exact .inl ⟨(Template.compile_cases same catalogue.arity?).1, by
      rw [Catalogue.compiled, same]⟩
  · refine .inr ⟨unfit, _, by rw [Catalogue.compiled, flawed], ?_⟩
    simp [Fault.ofFlaw, Cause.kind]

end Catalogue

namespace Session

variable {session : Session}

/-- What a session answers to loading a template is what the catalogue comes to. -/
theorem outcome_take (session : Session) (slot asked : String) (line : Option Nat) :
    (session.report (.take slot (.name asked line))).1.answer.outcome? =
      some (session.shop.catalogue.loads session.shop.host.files asked line) := by
  cases found : session.shop.catalogue.load session.shop.host.files asked line <;>
    simp [report, Session.perform, Session.obtain?, Host.withoutJournal, Catalogue.loads, found,
      Answer.outcome?]

/-- Where no handle is held, all templates are taken off the shelf. -/
theorem Counted.bare_evict (counted : session.Counted) (unused : session.slots = []) :
    (session.report .evict).2.shop.catalogue.shelf = [] := by
  have evicted : (session.report .evict).2.shop.catalogue.shelf =
      session.shop.catalogue.shelf.filter fun entry =>
        Catalogue.uses session.handles entry.2.handle ≠ 0 :=
    counted.quiet.evicted.shelf
  have nobody : session.handles = [] := by simp [handles, unused]
  rw [evicted, nobody]
  simp [Catalogue.uses]

/-- What loading a template comes to after unused templates were taken off the shelf. -/
def renewed? (session : Session) (slot asked : String) (line : Option Nat) :
    Option (Except Halt Template) :=
  ((session.report .evict).2.report (.take slot (.name asked line))).1.answer.outcome?

/-- What it comes to without that. -/
def kept? (session : Session) (slot asked : String) (line : Option Nat) :
    Option (Except Halt Template) :=
  (session.report (.take slot (.name asked line))).1.answer.outcome?

/-- Loading a template comes to the same whether or not unused templates are taken off the
shelf just before, unless the template is on the shelf and does not fit the filters that
there are. Then it is loaded from the shelf, and is a flaw to compile again. -/
structure Renews (session : Session) (slot asked : String) (line : Option Nat) : Prop where
  /-- A template that is not on the shelf is compiled in any case. -/
  missing : session.shop.catalogue.shelved? (TemplateName.normal asked) = none →
    session.renewed? slot asked line = session.kept? slot asked line
  /-- A template that is on the shelf is loaded from there. -/
  shelved : ∀ handle, session.shop.catalogue.shelved? (TemplateName.normal asked) = some handle →
    session.kept? slot asked line = some (.ok handle.template)
  /-- If it fits the filters, it is the same to compile it again. -/
  fitting : ∀ handle, session.shop.catalogue.shelved? (TemplateName.normal asked) = some handle →
    handle.template.fits session.shop.catalogue.arity? = true →
      session.renewed? slot asked line = session.kept? slot asked line
  /-- If it does not, it is a flaw to compile it again. -/
  unfit : ∀ handle, session.shop.catalogue.shelved? (TemplateName.normal asked) = some handle →
    handle.template.fits session.shop.catalogue.arity? = false →
      ∃ fault, session.renewed? slot asked line = some (.error (.fault fault)) ∧
        fault.cause.kind = .syntactic

/-- This is so where the shelf counts the handles, and no handle is held, if templates on the
shelf were made from the sources that are known. -/
theorem Counted.renews (counted : session.Counted) (unused : session.slots = [])
    {asked source : String}
    (listed : session.shop.catalogue.sources.get? (TemplateName.normal asked) = some source)
    (made : ∀ handle, session.shop.catalogue.shelved? (TemplateName.normal asked) = some handle →
      session.shop.catalogue.Made (TemplateName.normal asked) handle)
    (slot : String) (line : Option Nat) : session.Renews slot asked line := by
  have bare : (session.report .evict).2.shop.catalogue.shelf.get? (TemplateName.normal asked) =
      none := by
    rw [counted.bare_evict unused]
    rfl
  have compiledAgain : (session.report .evict).2.shop.catalogue.loads
      (session.report .evict).2.shop.host.files asked line =
        session.shop.catalogue.compiled (TemplateName.normal asked) source :=
    Catalogue.loads_of_listed bare listed
  have renewed : session.renewed? slot asked line =
      some (session.shop.catalogue.compiled (TemplateName.normal asked) source) :=
    ((session.report .evict).2.outcome_take slot asked line).trans (congrArg some compiledAgain)
  have kept : session.kept? slot asked line = some (session.shop.catalogue.loads
      session.shop.host.files asked line) := session.outcome_take slot asked line
  refine { missing := ?_, shelved := ?_, fitting := ?_, unfit := ?_ }
  · intro missing
    have absent : session.shop.catalogue.shelf.get? (TemplateName.normal asked) = none := by
      simpa [Catalogue.shelved?] using missing
    rw [renewed, kept, Catalogue.loads_of_listed absent listed]
  · intro handle there
    rw [kept, Catalogue.loads_of_shelved there]
  · intro handle there fits
    rw [renewed, kept, Catalogue.loads_of_shelved there]
    rcases (made handle there).compiled_cases listed with ⟨_, same⟩ | ⟨unfit, _⟩
    · rw [same]
    · rw [fits] at unfit
      cases unfit
  · intro handle there unfit
    rcases (made handle there).compiled_cases listed with ⟨fits, _⟩ | ⟨_, fault, fails, kind⟩
    · rw [unfit] at fits
      cases fits
    · exact ⟨fault, by rw [renewed, fails], kind⟩

/-- Whatever a session was used for from the start on, loading a template whose source is
known comes to the same after unused templates were taken off the shelf, while no handle is
held, unless the template was there and does not fit the filters any longer. -/
theorem renews_of_steps (steps : List Step) (slot asked : String) (line : Option Nat)
    (source : String) (unused : (Session.empty.prepare steps).2.slots = [])
    (known : Session.empty.lastAdded (TemplateName.normal asked) none steps = some source) :
    (Session.empty.prepare steps).2.Renews slot asked line := by
  have listed := (sources_prepare counted_empty (TemplateName.normal asked) steps).trans known
  exact (counted_empty.prepare steps).renews unused listed
    (fun _ there => (sourced steps there).made) slot line

/-- A filter that may have an argument is exchanged, after a template was added that gives
it none, for one that has to have an argument. -/
def exchanging : List Step := [
  .addFilter "f" ⟨.optional, Filter.kinds⟩,
  .addTemplate "t" (Source.hole "'a'|f"),
  .addFilter "f" ⟨.required, Filter.kinds⟩]

/-- No handle is held after the exchange. -/
theorem slots_exchanging : (Session.empty.prepare exchanging).2.slots = [] :=
  List.isEmpty_iff.mp (by decide +kernel)

/-- The source of the template is known. -/
theorem lastAdded_exchanging :
    Session.empty.lastAdded (TemplateName.normal "t") none exchanging =
      some (Source.hole "'a'|f") := by
  decide +kernel

/-- After the exchange the template is loaded from the shelf, and is a flaw to compile. -/
theorem renews_exchanging : (Session.empty.prepare exchanging).2.Renews "s" "t" none :=
  renews_of_steps exchanging "s" "t" none _ slots_exchanging lastAdded_exchanging

/-- So it is not the same to load it before and after unused templates were taken off the
shelf: it is there before, and is not afterwards. -/
theorem not_transparent_exchanging :
    (Session.empty.prepare exchanging).2.slots = [] ∧
      Session.empty.lastAdded (TemplateName.normal "t") none exchanging =
        some (Source.hole "'a'|f") ∧
      (Session.empty.prepare exchanging).2.renewed? "s" "t" none ≠
        (Session.empty.prepare exchanging).2.kept? "s" "t" none := by
  have kept : ((Session.empty.prepare exchanging).2.kept? "s" "t" none).map
      (·.toOption.isSome) = some true := by
    decide +kernel
  have renewed : ((Session.empty.prepare exchanging).2.renewed? "s" "t" none).map
      (·.toOption.isSome) = some false := by
    decide +kernel
  refine ⟨slots_exchanging, lastAdded_exchanging, fun same => ?_⟩
  rw [same, kept] at renewed
  cases renewed

end Session

end Stencil
