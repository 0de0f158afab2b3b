import Stencil.Catalogue.Name
import Stencil.Files.Basic
import Stencil.Filter.Basic
import Stencil.Journal
import Stencil.Template.Compile

/-!
# The catalogue

Where templates come from. A template is looked for under its normal name: first
on the shelf of compiled templates, then among the sources that were added, then
in the template directory. Every compilation has a serial number of its own, and
a handle refers to one compilation. The shelf counts the handles to each template
on it, so that a template which nobody uses can be taken off.
-/

namespace Stencil

/-- A compiled template with the serial number of its compilation. -/
structure Handle where
  serial : Nat
  template : Template

/-- A template on the shelf, and how many handles to it there are. -/
structure Shelved where
  handle : Handle
  users : Nat

/-- A catalogue. Sources and shelved templates stand under normal names. -/
structure Catalogue where
  directory : Option String
  sources : Named String
  filters : Named Filter
  shelf : Named Shelved
  depthLimit : Nat
  issued : Nat

/-- What loading a template gives: a handle, a record of where it was found, and
the catalogue afterwards. -/
structure Loaded where
  handle : Handle
  record : Record
  catalogue : Catalogue

namespace Handle

/-- The handle, described. -/
def described (handle : Handle) : String :=
  "TemplateRef \x7b name: " ++ Text.shownOption (handle.template.name.map Text.quote) ++ ", .. \x7d"

end Handle

namespace Catalogue

/-- A catalogue with the builtin filters and no templates. -/
def empty : Catalogue := ⟨none, [], Filter.builtins, [], 64, 0⟩

/-- The arity of the filter under a name. -/
def arity? (catalogue : Catalogue) (name : String) : Option Arity :=
  (catalogue.filters.get? name).map Filter.arity

/-- Compiles a source, with or without a name, and keeps no record of it but the
serial number. -/
def compile (catalogue : Catalogue) (name : Option String) (source : String) :
    Except Fault (Handle × Catalogue) :=
  match Template.compile catalogue.arity? name source with
  | .ok template =>
    .ok (⟨catalogue.issued, template⟩, { catalogue with issued := catalogue.issued + 1 })
  | .error flaw => .error ((Fault.ofFlaw source flaw).inTemplate name)

/-- Puts a template on the shelf, in the place of an earlier one. -/
def shelve (catalogue : Catalogue) (name : String) (handle : Handle) (users : Nat) : Catalogue :=
  { catalogue with shelf := catalogue.shelf.put name ⟨handle, users⟩ }

/-- Adds a template. It is compiled at once; a source that is flawed is not
added. -/
def addTemplate (catalogue : Catalogue) (name source : String) : Except Fault Catalogue := do
  let normal := TemplateName.normal name
  let (handle, catalogue) ← catalogue.compile (some normal) source
  return { catalogue.shelve normal handle 0 with sources := catalogue.sources.put normal source }

/-- Forgets a template that was added. -/
def removeTemplate (catalogue : Catalogue) (name : String) : Catalogue :=
  let normal := TemplateName.normal name
  { catalogue with
    sources := catalogue.sources.drop normal, shelf := catalogue.shelf.drop normal }

/-- Adds a filter, in the place of an earlier one. -/
def addFilter (catalogue : Catalogue) (name : String) (filter : Filter) : Catalogue :=
  { catalogue with filters := catalogue.filters.put name filter }

/-- Sets the directory that templates are read from, and clears the shelf. -/
def setDirectory (catalogue : Catalogue) (directory : String) : Catalogue :=
  { catalogue with directory := some directory, shelf := [] }

/-- Reads the source of a template from the template directory. -/
def readFile (catalogue : Catalogue) (files : Files) (name : String) : Except Cause String :=
  match catalogue.directory with
  | none => .error (.unknownTemplate name)
  | some directory =>
    if name = "" then .error (.unknownTemplate name)
    else
      let path := FilePath.join directory name
      match files.readText path with
      | .ok source => .ok source
      | .error .missing => .error (.unknownTemplate name)
      | .error error => .error (.file path error)

/-- The source of a template: the one that was added, or else the file. -/
def findSource (catalogue : Catalogue) (files : Files) (name : String) : Except Cause String :=
  match catalogue.sources.get? name with
  | some source => .ok source
  | none => catalogue.readFile files name

/-- Loads a template that is not on the shelf. The line of the tag that asks for
it, if one does, is attached to a failure to find its source. -/
def loadSource (catalogue : Catalogue) (files : Files) (name : String) (line : Option Nat) :
    Except Fault Loaded :=
  match catalogue.findSource files name with
  | .error cause => .error ((Fault.ofCause cause).atLine line)
  | .ok source =>
    match catalogue.compile (some name) source with
    | .error fault => .error fault
    | .ok (handle, catalogue) =>
      .ok ⟨handle, .loaded name, catalogue.shelve name handle 1⟩

/-- Loads a template by any of its names, from the shelf if it is there. The
handle given out counts as a user. -/
def load (catalogue : Catalogue) (files : Files) (name : String) (line : Option Nat) :
    Except Fault Loaded :=
  let normal := TemplateName.normal name
  match catalogue.shelf.get? normal with
  | some shelved =>
    .ok ⟨shelved.handle, .reused normal,
      catalogue.shelve normal shelved.handle (shelved.users + 1)⟩
  | none => catalogue.loadSource files normal line

/-- Changes the number of users of the template that a handle refers to, if that
very compilation is on the shelf. -/
def recount (catalogue : Catalogue) (handle : Handle) (change : Nat → Nat) : Catalogue :=
  match handle.template.name with
  | none => catalogue
  | some name =>
    { catalogue with
      shelf := catalogue.shelf.update name fun shelved =>
        if shelved.handle.serial = handle.serial then
          { shelved with users := change shelved.users }
        else shelved }

/-- Counts one more handle to the same template. -/
def retain (catalogue : Catalogue) (handle : Handle) : Catalogue :=
  catalogue.recount handle (· + 1)

/-- Counts a handle less. -/
def release (catalogue : Catalogue) (handle : Handle) : Catalogue :=
  catalogue.recount handle (· - 1)

/-- A template stands on the shelf under the name. -/
def isShelved (catalogue : Catalogue) (name : String) : Bool :=
  catalogue.shelf.has (TemplateName.normal name)

/-- The names of the templates on the shelf that nobody uses, in order. -/
def unused (catalogue : Catalogue) : List String :=
  Named.names (catalogue.shelf.filter fun entry => entry.2.users = 0)

/-- Takes the templates that nobody uses off the shelf. -/
def evict (catalogue : Catalogue) : Catalogue :=
  { catalogue with shelf := catalogue.shelf.filter fun entry => entry.2.users ≠ 0 }

/-- The catalogue, described. -/
def described (catalogue : Catalogue) : String :=
  "Engine \x7b template_dir: " ++ Text.shownOption (catalogue.directory.map Text.quote) ++ ", templates: ["
    ++ ", ".intercalate (catalogue.sources.names.map Text.quote) ++ "], filters: \x7b"
    ++ ", ".intercalate (catalogue.filters.names.map Text.quote)
    ++ "\x7d, max_include_depth: " ++ Text.decimal catalogue.depthLimit ++ ", .. \x7d"

/-- A name is looked up like any other name of the same template. -/
theorem load_normal (catalogue : Catalogue) (files : Files) (name other : String)
    (line : Option Nat) (same : TemplateName.normal name = TemplateName.normal other) :
    catalogue.load files name line = catalogue.load files other line := by
  simp only [load, same]

/-- Giving back a handle does not touch the filters. -/
@[simp] theorem filters_release (catalogue : Catalogue) (handle : Handle) :
    (catalogue.release handle).filters = catalogue.filters := by
  unfold release recount
  cases handle.template.name <;> rfl

/-- Nor the depth limit. -/
@[simp] theorem depthLimit_release (catalogue : Catalogue) (handle : Handle) :
    (catalogue.release handle).depthLimit = catalogue.depthLimit := by
  unfold release recount
  cases handle.template.name <;> rfl

/-- A handle to what was compiled has the next serial number. -/
theorem compile_cases {catalogue after : Catalogue} {name : Option String} {source : String}
    {handle : Handle} (compiled : catalogue.compile name source = .ok (handle, after)) :
    ∃ template, Template.compile catalogue.arity? name source = .ok template ∧
      handle = ⟨catalogue.issued, template⟩ ∧
      after = { catalogue with issued := catalogue.issued + 1 } := by
  unfold Catalogue.compile at compiled
  cases made : Template.compile catalogue.arity? name source with
  | error flaw =>
    rw [made] at compiled
    cases compiled
  | ok template =>
    rw [made] at compiled
    cases compiled
    exact ⟨template, rfl, rfl, rfl⟩

/-- A template that is loaded stands on the shelf; or there is none on the shelf, and it
was compiled from its source just now and put there. -/
theorem load_cases {catalogue : Catalogue} {files : Files} {name : String} {line : Option Nat}
    {loaded : Loaded} (found : catalogue.load files name line = .ok loaded) :
    (∃ shelved, catalogue.shelf.get? (TemplateName.normal name) = some shelved ∧
        loaded.handle = shelved.handle ∧
        loaded.catalogue = catalogue.shelve (TemplateName.normal name) shelved.handle
          (shelved.users + 1)) ∨
      ∃ source template, catalogue.shelf.get? (TemplateName.normal name) = none ∧
        catalogue.findSource files (TemplateName.normal name) = .ok source ∧
        Template.compile catalogue.arity? (some (TemplateName.normal name)) source = .ok template ∧
        loaded.handle = ⟨catalogue.issued, template⟩ ∧
        loaded.catalogue =
          { catalogue with issued := catalogue.issued + 1 }.shelve (TemplateName.normal name)
            ⟨catalogue.issued, template⟩ 1 := by
  simp only [load] at found
  split at found
  · rename_i shelved shelvedThere
    cases found
    exact Or.inl ⟨shelved, shelvedThere, rfl, rfl⟩
  · rename_i missing
    simp only [loadSource] at found
    split at found
    · cases found
    · rename_i source searched
      split at found
      · cases found
      · rename_i handle between compiled
        obtain ⟨template, made, rfl, rfl⟩ := compile_cases compiled
        cases found
        exact Or.inr ⟨source, template, missing, searched, made, rfl, rfl⟩

/-- A source that cannot be found is not there, or cannot be read. -/
theorem kind_of_findSource {catalogue : Catalogue} {files : Files} {name : String}
    {cause : Cause} (failed : catalogue.findSource files name = .error cause) :
    cause.kind = .resolution ∨ cause.kind = .io := by
  unfold findSource readFile at failed
  grind [Cause.kind]

/-- A template that is not loaded is not on the shelf; and it has no source that can be read, and
the line is all that is told of the place, or a flawed one, and the flaw is pointed at. -/
theorem load_error_cases {catalogue : Catalogue} {files : Files} {name : String}
    {line : Option Nat} {fault : Fault} (failed : catalogue.load files name line = .error fault) :
    catalogue.shelf.get? (TemplateName.normal name) = none ∧
      ((∃ cause, catalogue.findSource files (TemplateName.normal name) = .error cause ∧
          fault = (Fault.ofCause cause).atLine line) ∨
        ∃ source flaw, catalogue.findSource files (TemplateName.normal name) = .ok source ∧
          Template.compile catalogue.arity? (some (TemplateName.normal name)) source = .error flaw ∧
          fault = (Fault.ofFlaw source flaw).inTemplate (some (TemplateName.normal name))) := by
  simp only [load, loadSource, compile] at failed
  split at failed
  · cases failed
  · rename_i missing
    refine ⟨missing, ?_⟩
    split at failed
    · rename_i cause unread
      cases failed
      exact .inl ⟨cause, unread, rfl⟩
    · rename_i source read
      cases compiled :
          Template.compile catalogue.arity? (some (TemplateName.normal name)) source with
      | ok template =>
        rw [compiled] at failed
        cases failed
      | error flaw =>
        rw [compiled] at failed
        cases failed
        exact .inr ⟨source, flaw, read, compiled, rfl⟩

/-- A template that cannot be loaded has no source, or a flawed one. -/
theorem kind_of_load {catalogue : Catalogue} {files : Files} {name : String}
    {line : Option Nat} {fault : Fault} (failed : catalogue.load files name line = .error fault) :
    fault.cause.kind ≠ .rendering := by
  obtain ⟨-, ⟨cause, unread, rfl⟩ | ⟨source, flaw, -, -, rfl⟩⟩ := load_error_cases failed
  · rcases kind_of_findSource unread with kind | kind <;> simp [kind]
  · simp [Fault.ofFlaw, Cause.kind]

/-- Loading a template does not touch the filters. -/
theorem filters_load {catalogue : Catalogue} {files : Files} {name : String} {line : Option Nat}
    {loaded : Loaded} (found : catalogue.load files name line = .ok loaded) :
    loaded.catalogue.filters = catalogue.filters := by
  rcases load_cases found with ⟨_, _, _, after⟩ | ⟨_, _, _, _, _, _, after⟩
  · rw [after]
    rfl
  · rw [after]
    rfl

/-- Nor the depth limit. -/
theorem depthLimit_load {catalogue : Catalogue} {files : Files} {name : String}
    {line : Option Nat} {loaded : Loaded} (found : catalogue.load files name line = .ok loaded) :
    loaded.catalogue.depthLimit = catalogue.depthLimit := by
  rcases load_cases found with ⟨_, _, _, after⟩ | ⟨_, _, _, _, _, _, after⟩
  · rw [after]
    rfl
  · rw [after]
    rfl

/-- No template that is taken off the shelf had users, and none that stays has
none. -/
theorem users_pos_of_mem_evict (catalogue : Catalogue) (entry : String × Shelved)
    (stays : entry ∈ catalogue.evict.shelf) : 0 < entry.2.users := by
  simp only [evict, List.mem_filter, decide_eq_true_eq] at stays
  exact Nat.pos_of_ne_zero stays.2

end Catalogue

end Stencil
