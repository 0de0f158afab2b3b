import Stencil.Proofs.Naming
import Stencil.Proofs.Shelf.Lending
import Stencil.Proofs.Soundness

/-!
# The accounts of the shelf

The shelf counts the handles to each template on it. The accounts are right, with regard
to the handles that are held, if every count is the number of handles to that very
compilation, if every handle under a name is to the template that stands there now, and
if templates stand under their own, normal names. Everything that a catalogue is used
for keeps them right; a rendering, which gives back what it was lent, keeps them right
for the handles that were held before.
-/

namespace Stencil.Catalogue

variable {catalogue before after : Catalogue} {held : List Handle} {handle : Handle}

/-- How many of the handles are to the compilation that a handle refers to. -/
def uses (held : List Handle) (handle : Handle) : Nat :=
  held.countP fun other => other.serial = handle.serial

/-- The accounts of the shelf are right, with regard to the handles that are held. -/
structure Counted (catalogue : Catalogue) (held : List Handle) : Prop
    extends catalogue.Sound held where
  ordered : Named.Ordered catalogue.shelf
  keyed : ∀ name shelved, catalogue.shelf.get? name = some shelved →
    shelved.handle.template.name = some name ∧ TemplateName.normal name = name
  users : ∀ name shelved, catalogue.shelf.get? name = some shelved →
    shelved.users = uses held shelved.handle
  current : ∀ handle ∈ held, ∀ name, handle.template.name = some name →
    catalogue.shelved? name = some handle

/-- One more handle is one more use of its own compilation. -/
theorem uses_cons (held : List Handle) (first handle : Handle) :
    uses (first :: held) handle =
      uses held handle + if first.serial = handle.serial then 1 else 0 := by
  simp [uses, List.countP_cons]

/-- A template on the shelf is known. -/
theorem mem_known_of_shelved {name : String} {shelved : Shelved}
    (there : catalogue.shelf.get? name = some shelved) : shelved.handle ∈ catalogue.known held :=
  known_of_shelf (Named.mem_of_get? there) held

namespace Counted

/-- Where nothing is on the shelf and nothing is held, there is nothing to count. -/
theorem of_bare (bare : catalogue.shelf = []) : catalogue.Counted [] := by
  have unknown : catalogue.known [] = [] := by simp [known, bare]
  constructor
  · constructor <;> simp [unknown]
  · exact bare ▸ Named.ordered_nil
  · simp [bare, Named.get?]
  · simp [bare, Named.get?]
  · intro name impossible
    cases impossible

/-- It does not matter in which order the handles are counted. -/
theorem perm (counted : catalogue.Counted held) {others : List Handle} (same : held.Perm others) :
    catalogue.Counted others where
  toSound := by
    refine counted.toSound.restrict ?_ (Nat.le_refl _)
    intro handle member
    rcases List.mem_append.mp member with isHeld | onShelf
    · exact List.mem_append_left _ (same.mem_iff.mpr isHeld)
    · exact List.mem_append_right _ onShelf
  ordered := counted.ordered
  keyed := counted.keyed
  users := by
    intro name shelved there
    rw [counted.users name shelved there, uses, uses]
    exact same.countP_eq _
  current := fun handle member => counted.current handle (same.mem_iff.mpr member)

/-- A template on the shelf whose serial number a held handle has is the one that the
handle is to. -/
theorem eq_of_serial (counted : catalogue.Counted held) {name : String} {shelved : Shelved}
    (there : catalogue.shelf.get? name = some shelved) (isKnown : handle ∈ catalogue.known held)
    (same : handle.serial = shelved.handle.serial) : handle = shelved.handle :=
  counted.distinct handle isKnown shelved.handle (mem_known_of_shelved there) same

/-- What does not count on the shelf may change. -/
theorem of_shelf (counted : catalogue.Counted held) (shelf : after.shelf = catalogue.shelf)
    (issued : after.issued = catalogue.issued) : after.Counted held where
  toSound := by
    refine counted.toSound.restrict (fun handle member => ?_) (Nat.le_of_eq issued.symm)
    rwa [known, shelf] at member
  ordered := shelf ▸ counted.ordered
  keyed := shelf ▸ counted.keyed
  users := shelf ▸ counted.users
  current := by
    intro handle member name named
    rw [shelved?, shelf]
    exact counted.current handle member name named

/-- A template that was compiled without a name may be held; it is not counted. -/
theorem issue (counted : catalogue.Counted held) {template : Template} (closed : template.Closed)
    (unnamed : template.name = none) :
    ({ catalogue with issued := catalogue.issued + 1 } : Catalogue).Counted
      (⟨catalogue.issued, template⟩ :: held) where
  toSound := counted.toSound.issue closed
  ordered := counted.ordered
  keyed := counted.keyed
  users := by
    intro name shelved there
    have earlier : shelved.handle.serial < catalogue.issued :=
      counted.issued shelved.handle (mem_known_of_shelved there)
    have other : catalogue.issued ≠ shelved.handle.serial := Nat.ne_of_gt earlier
    rw [uses_cons, if_neg other]
    exact counted.users name shelved there
  current := by
    intro handle member name named
    rcases List.mem_cons.mp member with rfl | among
    · rw [unnamed] at named
      cases named
    · exact counted.current handle among name named

/-- A template that was compiled just now may be put on the shelf under its name, with or
without a handle to it, where no handle is to a template that stood there. -/
theorem shelve_new (counted : catalogue.Counted held) {template : Template} {name : String}
    (closed : template.Closed) (named : template.name = some name)
    (normal : TemplateName.normal name = name)
    (unused : ∀ handle ∈ held, handle.template.name ≠ some name) (more : List Handle)
    (own : ∀ handle ∈ more, handle = ⟨catalogue.issued, template⟩) :
    ({ catalogue with issued := catalogue.issued + 1 }.shelve name ⟨catalogue.issued, template⟩
      more.length).Counted (more ++ held) := by
  have issued := counted.toSound.issue closed
  have shelved := issued.shelve List.mem_cons_self name more.length
  have fresh : ∀ handle ∈ catalogue.known held, handle.serial ≠ catalogue.issued :=
    fun handle member => Nat.ne_of_lt (counted.issued handle member)
  have allOwn : ∀ serial, more.countP (fun other => other.serial = serial) =
      if catalogue.issued = serial then more.length else 0 := by
    intro serial
    split
    · rename_i same
      exact List.countP_eq_length.mpr fun other member => by simp [own other member, same]
    · rename_i different
      exact List.countP_eq_zero.mpr fun other member => by simp [own other member, different]
  constructor
  · refine shelved.restrict ?_ (Nat.le_refl _)
    intro handle member
    rcases List.mem_append.mp member with isHeld | onShelf
    · refine List.mem_append_left _ ?_
      rcases List.mem_append.mp isHeld with isOwn | earlier
      · exact own handle isOwn ▸ List.mem_cons_self
      · exact List.mem_cons_of_mem _ earlier
    · exact List.mem_append_right _ onShelf
  · exact counted.ordered.put _ _
  · intro other found there
    by_cases isThis : other = name
    · subst isThis
      rw [shelve, Named.get?_put_self] at there
      cases there
      exact ⟨named, normal⟩
    · rw [shelve, Named.get?_put_of_ne _ _ _ _ isThis] at there
      exact counted.keyed other found there
  · intro other found there
    rw [uses, List.countP_append, allOwn]
    by_cases isThis : other = name
    · subst isThis
      rw [shelve, Named.get?_put_self] at there
      cases there
      have nobody : held.countP (fun other => other.serial = catalogue.issued) = 0 := by
        refine List.countP_eq_zero.mpr fun handle member => ?_
        simpa using fresh handle (List.mem_append_left _ member)
      simp [nobody]
    · rw [shelve, Named.get?_put_of_ne _ _ _ _ isThis] at there
      have different := (fresh found.handle (mem_known_of_shelved there)).symm
      rw [if_neg different, Nat.zero_add]
      exact counted.users other found there
  · intro handle member other isNamed
    rcases List.mem_append.mp member with isOwn | earlier
    · have same := own handle isOwn
      subst same
      rw [named] at isNamed
      cases isNamed
      simp [shelved?, shelve]
    · have isOther : other ≠ name := fun same => unused handle earlier (same ▸ isNamed)
      rw [shelved?, shelve, Named.get?_put_of_ne _ _ _ _ isOther]
      exact counted.current handle earlier other isNamed

/-- A change of the count of one template keeps the accounts right if the handles that are
held change along with it. -/
theorem recount (counted : catalogue.Counted held) {change : Nat → Nat} {others : List Handle}
    (isKnown : handle ∈ catalogue.known held) (same : ∀ other ∈ others, other ∈ handle :: held)
    (elsewhere : ∀ other : Handle, other.serial ≠ handle.serial →
      uses others other = uses held other)
    (changed : change (uses held handle) = uses others handle)
    (current : ∀ other ∈ others, ∀ name, other.template.name = some name →
      catalogue.shelved? name = some other) :
    (catalogue.recount handle change).Counted others where
  toSound := by
    refine ((counted.toSound.hold isKnown).recount handle change).restrict ?_ (Nat.le_refl _)
    intro other member
    rcases List.mem_append.mp member with isHeld | onShelf
    · exact List.mem_append_left _ (same other isHeld)
    · exact List.mem_append_right _ onShelf
  ordered := by
    unfold Catalogue.recount
    cases handle.template.name with
    | none => exact counted.ordered
    | some name =>
      simp only []
      exact counted.ordered.update name _
  keyed := by
    intro name shelved there
    rw [get?_recount] at there
    obtain ⟨earlier, wasThere, rfl⟩ := Option.map_eq_some_iff.mp there
    split <;> exact counted.keyed name earlier wasThere
  users := by
    intro name shelved there
    rw [get?_recount] at there
    obtain ⟨earlier, wasThere, rfl⟩ := Option.map_eq_some_iff.mp there
    have before := counted.users name earlier wasThere
    split
    · rename_i isThis
      have equal := counted.eq_of_serial wasThere isKnown isThis.2.symm
      show change earlier.users = uses others earlier.handle
      rw [before, ← equal, changed]
    · rename_i notThis
      -- A template of this serial number would be the handle's, and stand under its name.
      have other : earlier.handle.serial ≠ handle.serial := by
        intro sameSerial
        have equal := counted.eq_of_serial wasThere isKnown sameSerial.symm
        exact notThis ⟨equal ▸ (counted.keyed name earlier wasThere).1, sameSerial⟩
      rw [before, elsewhere _ other]
  current := by
    intro other member name named
    rw [shelved?_recount]
    exact current other member name named

/-- One handle more to a template may be held if it is counted. -/
theorem retain (counted : catalogue.Counted held) (isKnown : handle ∈ catalogue.known held)
    (isCurrent : ∀ name, handle.template.name = some name →
      catalogue.shelved? name = some handle) :
    (catalogue.retain handle).Counted (handle :: held) := by
  refine counted.recount isKnown (fun _ member => member) ?_ ?_ ?_
  · intro other different
    rw [uses_cons, if_neg (Ne.symm different), Nat.add_zero]
  · rw [uses_cons, if_pos rfl]
  · intro other member
    rcases List.mem_cons.mp member with rfl | among
    · exact isCurrent
    · exact counted.current other among

/-- A handle that is given back is counted no longer. -/
theorem release (counted : catalogue.Counted (handle :: held)) :
    (catalogue.release handle).Counted held := by
  refine counted.recount (List.mem_append_left _ List.mem_cons_self) ?_ ?_ ?_ ?_
  · exact fun other member => List.mem_cons_of_mem _ (List.mem_cons_of_mem _ member)
  · intro other different
    rw [uses_cons, if_neg (Ne.symm different), Nat.add_zero]
  · rw [uses_cons, if_pos rfl, Nat.add_sub_cancel]
  · exact fun other member => counted.current other (List.mem_cons_of_mem _ member)

/-- A template that is loaded is held, and counted. -/
theorem load (counted : catalogue.Counted held) {files : Files} {name : String}
    {line : Option Nat} {loaded : Loaded} (found : catalogue.load files name line = .ok loaded) :
    loaded.catalogue.Counted (loaded.handle :: held) := by
  rcases load_cases found with
    ⟨shelved, there, handle, shelf⟩ | ⟨source, template, missing, _, made, handle, shelf⟩
  · obtain ⟨named, _⟩ := counted.keyed _ shelved there
    have counting : loaded.catalogue = catalogue.retain shelved.handle := by
      have put := counted.ordered.put_eq_update there fun other =>
        if other.handle.serial = shelved.handle.serial then
          { other with users := other.users + 1 }
        else other
      rw [if_pos rfl] at put
      rw [shelf, shelve, put, Catalogue.retain, Catalogue.recount, named]
    rw [counting, handle]
    refine counted.retain (mem_known_of_shelved there) fun other isNamed => ?_
    cases Option.some.inj (named.symm.trans isNamed)
    rw [shelved?, there]
    rfl
  · have named := (Template.of_compile made).1
    rw [shelf, handle]
    refine counted.shelve_new (Template.closed_of_compile made) named
      (TemplateName.normal_normal name) ?_ [⟨catalogue.issued, template⟩] (by simp)
    intro other member isNamed
    have there := counted.current other member _ isNamed
    rw [shelved?, missing] at there
    cases there

/-- A template that is added is on the shelf without users, where no handle is held. -/
theorem addTemplate (counted : catalogue.Counted []) {name source : String}
    (added : catalogue.addTemplate name source = .ok after) : after.Counted [] := by
  obtain ⟨template, made, rfl⟩ := addTemplate_cases added
  have shelved := counted.shelve_new (Template.closed_of_compile made)
    (Template.of_compile made).1 (TemplateName.normal_normal name)
    (fun _ impossible => nomatch impossible) [] (fun _ impossible => nomatch impossible)
  exact shelved.of_shelf rfl rfl

/-- Templates that no handle is to may be taken off the shelf. -/
theorem narrow (counted : catalogue.Counted held) (keep : String × Shelved → Bool)
    (stay : ∀ name shelved, catalogue.shelf.get? name = some shelved →
      shelved.handle ∈ held → keep (name, shelved) = true) :
    ({ catalogue with shelf := catalogue.shelf.filter keep } : Catalogue).Counted held where
  toSound := by
    refine counted.toSound.restrict ?_ (Nat.le_refl _)
    intro other member
    rcases List.mem_append.mp member with isHeld | onShelf
    · exact List.mem_append_left _ isHeld
    · obtain ⟨entry, isEntry, rfl⟩ := List.mem_map.mp onShelf
      exact List.mem_append_right _ (List.mem_map_of_mem (List.mem_filter.mp isEntry).1)
  ordered := counted.ordered.filter keep
  keyed := by
    intro name shelved there
    rw [counted.ordered.get?_filter, Option.filter_eq_some_iff] at there
    exact counted.keyed name shelved there.1
  users := by
    intro name shelved there
    rw [counted.ordered.get?_filter, Option.filter_eq_some_iff] at there
    exact counted.users name shelved there.1
  current := by
    intro handle member name named
    obtain ⟨shelved, there, same⟩ :=
      Option.map_eq_some_iff.mp (counted.current handle member name named)
    rw [shelved?, counted.ordered.get?_filter, there, Option.filter_some,
      if_pos (stay name shelved there (same ▸ member)), ← same]
    rfl

/-- A template has no users exactly if no handle is to it. -/
theorem users_eq_zero (counted : catalogue.Counted held) {name : String} {shelved : Shelved}
    (there : catalogue.shelf.get? name = some shelved) :
    shelved.users = 0 ↔ shelved.handle ∉ held := by
  rw [counted.users name shelved there, uses, List.countP_eq_zero]
  constructor
  · exact fun others isHeld => others shelved.handle isHeld (by simp)
  · intro notHeld other member
    have different : other.serial ≠ shelved.handle.serial := by
      intro same
      have equal := counted.eq_of_serial there (List.mem_append_left _ member) same
      exact notHeld (equal ▸ member)
    simpa using different

/-- Taking unused templates off the shelf keeps the accounts right. -/
theorem evict (counted : catalogue.Counted held) : catalogue.evict.Counted held := by
  refine counted.narrow _ fun name shelved there isHeld => ?_
  have used : shelved.users ≠ 0 := fun none => (counted.users_eq_zero there).mp none isHeld
  simpa using used

/-- What is lent is given back: after a rendering the handles that were held before are
counted. -/
theorem lends (counted : before.Counted held) (lends : Lends before after) :
    after.Counted held := by
  induction lends generalizing held with
  | nothing => exact counted
  | next _ _ first later => exact later (first counted)
  | visit found _ meanwhile => exact (meanwhile (counted.load found)).release

end Counted

end Stencil.Catalogue
