import Stencil.Catalogue
import Stencil.Proofs.Compiled

/-!
# Sound catalogues

The handles that a catalogue knows are those on the shelf; others are held outside
of it. A catalogue is sound, with regard to the handles that are held, if all of
them are to closed templates, and if no two of them share a serial number, nor any
with a compilation to come. Everything that a catalogue can be used for keeps it
sound; the only new handles are those to templates that were just compiled.
-/

namespace Stencil.Catalogue

variable {catalogue after : Catalogue} {held : List Handle}

/-- The handles that are held and those on the shelf. -/
def known (catalogue : Catalogue) (held : List Handle) : List Handle :=
  held ++ catalogue.shelf.map fun entry => entry.2.handle

/-- All handles that are known are to closed templates, and their serial numbers were
given out to them only. -/
structure Sound (catalogue : Catalogue) (held : List Handle) : Prop where
  closed : ∀ handle ∈ catalogue.known held, handle.template.Closed
  issued : ∀ handle ∈ catalogue.known held, handle.serial < catalogue.issued
  distinct : ∀ handle ∈ catalogue.known held, ∀ other ∈ catalogue.known held,
    handle.serial = other.serial → handle = other

/-- It does no harm to know fewer handles, or to have given out more numbers. -/
theorem Sound.restrict (sound : catalogue.Sound held) {fewer : List Handle}
    (known : ∀ handle ∈ after.known fewer, handle ∈ catalogue.known held)
    (issued : catalogue.issued ≤ after.issued) : after.Sound fewer := by
  constructor
  · intro handle member
    exact sound.closed handle (known handle member)
  · intro handle member
    exact Nat.lt_of_lt_of_le (sound.issued handle (known handle member)) issued
  · intro handle member other among same
    exact sound.distinct handle (known handle member) other (known other among) same

/-- A handle that is on the shelf may be held. -/
theorem Sound.hold (sound : catalogue.Sound held) {handle : Handle}
    (isKnown : handle ∈ catalogue.known held) : catalogue.Sound (handle :: held) := by
  refine sound.restrict ?_ (Nat.le_refl _)
  intro other member
  rcases List.mem_cons.mp member with rfl | among
  · exact isKnown
  · exact among

/-- A handle need not be held any longer. -/
theorem Sound.tail {handle : Handle} (sound : catalogue.Sound (handle :: held)) :
    catalogue.Sound held := by
  refine sound.restrict ?_ (Nat.le_refl _)
  exact fun other member => List.mem_cons_of_mem handle member

/-- What is on the shelf is known. -/
theorem known_of_shelf {entry : String × Shelved} (onShelf : entry ∈ catalogue.shelf)
    (held : List Handle) : entry.2.handle ∈ catalogue.known held :=
  List.mem_append_right _ (List.mem_map_of_mem onShelf)

/-- A shelf of handles that are known is as good. -/
theorem Sound.reshelve (sound : catalogue.Sound held)
    (known : ∀ entry ∈ after.shelf, entry.2.handle ∈ catalogue.known held)
    (issued : after.issued = catalogue.issued) : after.Sound held := by
  refine sound.restrict ?_ (Nat.le_of_eq issued.symm)
  intro other member
  rcases List.mem_append.mp member with isHeld | onShelf
  · exact List.mem_append_left _ isHeld
  · obtain ⟨entry, isEntry, rfl⟩ := List.mem_map.mp onShelf
    exact known entry isEntry

/-- A handle that is known may be put on the shelf. -/
theorem Sound.shelve (sound : catalogue.Sound held) {handle : Handle}
    (isKnown : handle ∈ catalogue.known held) (name : String) (users : Nat) :
    (catalogue.shelve name handle users).Sound held := by
  refine sound.reshelve (fun entry member => ?_) rfl
  rcases Named.mem_of_mem_put member with rfl | earlier
  · exact isKnown
  · exact known_of_shelf earlier held

/-- A template that was just compiled may be held under the next serial number. -/
theorem Sound.issue (sound : catalogue.Sound held) {template : Template}
    (closed : template.Closed) :
    ({ catalogue with issued := catalogue.issued + 1 } : Catalogue).Sound
      (⟨catalogue.issued, template⟩ :: held) := by
  have fresh : ∀ handle ∈ catalogue.known held, handle.serial ≠ catalogue.issued :=
    fun handle member => Nat.ne_of_lt (sound.issued handle member)
  constructor
  · intro handle member
    rcases List.mem_cons.mp member with rfl | earlier
    · exact closed
    · exact sound.closed handle earlier
  · intro handle member
    rcases List.mem_cons.mp member with rfl | earlier
    · exact Nat.lt_succ_self _
    · exact Nat.lt_succ_of_lt (sound.issued handle earlier)
  · intro handle member other among same
    rcases List.mem_cons.mp member with rfl | earlier
    · rcases List.mem_cons.mp among with rfl | before
      · rfl
      · exact absurd same.symm (fresh other before)
    · rcases List.mem_cons.mp among with rfl | before
      · exact absurd same (fresh handle earlier)
      · exact sound.distinct handle earlier other before same

/-- Compiling gives a handle that may be held. -/
theorem Sound.compile (sound : catalogue.Sound held) {name : Option String} {source : String}
    {handle : Handle} (compiled : catalogue.compile name source = .ok (handle, after)) :
    after.Sound (handle :: held) := by
  obtain ⟨template, made, rfl, rfl⟩ := compile_cases compiled
  exact sound.issue (Template.closed_of_compile made)

/-- So does loading. -/
theorem Sound.load (sound : catalogue.Sound held) {files : Files} {name : String}
    {line : Option Nat} {loaded : Loaded}
    (found : catalogue.load files name line = .ok loaded) :
    loaded.catalogue.Sound (loaded.handle :: held) := by
  rcases load_cases found with
    ⟨shelved, there, handle, shelf⟩ | ⟨source, template, _, _, made, handle, shelf⟩
  · have isKnown : shelved.handle ∈ catalogue.known held :=
      known_of_shelf (Named.mem_of_get? there) held
    rw [shelf, handle]
    exact (sound.hold isKnown).shelve List.mem_cons_self _ _
  · rw [shelf, handle]
    exact (sound.issue (Template.closed_of_compile made)).shelve List.mem_cons_self _ _

/-- Counting users changes no handle. -/
theorem Sound.recount (sound : catalogue.Sound held) (handle : Handle) (change : Nat → Nat) :
    (catalogue.recount handle change).Sound held := by
  rw [Catalogue.recount]
  cases handle.template.name with
  | none => exact sound
  | some name =>
    refine sound.reshelve (fun entry member => ?_) rfl
    obtain ⟨before, wasEntry, rfl⟩ := List.mem_map.mp member
    have same : before.2.handle ∈ catalogue.known held := known_of_shelf wasEntry held
    split
    · simp only []
      split <;> exact same
    · exact same

/-- A handle may be given back. -/
theorem Sound.release (sound : catalogue.Sound held) (handle : Handle) :
    (catalogue.release handle).Sound held :=
  sound.recount handle _

/-- A handle may be doubled. -/
theorem Sound.retain (sound : catalogue.Sound held) (handle : Handle) :
    (catalogue.retain handle).Sound held :=
  sound.recount handle _

end Stencil.Catalogue
