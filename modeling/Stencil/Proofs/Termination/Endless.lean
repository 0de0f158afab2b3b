import Stencil.Proofs.Discipline

/-!
# Blocks that refer to each other

The body of a block may refer to a second block, whose definition in another template of
the line refers back to the first. Only tags that lead to other templates are counted, so
nothing stops this: whatever depth there is, it is exhausted.
-/

namespace Stencil

namespace Run

variable {α β : Type}

/-- The action exhausts the depth in every world. -/
def Starves (action : Run α) : Prop := ∀ world, (action world).1 = .error .exhausted

/-- The action comes to a value, unless it exhausts the depth. -/
def Settles (action : Run α) : Prop :=
  ∀ world, (action world).1 = .error .exhausted ∨ ∃ value, (action world).1 = .ok value

variable {action : Run α} {next : α → Run β}

/-- A sequence exhausts the depth if its first action does. -/
theorem Starves.bind (starves : Starves action) : Starves (action >>= next) := by
  intro world
  have exhausts := starves world
  rw [bind_apply]
  rcases done : action world with ⟨result, after⟩
  rw [done] at exhausts
  subst exhausts
  rfl

/-- A sequence whose first action settles exhausts the depth or goes on with a value. -/
theorem Settles.bind_cases (settles : Settles action) (next : α → Run β) (world : World) :
    ((action >>= next) world).1 = .error .exhausted ∨
      ∃ value after, (action >>= next) world = next value after := by
  have settled := settles world
  rw [bind_apply]
  rcases done : action world with ⟨result, after⟩
  rw [done] at settled
  rcases settled with exhausts | ⟨value, comes⟩
  · subst exhausts
    exact Or.inl rfl
  · subst comes
    exact Or.inr ⟨value, after, rfl⟩

/-- So it exhausts the depth if the second action does, whatever the first comes to. -/
theorem Settles.bind_starves (settles : Settles action) (onward : ∀ value, Starves (next value)) :
    Starves (action >>= next) := by
  intro world
  rcases settles.bind_cases next world with exhausts | ⟨value, after, goesOn⟩
  · exact exhausts
  · exact goesOn ▸ onward value after

/-- A sequence settles if its actions do. -/
theorem Settles.bind (settles : Settles action) (onward : ∀ value, Settles (next value)) :
    Settles (action >>= next) := by
  intro world
  rcases settles.bind_cases next world with exhausts | ⟨value, after, goesOn⟩
  · exact Or.inl exhausts
  · exact goesOn ▸ onward value after

/-- Catching the text of an action does not feed it. -/
theorem Starves.capture {action : Run Unit} (starves : Starves action) :
    Starves (Run.capture action) := by
  intro world
  simp only [Run.capture]
  rw [starves]
  rfl

/-- Nor does it starve it. -/
theorem Settles.capture {action : Run Unit} (settles : Settles action) :
    Settles (Run.capture action) := by
  intro world
  simp only [Run.capture]
  rcases settles { world with sink := .buffer "" } with exhausts | ⟨value, comes⟩
  · rw [exhausts]
    exact Or.inl rfl
  · rw [comes]
    exact Or.inr ⟨_, rfl⟩

end Run

namespace Endless

open Run

variable {station : Station} {expand : Expansion} {name : String} {definition : Handle}
  {others : List Handle} {body : List Stmt}

/-- A definition exhausts the depth if the next one does, which is rendered before it. -/
theorem starves_of_parent (defined : definition.template.block? name = some body)
    (more : others ≠ []) (parent : Starves (expand station (.block name others))) :
    Starves (station.renderBlock expand name (definition :: others)) := by
  cases others with
  | nil => exact absurd rfl more
  | cons next rest =>
    simp only [Station.renderBlock, defined]
    exact parent.capture.bind

/-- It does if its body does, whatever the next one comes to. -/
theorem starves_of_body (defined : definition.template.block? name = some body)
    (parent : others ≠ [] → Settles (expand station (.block name others)))
    (starves : Starves (executeAll expand { station with handle := definition } body)) :
    Starves (station.renderBlock expand name (definition :: others)) := by
  have rendered : ∀ value, Starves (station.renderOver expand definition body value) := by
    intro value
    have fresh : Settles (Run.hosted (Host.fresh (Value.newRecord [("super", value)]))) :=
      fun world => Or.inr ⟨_, rfl⟩
    exact fresh.bind_starves fun block world => starves _
  simp only [Station.renderBlock, defined]
  cases others with
  | nil => exact rendered .none
  | cons next rest =>
    exact (parent (by simp)).capture.bind_starves fun text => rendered (.rawText text)

/-- Definitions with empty bodies settle. -/
theorem settles_empty (definitions : List Handle)
    (empty : ∀ definition ∈ definitions, ∀ body,
      definition.template.block? name = some body → body = [])
    (depth : Nat) : Settles (Stencil.expand depth station (.block name definitions)) := by
  induction depth generalizing definitions with
  | zero => exact fun _ => Or.inl rfl
  | succ depth inductionHypothesis =>
    cases definitions with
    | nil => exact fun _ => Or.inr ⟨(), rfl⟩
    | cons definition others =>
      show Settles (station.renderBlock (Stencil.expand depth) name (definition :: others))
      simp only [Station.renderBlock]
      cases defined : definition.template.block? name with
      | none => exact fun _ => Or.inr ⟨(), rfl⟩
      | some body =>
        have isEmpty : body = [] := empty definition List.mem_cons_self body defined
        subst isEmpty
        have rendered : ∀ value,
            Settles (station.renderOver (Stencil.expand depth) definition [] value) :=
          fun _ _ => Or.inr ⟨(), rfl⟩
        cases others with
        | nil => exact rendered .none
        | cons next rest =>
          have parent := inductionHypothesis (next :: rest) fun definition member =>
            empty definition (List.mem_cons_of_mem _ member)
          exact parent.capture.bind fun text => rendered (.rawText text)

/-- A line of three templates where a block of the first refers to a second block, and the
second one's definition refers back to the first block. All other definitions of the two
blocks are empty. -/
structure Loop (first second base : Handle) (outer inner : String) : Prop where
  firstOuter : first.template.block? outer = some [.block inner]
  firstInner : first.template.block? inner = some []
  secondOuter : second.template.block? outer = some []
  secondInner : second.template.block? inner = some [.block outer]
  baseOuter : base.template.block? outer = some []

variable {first second base : Handle} {outer inner : String}

/-- A body that refers to a block exhausts the depth if the block does. -/
theorem starves_referring {depth : Nat}
    (starves : Starves (Stencil.expand depth station (.reference name))) :
    Starves (executeAll (Stencil.expand depth) station [.block name]) :=
  starves.bind

namespace Loop

variable (loop : Loop first second base outer inner)
include loop

/-- The definitions of the first block begin with that of the first template, and the
others are empty. -/
theorem definitions_outer (derived : station.derived = [first, second])
    (own : station.handle = second ∨ station.handle = base) :
    ∃ others, station.definitions outer = first :: others ∧
      ∀ definition ∈ others, ∀ body,
        definition.template.block? outer = some body → body = [] := by
  have empty : ∀ definition, definition = second ∨ definition = base → ∀ body,
      definition.template.block? outer = some body → body = [] := by
    rintro definition (rfl | rfl) body defined
    · exact Option.some.inj (defined.symm.trans loop.secondOuter)
    · exact Option.some.inj (defined.symm.trans loop.baseOuter)
  have defining : station.derived.filter (fun handle => (handle.template.block? outer).isSome) =
      [first, second] := by
    simp [derived, loop.firstOuter, loop.secondOuter]
  simp only [Station.definitions, defining]
  split
  · refine ⟨[second], rfl, fun definition member => empty definition (Or.inl ?_)⟩
    exact List.mem_singleton.mp member
  · refine ⟨[second, station.handle], rfl, fun definition member => empty definition ?_⟩
    have listed : definition = second ∨ definition = station.handle := by simpa using member
    rcases listed with isSecond | isOwn
    · exact Or.inl isSecond
    · exact isOwn ▸ own

/-- The definitions of the second block, where the first template refers to it, are those
of the first two templates. -/
theorem definitions_inner (derived : station.derived = [first, second])
    (own : station.handle = first) : station.definitions inner = [first, second] := by
  have defining : station.derived.filter (fun handle => (handle.template.block? inner).isSome) =
      [first, second] := by
    simp [derived, loop.firstInner, loop.secondInner]
  simp [Station.definitions, defining, own]

/-- Wherever the first block of a loop is referred to, the depth is exhausted. -/
theorem starves (depth : Nat) (derived : station.derived = [first, second])
    (own : station.handle = second ∨ station.handle = base) :
    Starves (Stencil.expand depth station (.reference outer)) := by
  induction depth using Nat.strongRecOn generalizing station with
  | ind depth inductionHypothesis =>
    -- Every level may be the last one.
    rcases depth with _ | depth
    · exact fun _ => rfl
    obtain ⟨others, definitions, empty⟩ := loop.definitions_outer derived own
    show Starves (station.renderBlock (Stencil.expand depth) outer (station.definitions outer))
    rw [definitions]
    refine starves_of_body loop.firstOuter (fun _ => settles_empty others empty depth)
      (starves_referring ?_)
    rcases depth with _ | depth
    · exact fun _ => rfl
    have both : ({ station with handle := first } : Station).definitions inner =
        [first, second] := loop.definitions_inner derived rfl
    show Starves (({ station with handle := first } : Station).renderBlock (Stencil.expand depth)
      inner (({ station with handle := first } : Station).definitions inner))
    rw [both]
    refine starves_of_parent loop.firstInner (List.cons_ne_nil _ _) ?_
    rcases depth with _ | depth
    · exact fun _ => rfl
    refine starves_of_body loop.secondInner (fun impossible => absurd rfl impossible)
      (starves_referring ?_)
    exact inductionHypothesis depth (by omega) derived (Or.inl rfl)

end Loop

/-- A template that extends a shelved one exhausts the depth if that does. -/
theorem exhausts_of_extended {target : String} {span : Span} {handle : Handle} {users : Nat}
    {world : World} (inherits : station.template.inherits = true)
    (heads : station.template.heads = [.inherit (.literal (.text target)) span])
    (normal : TemplateName.normal target = target)
    (shelved : world.catalogue.shelf.get? target = some ⟨handle, users⟩)
    (shallow : station.sites.length < world.catalogue.depthLimit)
    (exhausts : ∀ depth after, after.catalogue = world.catalogue.shelve target handle (users + 1) →
      (Stencil.expand depth (({ station with
          sites := station.sites ++ [station.site span] } : Station).into handle
            (station.derived ++ [station.handle])) .whole after).1 = .error .exhausted)
    (depth : Nat) : (Stencil.expand depth station .whole world).1 = .error .exhausted := by
  cases depth with
  | zero => rfl
  | succ depth =>
    have found : world.catalogue.load world.host.files target
        (some (station.template.line span)) =
          .ok ⟨handle, .reused target, world.catalogue.shelve target handle (users + 1)⟩ := by
      rw [Catalogue.load, normal, shelved]
    have named : Run.evaluateText (.literal (.text target)) world = (.ok target, world) := rfl
    have inner := exhausts depth { world with
      catalogue := world.catalogue.shelve target handle (users + 1)
      host := { world.host with records := .reused target :: world.host.records } } rfl
    have extends_ :
        (station.inherit (Stencil.expand depth) (.literal (.text target)) span world).1 =
        .error .exhausted := by
      have entered : station.sites.length <
          (world.catalogue.shelve target handle (users + 1)).depthLimit := shallow
      rw [Station.inherit, bind_apply, named]
      simp only [bind_apply, Station.load_apply, found, Run.releasing, Run.between, id_eq,
        Station.enter_apply, entered, if_true, inner]
    show (executeAll (Stencil.expand depth) station
      (if station.template.inherits then station.template.heads else station.template.body)
        world).1 = _
    rw [inherits, if_pos rfl, heads]
    show ((station.inherit (Stencil.expand depth) (.literal (.text target)) span >>= fun _ =>
      pure ()) world).1 = _
    rw [bind_apply]
    rcases done : station.inherit (Stencil.expand depth) (.literal (.text target)) span world with
      ⟨result, after⟩
    rw [done] at extends_
    subst extends_
    rfl

end Endless

end Stencil
