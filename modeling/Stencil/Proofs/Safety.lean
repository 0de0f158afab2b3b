import Mathlib
import Stencil.Proofs.Dealings
import Stencil.Proofs.Safety.Goals
import Stencil.Proofs.Sessions

/-!
# Rendering never goes wrong

A rendering reaches compiled templates only: those on the shelf were compiled, and one that it
loads is compiled before it is put there. As compiled templates are well formed, every goal that is
expanded does the same with its guards as without. So no guard of a rendering ever fails: nothing
is cut out of a text but at boundaries of characters, no block, item or element is asked for that
is not there, and nothing is divided by zero.
-/

namespace Stencil

/-- All templates on the shelf were compiled. -/
def Catalogue.Stocked (catalogue : Catalogue) : Prop :=
  ∀ entry ∈ catalogue.shelf, entry.2.handle.template.Compiled

namespace Catalogue.Stocked

variable {catalogue : Catalogue}

/-- A compiled template may be put on the shelf. -/
theorem shelve (stocked : catalogue.Stocked) {handle : Handle} (compiled : handle.template.Compiled)
    (name : String) (users : Nat) : (catalogue.shelve name handle users).Stocked := by
  intro entry member
  rcases Named.mem_of_mem_put member with rfl | earlier
  · exact compiled
  · exact stocked entry earlier

/-- A template that is loaded was compiled, and so are those on the shelf afterwards. -/
theorem load (stocked : catalogue.Stocked) {files : Files} {name : String} {line : Option Nat}
    {loaded : Loaded} (found : catalogue.load files name line = .ok loaded) :
    loaded.handle.template.Compiled ∧ loaded.catalogue.Stocked := by
  rcases load_cases found with
    ⟨shelved, there, handle, shelf⟩ | ⟨source, template, _, _, made, handle, shelf⟩
  · have compiled : shelved.handle.template.Compiled := stocked _ (Named.mem_of_get? there)
    rw [handle, shelf]
    exact ⟨compiled, stocked.shelve compiled _ _⟩
  · have compiled : template.Compiled := ⟨_, _, _, made⟩
    rw [handle, shelf]
    refine ⟨compiled, Stocked.shelve ?_ compiled _ _⟩
    exact stocked

/-- A handle may be given back. -/
theorem release (stocked : catalogue.Stocked) (handle : Handle) :
    (catalogue.release handle).Stocked := by
  unfold Catalogue.release recount
  cases handle.template.name with
  | none => exact stocked
  | some name =>
    intro entry member
    obtain ⟨before, earlier, rfl⟩ := List.mem_map.mp member
    have compiled := stocked before earlier
    split
    · dsimp only
      split <;> exact compiled
    · exact compiled

end Catalogue.Stocked

namespace Run

variable {α β : Type} {isGood : α → Prop}

/-- From worlds with compiled templates on the shelf, both actions come to the same result and
leave the same such world behind. -/
def Agrees (isGood : α → Prop) (first second : Run α) : Prop :=
  Lockstep (fun _ => False) (fun world other => world = other ∧ world.catalogue.Stocked) isGood
    first second

/-- What has nothing to do with the catalogue agrees with itself. -/
theorem Agrees.of_aloof {action : Run α} (aloof : action.Aloof) (all : ∀ value, isGood value) :
    Agrees isGood action action := by
  apply Lockstep.diagonal
  intro world stocked
  rw [aloof.catalogue_eq]
  exact ⟨stocked, fun value _ => all value⟩

/-- Actions agree between changes that have nothing to do with the catalogue. -/
theorem Agrees.bracket (enter : World → World) (leave : World → World → World)
    (bracket : Bracket enter leave) {first second : Run α} (agrees : Agrees isGood first second) :
    Agrees isGood (fun world => ((first (enter world)).1, leave world (first (enter world)).2))
      (fun world => ((second (enter world)).1, leave world (second (enter world)).2)) := by
  rintro world _ ⟨rfl, stocked⟩
  have inside : (enter world).catalogue.Stocked := by
    rw [bracket.catalogue_enter]
    exact stocked
  rcases agrees (enter world) (enter world) ⟨rfl, inside⟩ with
    ⟨_, impossible, _⟩ | ⟨same, ⟨sameWorld, later⟩, good⟩
  · exact impossible.elim
  · refine Or.inr ⟨same, ⟨congrArg (leave world) sameWorld, ?_⟩, good⟩
    rw [bracket.catalogue_leave]
    exact later

/-- The texts that they write agree. -/
theorem Agrees.capture {first second : Run Unit} (agrees : Agrees (fun _ => True) first second) :
    Agrees (fun _ => True) (Run.capture first) (Run.capture second) := by
  rw [capture_eq, capture_eq]
  refine bracket Discipline.emptied Discipline.resink
    ⟨fun _ _ => rfl, fun _ _ _ _ => rfl, fun _ _ => rfl⟩ ?_
  exact agrees.bind fun _ _ => of_aloof (fun _ _ _ _ => rfl) fun _ => trivial

/-- Visits agree if what is done there does: the template that is loaded was compiled. -/
theorem Agrees.visit {station : Station} {first second : Handle → Station → Run Unit} (span : Span)
    (name : String)
    (inside : ∀ (handle : Handle) (entered : Station), handle.template.Compiled →
      entered.handle = station.handle → entered.derived = station.derived →
      Agrees (fun _ => True) (first handle entered) (second handle entered)) :
    Agrees (fun _ => True)
      (station.load span name >>= fun handle =>
        releasing handle (station.enter span >>= first handle))
      (station.load span name >>= fun handle =>
        releasing handle (station.enter span >>= second handle)) := by
  have loads : Agrees (fun handle : Handle => handle.template.Compiled) (station.load span name)
      (station.load span name) := by
    apply Lockstep.diagonal
    intro world stocked
    rw [Station.load_apply]
    cases found :
        world.catalogue.load world.host.files name (some (station.template.line span)) with
    | error fault => exact ⟨stocked, nofun⟩
    | ok loaded =>
      obtain ⟨compiled, later⟩ := stocked.load found
      refine ⟨later, ?_⟩
      rintro _ ⟨⟩
      exact compiled
  have enters : Agrees (fun entered : Station =>
      entered.handle = station.handle ∧ entered.derived = station.derived) (station.enter span)
      (station.enter span) := by
    apply Lockstep.diagonal
    intro world stocked
    rw [Station.enter_apply]
    refine ⟨stocked, ?_⟩
    intro entered arrives
    dsimp only at arrives
    split at arrives
    · cases arrives
      exact ⟨rfl, rfl⟩
    · cases arrives
  refine loads.bind fun handle compiled => ?_
  rintro world _ ⟨rfl, stocked⟩
  have entered : Agrees (fun _ => True) (station.enter span >>= first handle)
      (station.enter span >>= second handle) :=
    enters.bind fun entered arrived => inside handle entered compiled arrived.1 arrived.2
  rcases entered world world ⟨rfl, stocked⟩ with ⟨_, impossible, _⟩ | ⟨same, ⟨sameWorld, later⟩, _⟩
  · exact impossible.elim
  · refine Or.inr ⟨same, ⟨?_, later.release handle⟩, fun _ _ => trivial⟩
    simp only [releasing, between, id_eq, sameWorld]

end Run

/-- The logic of rendering with and without guards. A statement is among the parts of the template
that it is executed in, and that was compiled. -/
def guarding : Logic Unit where
  keeps _ isGood first second := Run.Agrees isGood first second
  admits _ station statement :=
    station.Fits ∧ statement :: statement.contained ⊆ station.template.parts
  asks _ station goal := station.Fits ∧ goal.Fits station
  good _ _ := True
  bindable _ _ := True
  legible _ _ := True
  opens _ _ := True
  catches _ _ := True
  files _ _ := True
  arrives _ _ station handle entered := handle.template.Compiled ∧
    entered.handle = station.handle ∧ entered.derived = station.derived

namespace Guarding

/-- A part of a statement is admitted with it. -/
theorem admits_contained {station : Station} {statement part : Stmt} {body : List Stmt}
    (admitted : guarding.admits () station statement)
    (inside : partsAll body ⊆ statement.contained) (member : part ∈ body) :
    guarding.admits () station part := by
  refine ⟨admitted.1, ?_⟩
  intro other among
  exact admitted.2 (List.mem_cons_of_mem _ (inside (mem_partsAll.mpr ⟨part, member, among⟩)))

/-- The statements inside of a statement that are executed where it stands. -/
theorem partsAll_level (statement : Stmt) : partsAll statement.level ⊆ statement.contained := by
  cases statement with
  | branch condition yes no =>
    intro part member
    obtain ⟨inner, isInner, among⟩ := mem_partsAll.mp member
    rcases List.mem_append.mp isInner with isYes | isNo
    · exact List.mem_append_left _ (mem_partsAll.mpr ⟨inner, isYes, among⟩)
    · exact List.mem_append_right _ (mem_partsAll.mpr ⟨inner, isNo, among⟩)
  | each loop body empty => exact List.subset_append_right _ _
  | within region body =>
    cases region with
    | tabbing => exact List.Subset.refl _
    | _ => exact List.nil_subset _
  | _ => exact List.nil_subset _

/-- And those that are executed in scopes of their own. -/
theorem partsAll_nested (statement : Stmt) : partsAll statement.nested ⊆ statement.contained := by
  cases statement with
  | each loop body empty => exact List.subset_append_left _ _
  | within region body =>
    rw [Stmt.nested]
    split
    · exact List.Subset.refl _
    · exact List.nil_subset _
  | _ => exact List.nil_subset _

/-- The logic is sound. -/
theorem sound : guarding.Sound where
  pure value good := Run.Lockstep.pure value good
  bind first onward := Run.Lockstep.bind first onward
  level admitted := fun part member => admits_contained admitted (partsAll_level _) member
  nested admitted _ := fun part member => admits_contained admitted (partsAll_nested _) member
  caught admitted _ := fun part member =>
    admits_contained admitted (List.Subset.refl _) member
  reference admitted := ⟨admitted.1, trivial⟩
  tree admitted _ := ⟨admitted.1, (List.cons_subset.mp admitted.2).2⟩
  extended arrived admitted := by
    obtain ⟨compiled, _, _⟩ := arrived
    refine ⟨⟨compiled, fun handle member => ?_⟩, trivial⟩
    rcases List.mem_append.mp member with derived | own
    · exact admitted.1.derived handle derived
    · rw [List.mem_singleton.mp own]
      exact admitted.1.own
  inserted arrived _ _ := ⟨⟨arrived.1, nofun⟩, trivial⟩
  created arrived _ _ := ⟨⟨arrived.1, nofun⟩, trivial⟩
  toScrupulous :=
    Logic.Careless.scrupulous ⟨fun _ _ => trivial, fun _ _ => trivial, fun _ _ => trivial⟩
  evaluate _ _ := .of_aloof (Run.aloof_evaluate _) fun _ => trivial
  pattern _ := (Run.Agrees.of_aloof (Run.aloof_evaluate _) fun _ => trivial).bind fun _ _ =>
    Run.Lockstep.pure _ fun _ _ => trivial
  record _ _ := .of_aloof (fun _ _ _ _ => rfl) fun _ => trivial
  enclosing := .of_aloof (fun _ _ _ _ => rfl) fun _ _ _ => trivial
  emit _ _ := .of_aloof (Run.aloof_emit _ _) fun _ => trivial
  write _ := .of_aloof (fun _ _ _ _ => rfl) fun _ => trivial
  removeSpace _ := .of_aloof (fun _ _ _ _ => rfl) fun _ => trivial
  assign _ _ := .of_aloof (fun _ _ _ _ => rfl) fun _ => trivial
  turn _ := .of_aloof (fun _ _ _ _ => rfl) fun _ => trivial
  note _ := .of_aloof (fun _ _ _ _ => rfl) fun _ => trivial
  directory := .of_aloof (fun _ _ _ _ => rfl) fun _ => trivial
  noDirectory _ _ _ := .of_aloof (fun _ _ _ _ => rfl) fun _ => trivial
  writeFile span path text _ := .of_aloof (Run.aloof_writeFile _ span path text) fun _ => trivial
  scope scope _ inside := Run.Agrees.bracket
    (fun world => { world with context := world.context.push scope })
    (fun _ after => { after with context := after.context.pop })
    ⟨fun _ _ => rfl, fun _ _ _ _ => rfl, fun _ _ => rfl⟩ (inside () trivial)
  capture inside := Run.Agrees.capture (inside () trivial)
  mute admitted inside := Run.Agrees.capture (inside () fun part member =>
    admits_contained ⟨⟨admitted.1.own, admitted.1.derived⟩, admitted.2⟩ (List.Subset.refl _) member)
  tabbed admitted _ inside := Run.Agrees.bracket (Run.switchTabbing true)
    (fun _ after => Run.switchTabbing false after)
    ⟨fun _ _ => rfl, fun _ _ _ _ => rfl, fun _ _ => rfl⟩ (inside () fun part member =>
      admits_contained ⟨⟨admitted.1.own, admitted.1.derived⟩, admitted.2⟩ (List.Subset.refl _)
        member)
  file extension inside := Run.Agrees.bracket
    (fun world => { world with context := world.context.select extension })
    (fun world after =>
      { after with context := { after.context with active := world.context.active } })
    ⟨fun _ _ => rfl, fun _ _ _ _ => rfl, fun _ _ => rfl⟩
    (Run.Agrees.capture (inside () trivial))
  visit span name _ inside := Run.Agrees.visit span name fun handle entered compiled same derived =>
    inside () handle entered ⟨compiled, same, derived⟩

/-- What fits comes to statements and goals that fit. -/
theorem provides {station : Station} {goal : Goal} (asked : guarding.asks () station goal) :
    guarding.Provides () station goal := by
  obtain ⟨fits, goalFits⟩ := asked
  have block : ∀ name definitions,
      (∀ definition ∈ definitions, definition.template.Compiled) →
      guarding.ProvidesBlock () station name definitions := by
    intro name definitions compiled
    refine ⟨?_, fun _ _ _ => ⟨fits, fun definition later =>
      compiled definition (List.mem_of_mem_tail later)⟩⟩
    intro definition body first defined _ _ part member
    have isCompiled := compiled definition (List.mem_of_mem_head? first)
    refine ⟨⟨isCompiled, fits.derived⟩, fun other among => ?_⟩
    exact Template.parts_block defined (mem_partsAll.mpr ⟨part, member, among⟩)
  have admitted : ∀ statements, partsAll statements ⊆ station.template.parts →
      ∀ part ∈ statements, guarding.admits () station part := fun statements among part member =>
    ⟨fits, fun other inside => among (mem_partsAll.mpr ⟨part, member, inside⟩)⟩
  cases goal with
  | whole => exact admitted _ station.template.parts_executed
  | reference name => exact block name _ (fits.definitions name)
  | block name definitions => exact block name definitions goalFits
  | tree nodes body =>
    refine ⟨fun _ _ => trivial, fun _ _ => admitted body goalFits, fun node _ => ?_⟩
    unfold Value.children
    split <;> exact .of_aloof (fun _ _ _ _ => rfl) fun _ _ _ => ⟨fits, goalFits⟩

/-- Expanding goals with and without guards comes to the same. -/
theorem follows (report : Mishap → Halt) (depth : Nat) :
    guarding.Follows (expandGuarded report depth) (expand depth) := by
  induction depth with
  | zero => exact fun _ _ _ _ => Run.Lockstep.halt _
  | succ depth inductionHypothesis =>
    intro _ station goal asked
    show Run.Agrees _ (station.pursueGuarded report (expandGuarded report depth) goal)
      (station.pursue (expand depth) goal)
    rw [station.pursueGuarded_eq asked.1 asked.2]
    exact sound.pursue inductionHypothesis (provides asked)

end Guarding

namespace Workshop

/-- Renders a template into a sink, with all guarded that could go wrong. -/
def renderIntoGuarded (report : Mishap → Halt) (shop : Workshop) (limit : Nat) (handle : Handle)
    (sink : Sink) : Except Halt Unit × World :=
  expandGuarded report limit (.start handle) .whole { shop with turns := [], sink := sink }

/-- With compiled templates the guarded rendering does what the rendering does. -/
theorem renderIntoGuarded_eq (report : Mishap → Halt) {shop : Workshop} {handle : Handle}
    (stocked : shop.catalogue.Stocked) (compiled : handle.template.Compiled) (limit : Nat)
    (sink : Sink) :
    shop.renderIntoGuarded report limit handle sink = shop.renderInto limit handle sink := by
  have starts : (Station.start handle).Fits := ⟨compiled, nofun⟩
  have agrees := Guarding.follows report limit () (.start handle) .whole ⟨starts, trivial⟩
  let world : World := { shop with turns := [], sink := sink }
  rcases agrees world world ⟨rfl, stocked⟩ with ⟨_, impossible, _⟩ | ⟨same, ⟨sameWorld, _⟩, _⟩
  · exact impossible.elim
  · exact Prod.ext same sameWorld

end Workshop

/-- Every template that is compiled is well formed. Rendering compiled templates never goes wrong:
whatever a mishap would be reported as, a rendering with every guard in place comes to what the
rendering comes to, so no guard ever fails, whatever the context, the filters and the host are. -/
theorem compiled_templates_render_safely :
    (∀ (arity? : String → Option Arity) (name : Option String) (source : String)
        (template : Template),
      Template.compile arity? name source = .ok template → template.WellFormed) ∧
      ∀ (report : Mishap → Halt) (shop : Workshop) (limit : Nat) (handle : Handle) (sink : Sink),
        shop.catalogue.Stocked → handle.template.Compiled →
          shop.renderIntoGuarded report limit handle sink = shop.renderInto limit handle sink :=
  ⟨fun _ _ _ _ => Template.wellFormed_of_compile, fun report _ limit _ sink stocked compiled =>
    Workshop.renderIntoGuarded_eq report stocked compiled limit sink⟩

namespace Guarding

/-- A template with a cycle tag and a named block. -/
def sample : String := Source.tag "cycle 1 2" ++ Source.block "b" (Source.hole "x.y")

/-- A workshop with nothing in it. -/
def bareShop : Workshop := ⟨.empty, .empty, .empty⟩

/-- The sample is compiled, is well formed, and renders with guards as it does without. -/
theorem sample_renders_safely :
    ∃ template, Template.compile (fun _ => none) none sample = .ok template ∧
      template.WellFormed ∧
      (bareShop.renderIntoGuarded (fun _ => .exhausted) 4 ⟨0, template⟩ (.buffer "")).1 =
        .ok () := by
  have renders : (Template.compile (fun _ => none) none sample).toOption.map (fun template =>
      (bareShop.renderInto 4 ⟨0, template⟩ (.buffer "")).1) = some (.ok ()) := by
    decide +kernel
  cases compiled : Template.compile (fun _ => none) none sample with
  | error flaw =>
    rw [compiled] at renders
    cases renders
  | ok template =>
    rw [compiled] at renders
    have wellFormed := compiled_templates_render_safely.1 _ _ _ _ compiled
    have same := compiled_templates_render_safely.2 (fun _ => .exhausted) bareShop 4 ⟨0, template⟩
      (.buffer "") nofun ⟨_, _, _, compiled⟩
    refine ⟨template, rfl, wellFormed, ?_⟩
    rw [same]
    exact Option.some.inj renders

end Guarding

end Stencil
