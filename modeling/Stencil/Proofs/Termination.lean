import Mathlib
import Stencil.Proofs.Discipline.Same
import Stencil.Proofs.Termination.Affordable
import Stencil.Proofs.Termination.Endless

/-!
# Renderings end, unless a block refers to itself

The depth that a rendering needs is bounded by the number of blocks that the templates
define, by the trees that they walk, by the limit for tags that lead to other templates,
and by the height of the data. The one thing that the bound asks for is that no block of
an extend chain refers to itself through others; in a chain of three templates where two
blocks refer to each other, a rendering goes on without end.
-/

namespace Stencil

/-- How large everything is that a rendering may come to which stays with templates like
the given ones. -/
def Workshop.extent (shop : Workshop) (templates : List Template) : Extent :=
  .ofTemplates templates shop.catalogue.depthLimit (Scopes.height shop.context.scopes)

/-- A rendering with the builtin filters only, of data without callables, ends within a
depth that is known beforehand, if it comes to no template that is larger than the given
ones, and no block refers to itself in any line of templates. It has a result or a fault
then, and would have the same if it were allowed to go deeper. -/
theorem Workshop.renderInto_ends {shop : Workshop} {handle : Handle} {sink : Sink}
    (templates : List Template) (filters : shop.catalogue.filters = Filter.builtins)
    (data : Scopes.Every (fun value => value.isData = true) shop.context.scopes)
    (bounds : shop.Throughout (shop.extent templates).depth handle sink
      (shop.extent templates).Bounds) :
    (shop.renderInto (shop.extent templates).depth handle sink).1 ≠ .error .exhausted ∧
      ∀ deeper, (shop.extent templates).depth ≤ deeper →
        shop.renderInto deeper handle sink =
          shop.renderInto (shop.extent templates).depth handle sink := by
  have affords : (shop.extent templates).AffordsGoal (shop.extent templates).depth
      (.start handle) .whole :=
    ⟨Nat.zero_le _, Nat.zero_le _, Nat.le_of_eq (Nat.mul_succ _ _).symm⟩
  have tolerated : Halt.fault (.ofCause .unwritten) ≠ .exhausted := by decide
  have accepted := (Extent.upholds_expandWhile tolerated _ (.start handle) .whole affords
    { shop with turns := [], sink := sink } ⟨filters, rfl, Scopes.every_bounded data⟩).2
  rw [bounds.expandWhile_eq] at accepted
  have ends : (shop.renderInto (shop.extent templates).depth handle sink).1 ≠
      .error .exhausted := by
    intro exhausts
    rw [exhausts] at accepted
    exact accepted rfl
  exact ⟨ends, fun deeper more => expand_eq_of_le ends more⟩

namespace Termination

namespace Sample

/-- A tag. -/
def tag (content : String) : String := "\x7b% " ++ content ++ " %\x7d"

/-- A named block. -/
def block (name body : String) : String := tag ("block " ++ name) ++ body ++ tag "endblock"

/-- The value of an expression. -/
def hole (expression : String) : String := "\x7b\x7b " ++ expression ++ " \x7d\x7d"

/-- The template of a source, with a serial number. -/
def handle (serial : Nat) (name source : String) : Handle :=
  ⟨serial, (Template.compile (fun _ => none) (some name) source).toOption.getD default⟩

/-- A template that shows a tree in two blocks, and includes the one that extends it. -/
def outline : Handle :=
  handle 0 "outline" (tag "recursetree nodes" ++ block "item" (block "name" (hole "node.name")) ++
    hole "children" ++ tag "endrecursetree" ++ tag "include 'page'")

/-- A template that overrides one of the blocks. -/
def page : Handle :=
  handle 1 "page" (tag "extend 'outline'" ++ block "name" (hole "block.super" ++ "!"))

/-- A tree of two nodes. -/
def tree : Value :=
  .plain (.record 0 none [("name", .text "a"),
    ("children", .plain (.list 1 [.plain (.record 2 none [("name", .text "b")])]))])

/-- A workshop with both templates and the tree, where three tags may lead on. -/
def shop : Workshop where
  catalogue := { Catalogue.empty with
    shelf := [("outline", ⟨outline, 0⟩), ("page", ⟨page, 0⟩)], depthLimit := 3, issued := 2 }
  context := .ofEntries [("nodes", tree)]
  host := .empty

/-- The extent of the workshop with the two templates. -/
def extent : Extent := shop.extent [outline.template, page.template]

/-- One block refers to the other. -/
def rank (name : String) : Nat := if name = "item" then 1 else 0

/-- The result is that a tag lies too deep. -/
def isTooDeep : Except Halt Unit → Bool
  | .error (.fault fault) => fault.cause = .tooDeep 3
  | _ => false

end Sample

/-- Two templates that lead to each other are rendered until a tag lies too deep. -/
theorem sample_ends :
    Sample.extent.depth = 140 ∧
      (Sample.shop.renderInto 140 Sample.page (.buffer "")).1 ≠ .error .exhausted ∧
      (∀ deeper, 140 ≤ deeper → Sample.shop.renderInto deeper Sample.page (.buffer "") =
        Sample.shop.renderInto 140 Sample.page (.buffer "")) ∧
      Sample.isTooDeep (Sample.shop.renderInto 140 Sample.page (.buffer "")).1 = true := by
  have data : Scopes.Every (fun value => value.isData = true) Sample.shop.context.scopes := by
    show ∀ scope ∈ Sample.shop.context.scopes, ∀ entry ∈ scope, entry.2.isData = true
    decide +kernel
  have bounds : Sample.shop.Throughout Sample.extent.depth Sample.page (.buffer "")
      Sample.extent.Bounds :=
    .of_checking (Sample.extent.isBoundedBy Sample.rank) .exhausted
      (fun _ world => Extent.bounds_of_isBoundedBy world) (by decide +kernel)
  have depth : Sample.extent.depth = 140 := by decide +kernel
  have ends := Workshop.renderInto_ends [Sample.outline.template, Sample.page.template] rfl data
    bounds
  rw [show (Sample.shop.extent _).depth = 140 from depth] at ends
  exact ⟨depth, ends.1, ends.2, by decide +kernel⟩

namespace Sample

/-- A template with a block. -/
def base : Handle := handle 0 "base" (block "x" "")

/-- A template that extends it, with a second block around the first one. -/
def middle : Handle := handle 1 "middle" (tag "extend 'base'" ++ block "y" (block "x" ""))

/-- A template that extends this one, with the first block around the second one. -/
def last : Handle := handle 2 "last" (tag "extend 'middle'" ++ block "x" (block "y" ""))

/-- A workshop with the three templates, and nothing in the context. -/
def chain : Workshop where
  catalogue := { Catalogue.empty with
    shelf := [("base", ⟨base, 0⟩), ("last", ⟨last, 0⟩), ("middle", ⟨middle, 0⟩)], issued := 3 }
  context := .empty
  host := .empty

/-- The first template, compiled. -/
theorem base_template : base.template =
    ⟨some "base", block "x" "", [.block "x"], [("x", [])], false⟩ := by
  cbv

/-- The second template, compiled. -/
theorem middle_template : middle.template =
    ⟨some "middle", tag "extend 'base'" ++ block "y" (block "x" ""),
      [.inherit (.literal (.text "base")) ⟨0, 19⟩, .block "y"],
      [("x", []), ("y", [.block "x"])], true⟩ := by
  cbv

/-- The third template, compiled. -/
theorem last_template : last.template =
    ⟨some "last", tag "extend 'middle'" ++ block "x" (block "y" ""),
      [.inherit (.literal (.text "middle")) ⟨0, 21⟩, .block "x"],
      [("y", []), ("x", [.block "y"])], true⟩ := by
  cbv

/-- The two blocks refer to each other. -/
theorem loop : Endless.Loop last middle base "x" "y" where
  firstOuter := by rw [last_template]; rfl
  firstInner := by rw [last_template]; rfl
  secondOuter := by rw [middle_template]; rfl
  secondInner := by rw [middle_template]; rfl
  baseOuter := by rw [base_template]; rfl

end Sample

/-- Three templates that compile, the usual limit for tags and an empty context are not
enough for a rendering to end: the blocks of the chain refer to each other, so that
whatever depth is allowed is exhausted. -/
theorem sample_endless :
    [Sample.base, Sample.middle, Sample.last].map (·.template.name) =
        [some "base", some "middle", some "last"] ∧
      Sample.chain.catalogue.filters = Filter.builtins ∧
      Sample.chain.context.scopes = [[]] ∧
      ∀ limit, (Sample.chain.renderInto limit Sample.last (.buffer "")).1 = .error .exhausted := by
  have inBase : ∀ (station : Station) (depth : Nat) (world : World),
      station.handle = Sample.base → station.derived = [Sample.last, Sample.middle] →
      (expand depth station .whole world).1 = .error .exhausted := by
    intro station depth world own derived
    cases depth with
    | zero => rfl
    | succ depth =>
      have executed : station.template.executed = [.block "x"] := by
        rw [Station.template, own, Sample.base_template]
        rfl
      show (executeAll (expand depth) station station.template.executed world).1 = _
      rw [executed]
      exact Endless.starves_referring (Sample.loop.starves depth derived (Or.inr own)) world
  have inMiddle : ∀ (station : Station) (depth : Nat) (world : World),
      station.handle = Sample.middle → station.derived = [Sample.last] →
      world.catalogue.shelf.get? "base" = some ⟨Sample.base, 0⟩ →
      station.sites.length < world.catalogue.depthLimit →
      (expand depth station .whole world).1 = .error .exhausted := by
    intro station depth world own derived shelved shallow
    have inherits : station.template.inherits = true := by
      rw [Station.template, own, Sample.middle_template]
    have heads : station.template.heads = [.inherit (.literal (.text "base")) ⟨0, 19⟩] := by
      rw [Station.template, own, Sample.middle_template]
      rfl
    refine Endless.exhausts_of_extended inherits heads (by decide +kernel) shelved shallow ?_ depth
    intro depth after _
    refine inBase _ depth after rfl ?_
    show station.derived ++ [station.handle] = _
    rw [derived, own]
    rfl
  refine ⟨?_, rfl, rfl, fun limit => ?_⟩
  · simp only [List.map, Sample.base_template, Sample.middle_template, Sample.last_template]
  have inherits : (Station.start Sample.last).template.inherits = true := by
    rw [Station.template, Station.start, Sample.last_template]
  have heads : (Station.start Sample.last).template.heads =
      [.inherit (.literal (.text "middle")) ⟨0, 21⟩] := by
    rw [Station.template, Station.start, Sample.last_template]
    rfl
  have middle : Sample.chain.catalogue.shelf.get? "middle" = some ⟨Sample.middle, 0⟩ := rfl
  have base : Sample.chain.catalogue.shelf.get? "base" = some ⟨Sample.base, 0⟩ := rfl
  have shallow : (Station.start Sample.last).sites.length < Sample.chain.catalogue.depthLimit := by
    decide
  let world : World := { Sample.chain with turns := [], sink := .buffer "" }
  show (expand limit (.start Sample.last) .whole world).1 = .error .exhausted
  have shelved : world.catalogue.shelf.get? "middle" = some ⟨Sample.middle, 0⟩ := middle
  refine Endless.exhausts_of_extended inherits heads (by decide +kernel) shelved shallow ?_ limit
  intro depth after same
  refine inMiddle _ depth after rfl rfl ?_ ?_
  · rw [same]
    exact (Named.get?_put_of_ne _ _ _ _ (by decide)).trans base
  · rw [same]
    show 1 < Sample.chain.catalogue.depthLimit
    decide

end Termination

end Stencil
