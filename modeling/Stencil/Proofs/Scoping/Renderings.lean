import Stencil.Proofs.Scoping
import Stencil.Template.Compile

/-!
# Renderings keep scopes

A statement keeps all scopes below the innermost one, and those that open scopes keep
the innermost one, too. A rendering, however it ends, keeps what lies below the
innermost scope, the settings and the active policy. Of the innermost scope it keeps
the names that no template sets which is rendered on the level of the start. It does
not keep the others where it fails: what was set before stays set.
-/

namespace Stencil

/-- Executed in the given world, the statement sets names in scopes of its own only. -/
def Stmt.isEnclosed (world : World) : Stmt → Prop
  | .each loop _ _ =>
    (loop.items.evaluate world.catalogue.filters world.context world.host).1.elements ≠ []
  | .within region _ => region.opensScope = true
  | .block _ => True
  | .insert .. => True
  | _ => False

namespace Scoping

variable {origin : Context} {level : Level} {station : Station}

/-- Every goal is expanded as the contract says, if whole templates are rendered on free
levels only. -/
theorem follows_expand (depth : Nat) :
    (contract origin Level.isFree).logic.Follows (expand depth) (expand depth) := by
  induction depth with
  | zero => exact fun _ _ _ _ _ kept => ⟨kept, trivial⟩
  | succ depth inductionHypothesis =>
    intro level station goal asked
    refine upholds_pursue (fun _ free => free) (fun _ _ free => free) inductionHypothesis
      fun isWhole statement _ tag _ => ?_
    exact allows_of_free (fun _ free => free) (asked isWhole) tag

/-- The contract that whole templates are rendered on free levels only is honest. -/
theorem honest_free : (contract origin Level.isFree).Honest :=
  honest (fun _ free => free) fun _ _ free => free

/-- A loop with something to go over keeps what its level says. -/
theorem kept_each {loop : Loop} {body empty : List Stmt} {depth : Nat} {world : World}
    (enclosed : (Stmt.each loop body empty).isEnclosed world)
    (kept : Kept origin level world.context) :
    Kept origin level
      ((Stmt.each loop body empty).execute (expand depth) station world).2.context := by
  have sound : (contract origin Level.isFree).logic.Sound := honest_free.sound
  have loops : ∀ items, (contract origin Level.isFree).logic.keeps level (fun _ => True)
      (eachItem loop.name items (executeAll (expand depth) station body))
      (eachItem loop.name items (executeAll (expand depth) station body)) := by
    intro items
    refine sound.eachItem loop.name items (fun _ _ => trivial) fun inner opened => ?_
    refine sound.executeAll (follows_expand depth) body inner station fun part _ tag _ => ?_
    exact allows_of_free (fun _ free => free) opened.1 tag
  have notEmpty : (loop.items.evaluate world.catalogue.filters world.context
      world.host).1.elements.isEmpty = false := List.isEmpty_eq_false_iff.mpr enclosed
  rw [Stmt.execute, Run.bind_apply]
  show Kept origin level ((if _ then _ else _ : Run Unit) _).2.context
  rw [notEmpty, if_neg Bool.false_ne_true]
  exact (loops _ (Run.evaluate loop.items world).2 kept).1

/-- A statement keeps what its level says, where it may set all names or sets none. -/
theorem kept_execute {statement : Stmt} {depth : Nat} {world : World}
    (allowed : level.isFree ∨ statement.isEnclosed world)
    (kept : Kept origin level world.context) :
    Kept origin level (statement.execute (expand depth) station world).2.context := by
  have keeps : (∀ tag ∈ statement.direct, Allows Level.isFree level tag) →
      Kept origin level (statement.execute (expand depth) station world).2.context :=
    fun admitted => (honest_free.sound.execute (follows_expand depth) statement level station
      admitted world kept).1
  rcases allowed with isFree | enclosed
  · exact keeps fun tag _ => allows_of_free (fun _ free => free) isFree tag
  · cases statement with
    | each loop body empty => exact kept_each enclosed kept
    | within region body =>
      have opens : region.opensScope = true := enclosed
      exact keeps (by simp [Stmt.direct, opens])
    | block name => exact keeps (by simp [Stmt.direct, Allows])
    | insert target bindings span => exact keeps (by simp [Stmt.direct, Allows])
    | _ => exact enclosed.elim

section Renderings

variable (depth : Nat) (settable : String → Prop)

/-- Whole templates are rendered on free levels, and at some depth where some names may
be set at least. -/
def RendersAt (level : Level) : Prop :=
  level.isFree ∨ (level.outer.length = depth ∧ ∀ name, settable name → level.settable name)

/-- At some depth no template sets names that may not be set there. -/
def SetsAt (station : Station) (world : World) : Prop :=
  world.context.outer.length = depth → ∀ name ∈ station.template.assigned, settable name

variable {depth settable}

/-- A whole template keeps what a level says if it sets no names but those that may be
set. -/
theorem admits_whole {world : World} (rendered : RendersAt depth settable level)
    (kept : Kept origin level world.context) (sets : SetsAt depth settable station world) :
    ∀ statement ∈ station.template.executed,
      (contract origin (RendersAt depth settable)).admits level station statement := by
  intro statement isExecuted tag isDirect
  rcases rendered with isFree | ⟨here, allSettable⟩
  · exact allows_of_free (fun _ free => Or.inl free) isFree tag
  · cases tag with
    | assign binding =>
      refine allSettable binding.name (sets (kept.outer ▸ here) binding.name ?_)
      exact Template.mem_assigned (mem_directAll.mpr ⟨statement, isExecuted, isDirect⟩)
    | inherit target span => exact Or.inr ⟨here, allSettable⟩
    | create target template span => exact Or.inr ⟨here, allSettable⟩
    | _ => trivial

/-- As long as templates set no other names at the given depth, goals are expanded as the
contract says. -/
theorem follows_while (reason : Halt) (limit : Nat) :
    (contract origin (RendersAt depth settable)).logic.Follows
      (expandWhile (SetsAt depth settable) reason limit)
      (expandWhile (SetsAt depth settable) reason limit) := by
  induction limit with
  | zero => exact fun _ _ _ _ _ kept => ⟨kept, trivial⟩
  | succ limit inductionHypothesis =>
    intro level station goal asked
    refine Contract.Upholds.while trivial fun world kept sets => ?_
    have onFree : ∀ level : Level, level.isFree → RendersAt depth settable level :=
      fun _ isFree => Or.inl isFree
    exact upholds_pursue onFree (fun _ _ rendered => rendered) inductionHypothesis fun isWhole =>
      admits_whole (asked isWhole) kept (sets isWhole)

/-- A rendering keeps all but the names that templates set on the level of its start. -/
theorem kept_renderInto {shop : Workshop} {limit : Nat} {handle : Handle} {sink : Sink}
    (sets : shop.Throughout limit handle sink (SetsAt shop.context.outer.length settable)) :
    Kept shop.context (.of shop.context settable)
      (shop.renderInto limit handle sink).2.context := by
  have follows : (contract shop.context
      (RendersAt shop.context.outer.length settable)).logic.Follows _ _ :=
    follows_while .exhausted limit
  have atStart : RendersAt shop.context.outer.length settable (.of shop.context settable) :=
    Or.inr ⟨rfl, fun _ isSettable => isSettable⟩
  have rendered := follows _ (.start handle) .whole (fun _ => atStart)
    { shop with turns := [], sink := sink } (.refl shop.context settable)
  rw [sets.expandWhile_eq] at rendered
  exact rendered.1

end Renderings

/-- Executing a statement keeps the number of scopes and all scopes below the innermost
one; a statement that sets names in scopes of its own only keeps the innermost one, too.
However a rendering ends, it keeps the number of scopes, those below the innermost one,
the settings and the active policy, and in the innermost scope every name that no
template sets in the scope that it is rendered in. -/
theorem scopes_kept :
    (∀ (depth : Nat) (station : Station) (statement : Stmt) (world : World),
      let after := (statement.execute (expand depth) station world).2.context
      after.scopes.length = world.context.scopes.length ∧
        after.scopes.tail = world.context.scopes.tail ∧
        (statement.isEnclosed world → after.scopes = world.context.scopes)) ∧
      ∀ (shop : Workshop) (limit : Nat) (handle : Handle) (sink : Sink),
        let after := (shop.renderInto limit handle sink).2.context
        after.scopes.length = shop.context.scopes.length ∧
          after.scopes.tail = shop.context.scopes.tail ∧
          after.active = shop.context.active ∧ shop.context.Equipped after ∧
          ∀ name, shop.Throughout limit handle sink
              (fun station _ => name ∉ station.template.assigned) →
            after.inner.get? name = shop.context.inner.get? name := by
  constructor
  · intro depth station statement world after
    have free : Kept world.context (.of world.context fun _ => True) after :=
      kept_execute (Or.inl fun _ => trivial) (.refl _ _)
    refine ⟨congrArg (·.length + 1) free.outer, free.outer, fun enclosed => ?_⟩
    have kept : Kept world.context (.of world.context fun _ => False) after :=
      kept_execute (Or.inr enclosed) (.refl _ _)
    have inner : after.inner = world.context.inner :=
      kept.inner.eq_start fun _ impossible => impossible
    rw [Context.scopes, inner, kept.outer]
    rfl
  · intro shop limit handle sink after
    have all : Kept shop.context (.of shop.context fun _ => True) after :=
      kept_renderInto (.of_always fun _ _ _ _ _ => trivial)
    refine ⟨congrArg (·.length + 1) all.outer, all.outer, all.active, all.equipped, ?_⟩
    intro name spares
    have kept : Kept shop.context (.of shop.context fun set => set ≠ name) after :=
      kept_renderInto (spares.weaken fun station world spared _ set isSet same =>
        spared (same ▸ isSet))
    exact kept.inner.get?_eq fun differs => differs rfl

namespace Sample

/-- The template of a source, with the first serial number. -/
def handle (source : String) : Handle :=
  ⟨0, (Template.compile (fun _ => none) none source).toOption.getD default⟩

/-- A workshop whose context has one entry. -/
def shop : Workshop := ⟨.empty, .ofEntries [("w", .text "old")], .empty⟩

/-- A template that sets one name where it is rendered, and one in a scope of its own. -/
def nested : Handle :=
  handle "\x7b% set x=1 %\x7d\x7b% with v=1 %\x7d\x7b% set w=2 %\x7d\x7b% endwith %\x7d"

/-- The world of its rendering. -/
def world : World := { shop with turns := [], sink := .buffer "" }

/-- A region of its own that sets a name. -/
def region : Stmt :=
  .within (.binding [⟨"v", .literal (.integer 1)⟩]) [.assign ⟨"w", .literal (.integer 2)⟩]

/-- A template that sets a name in a scope of its own before it fails. -/
def failing : Handle :=
  handle "\x7b% with v=1 %\x7d\x7b% set w=2 %\x7d\x7b% include 'missing' %\x7d\x7b% endwith %\x7d"

/-- A template that sets a name before it fails. -/
def setting : Handle := handle "\x7b% set x=1 %\x7d\x7b% include 'missing' %\x7d"

/-- The result is that a template is missing. -/
def isUnknown : Except Halt String → Bool
  | .error (.fault fault) => fault.cause = .unknownTemplate "missing"
  | _ => false

end Sample

/-- A region keeps what is set in it to itself, and so does a template with the region. -/
theorem sample_scopes_kept :
    (Sample.region.isEnclosed Sample.world ∧
        (Sample.region.execute (expand 10) (.start Sample.nested) Sample.world).2.context.scopes =
          Sample.world.context.scopes) ∧
      (Sample.shop.renderInto 10 Sample.nested (.buffer "")).2.context.inner.get? "w" =
        Sample.shop.context.inner.get? "w" ∧
      (Sample.shop.renderInto 10 Sample.nested (.buffer "")).2.context.inner.names =
        ["w", "x"] := by
  have enclosed : Sample.region.isEnclosed Sample.world := rfl
  have spared : Sample.shop.Throughout 10 Sample.nested (.buffer "")
      (fun station _ => "w" ∉ station.template.assigned) :=
    .of_checking (fun station => "w" ∉ station.template.assigned) .exhausted
      (fun _ _ checked => of_decide_eq_true checked) (by decide +kernel)
  refine ⟨⟨enclosed, ?_⟩, ?_, by decide +kernel⟩
  · exact (scopes_kept.1 10 (.start Sample.nested) Sample.region Sample.world).2.2 enclosed
  · exact (scopes_kept.2 Sample.shop 10 Sample.nested (.buffer "")).2.2.2.2 "w" spared

/-- A rendering that fails keeps the scopes below the innermost one and the active
policy, and of the innermost scope what no template sets that is rendered on the level of
the start; if none sets anything there, all scopes are as they were. -/
theorem context_of_failed {shop after : Workshop} {handle : Handle} {halt : Halt}
    (failed : shop.render handle = (.error halt, after)) :
    after.context.outer = shop.context.outer ∧ after.context.active = shop.context.active ∧
      (∀ settable : String → Prop,
        shop.Throughout expansionLimit handle (.buffer "")
          (SetsAt shop.context.outer.length settable) →
        ∀ name, ¬settable name →
          after.context.inner.get? name = shop.context.inner.get? name) ∧
      (shop.Throughout expansionLimit handle (.buffer "")
          (SetsAt shop.context.outer.length fun _ => False) →
        after.context.scopes = shop.context.scopes) := by
  have same : (shop.renderInto expansionLimit handle (.buffer "")).2.context = after.context :=
    congrArg (fun done => done.2.context) failed
  have all : Kept shop.context (.of shop.context fun _ => True) after.context :=
    same ▸ kept_renderInto (.of_always fun _ _ _ _ _ => trivial)
  refine ⟨all.outer, all.active, fun settable sets name notSettable => ?_, fun sets => ?_⟩
  · have kept : Kept shop.context (.of shop.context settable) after.context :=
      same ▸ kept_renderInto sets
    exact kept.inner.get?_eq notSettable
  · have kept : Kept shop.context (.of shop.context fun _ => False) after.context :=
      same ▸ kept_renderInto sets
    rw [Context.scopes, Context.scopes, kept.outer,
      kept.inner.eq_start fun _ impossible => impossible]
    rfl

/-- A template that sets a name in a scope of its own leaves everything as it was when it
fails. -/
theorem sample_failed :
    Sample.isUnknown (Sample.shop.render Sample.failing).1 = true ∧
      (Sample.shop.render Sample.failing).2.context.scopes = Sample.shop.context.scopes := by
  have fails : Sample.isUnknown (Sample.shop.render Sample.failing).1 = true := by decide +kernel
  refine ⟨fails, ?_⟩
  have sets : Sample.shop.Throughout expansionLimit Sample.failing (.buffer "")
      (SetsAt Sample.shop.context.outer.length fun _ => False) := by
    refine .of_checking (fun station => station.template.assigned.isEmpty) .exhausted
      ?_ (by decide +kernel)
    intro station world checked _ name isSet
    rw [List.isEmpty_iff.mp checked] at isSet
    cases isSet
  cases rendered : Sample.shop.render Sample.failing with
  | mk result after =>
    cases result with
    | ok text =>
      rw [rendered] at fails
      cases fails
    | error halt => exact (context_of_failed rendered).2.2.2 sets

/-- A template that sets a name on the level of the start leaves it set when it fails. -/
theorem sample_set_stays :
    Sample.isUnknown (Sample.shop.render Sample.setting).1 = true ∧
      Sample.shop.context.scopes.map Named.names = [["w"]] ∧
      (Sample.shop.render Sample.setting).2.context.scopes.map Named.names = [["w", "x"]] := by
  decide +kernel

end Scoping

end Stencil
