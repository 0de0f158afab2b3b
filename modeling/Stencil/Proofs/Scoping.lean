import Stencil.Proofs.Throughout

/-!
# Scopes are kept

A rendering leaves the scopes below the innermost one as they were, and of the
innermost one everything but the names that are set there. Only those tags that
open no scope set names where they stand, so what a statement may set can be read off
it; what it makes other templates set, at the same level, cannot. The contract says at
which levels whole templates may be rendered.
-/

namespace Stencil

/-- The entries after some names were set, of those that may be. -/
inductive Named.Amended {α : Type} (settable : String → Prop) (start : Named α) : Named α → Prop
  | start : Amended settable start start
  | put {entries : Named α} (name : String) (value : α) (isSettable : settable name)
      (amended : Amended settable start entries) : Amended settable start (entries.put name value)

namespace Named.Amended

variable {α : Type} {settable : String → Prop} {start entries : Named α}

/-- Other names keep their entries. -/
theorem get?_eq {name : String} (amended : Amended settable start entries)
    (notSettable : ¬settable name) : entries.get? name = start.get? name := by
  induction amended with
  | start => rfl
  | put other value isSettable _ inductionHypothesis =>
    have differs : name ≠ other := fun same => notSettable (same ▸ isSettable)
    rw [Named.get?_put_of_ne _ _ _ _ differs, inductionHypothesis]

/-- Where no name may be set, nothing changes. -/
theorem eq_start (amended : Amended settable start entries) (none : ∀ name, ¬settable name) :
    entries = start := by
  cases amended with
  | start => rfl
  | put name value isSettable _ => exact absurd isSettable (none name)

end Named.Amended

mutual

/-- The tags without statements inside that are executed in the scope where the
statement stands. -/
def Stmt.direct : Stmt → List Stmt
  | .branch _ yes no => directAll yes ++ directAll no
  | .each _ _ empty => directAll empty
  | .within region body => if region.opensScope then [] else directAll body
  | .text content => [.text content]
  | .output value => [.output value]
  | .block name => [.block name]
  | .inherit target span => [.inherit target span]
  | .insert target bindings span => [.insert target bindings span]
  | .create target template span => [.create target template span]
  | .cycle number first others => [.cycle number first others]
  | .assign binding => [.assign binding]
termination_by structural statement => statement

/-- Those of all statements of a list. -/
def directAll : List Stmt → List Stmt
  | [] => []
  | statement :: rest => statement.direct ++ directAll rest
termination_by structural statements => statements

end

/-- What is executed directly belongs to one of the statements. -/
theorem mem_directAll {tag : Stmt} {statements : List Stmt} :
    tag ∈ directAll statements ↔ ∃ statement ∈ statements, tag ∈ statement.direct := by
  induction statements with
  | nil => simp [directAll]
  | cons statement rest inductionHypothesis => simp [directAll, inductionHypothesis]

namespace Stmt

variable {statement : Stmt}

/-- The parts on the level of a statement have no other tags. -/
theorem direct_level {part : Stmt} (isPart : part ∈ statement.level) :
    part.direct ⊆ statement.direct := by
  intro tag member
  cases statement with
  | branch condition yes no =>
    refine List.mem_append.mpr ?_
    rcases List.mem_append.mp isPart with inYes | inNo
    · exact Or.inl (mem_directAll.mpr ⟨part, inYes, member⟩)
    · exact Or.inr (mem_directAll.mpr ⟨part, inNo, member⟩)
  | each loop body empty => exact mem_directAll.mpr ⟨part, isPart, member⟩
  | within region body =>
    cases region with
    | tabbing => exact mem_directAll.mpr ⟨part, isPart, member⟩
    | _ => cases isPart
  | _ => cases isPart

/-- Nor do the statements in a region that opens no scope. -/
theorem direct_inside {region : Region} {body : List Stmt} (open_ : region.opensScope = false)
    {part : Stmt} (isPart : part ∈ body) : part.direct ⊆ (within region body).direct := by
  intro tag member
  rw [direct, open_]
  exact mem_directAll.mpr ⟨part, isPart, member⟩

end Stmt

/-- The names that the template sets in the scope that it is rendered in. -/
def Template.assigned (template : Template) : List String :=
  (directAll template.executed).filterMap fun
    | .assign binding => some binding.name
    | _ => none

/-- A name is among them if a tag sets it. -/
theorem Template.mem_assigned {template : Template} {binding : Binding}
    (direct : .assign binding ∈ directAll template.executed) :
    binding.name ∈ template.assigned :=
  List.mem_filterMap.mpr ⟨_, direct, rfl⟩

namespace Scoping

/-- Where a rendering stands among the scopes: the innermost one as it was when it
became the innermost, the others, the active policy, and the names that may be set. -/
structure Level where
  start : Named Value
  outer : List (Named Value)
  active : Option String
  settable : String → Prop

/-- Every name may be set. -/
def Level.isFree (level : Level) : Prop := ∀ name, level.settable name

/-- The level of a context where some names may be set. -/
def Level.of (context : Context) (settable : String → Prop) : Level :=
  ⟨context.inner, context.outer, context.active, settable⟩

/-- What is kept on a level: the scopes but for the names that may be set, and the
settings that there were at the beginning. -/
structure Kept (origin : Context) (level : Level) (context : Context) : Prop where
  inner : Named.Amended level.settable level.start context.inner
  outer : context.outer = level.outer
  active : context.active = level.active
  equipped : Context.Equipped origin context

/-- A context keeps what it is. -/
theorem Kept.refl (context : Context) (settable : String → Prop) :
    Kept context (.of context settable) context :=
  ⟨.start, rfl, rfl, .refl context⟩

variable (origin : Context) (renders : Level → Prop)

/-- Whether a tag may be executed on a level: names that are set have to be settable,
and where a tag leads to another template on the same level, that may set names, too. -/
def Allows (level : Level) : Stmt → Prop
  | .assign binding => level.settable binding.name
  | .inherit .. => renders level
  | .create .. => renders level
  | _ => True

/-- The contract about scopes. -/
def contract : Contract Level where
  upheld := fun level world => Kept origin level world.context
  tolerates := fun _ => True
  good := fun _ => True
  admits := fun level _ statement => ∀ tag ∈ statement.direct, Allows renders level tag
  asks := fun level _ goal => goal = .whole → renders level
  opens := fun outer inner => inner.isFree ∧ inner.outer.length = outer.outer.length + 1
  files := fun outer inner => ∃ active, inner = { outer with active := active }
  arrives := fun _ _ _ => True

variable {origin renders} {level : Level} {station : Station}

/-- On a free level everything may be executed, if whole templates may be. -/
theorem allows_of_free (onFree : ∀ level : Level, level.isFree → renders level)
    (isFree : level.isFree) (tag : Stmt) : Allows renders level tag := by
  cases tag with
  | assign binding => exact isFree binding.name
  | inherit target span => exact onFree level isFree
  | create target template span => exact onFree level isFree
  | _ => trivial

/-- The contract is honest if whole templates may be rendered wherever all names may be
set, whatever policy is active. -/
theorem honest (onFree : ∀ level : Level, level.isFree → renders level)
    (anyPolicy : ∀ (level : Level) active, renders level →
      renders { level with active := active }) :
    (contract origin renders).Honest where
  still := fun still kept =>
    ⟨still.inner ▸ kept.inner, still.outer.trans kept.outer, still.active.trans kept.active,
      kept.equipped.trans still.equipped⟩
  faults := fun _ => trivial
  level := fun admitted part isPart tag member => admitted tag (Stmt.direct_level isPart member)
  nested := fun _ opened _ _ tag _ => allows_of_free onFree opened.1 tag
  inside := fun admitted opened _ _ part isPart tag member =>
    admitted tag (Stmt.direct_inside opened isPart member)
  reference := fun _ impossible => nomatch impossible
  tree := fun _ _ impossible => nomatch impossible
  extended := fun _ _ admitted _ => admitted _ (List.mem_singleton_self _)
  inserted := fun _ _ _ opened _ => onFree _ opened.1
  created := by
    rintro level _ station entered target template span _ _ admitted ⟨active, rfl⟩ _
    exact anyPolicy level active (admitted _ (List.mem_singleton_self _))
  none := trivial
  boolean := fun _ => trivial
  integer := fun _ => trivial
  rawText := fun _ => trivial
  elements := fun _ _ _ => trivial
  record := fun _ _ _ => trivial
  evaluate := fun _ _ _ => trivial
  enclosing := fun _ _ => trivial
  assign := by
    intro level station binding value world admitted _ kept
    have isSettable : level.settable binding.name := admitted _ (List.mem_singleton_self _)
    exact ⟨.put _ _ isSettable kept.inner, kept.outer, kept.active,
      kept.equipped.of_same rfl rfl rfl⟩
  scope := by
    intro level world scope _ kept
    refine ⟨⟨scope, world.context.inner :: level.outer, level.active, fun _ => True⟩,
      ⟨fun _ => trivial, rfl⟩, ⟨.start, ?_, kept.active, kept.equipped.of_same rfl rfl rfl⟩, ?_⟩
    · exact congrArg (world.context.inner :: ·) kept.outer
    · intro after later
      have outer : after.context.outer = world.context.inner :: level.outer := later.outer
      have popped : after.context.pop =
          { after.context with inner := world.context.inner, outer := level.outer } := by
        rw [Context.pop, outer]
      refine ⟨?_, ?_, ?_, ?_⟩
      · rw [popped]
        exact kept.inner
      · rw [popped]
      · rw [popped]
        exact later.active
      · rw [popped]
        exact later.equipped.of_same rfl rfl rfl
  select := by
    intro level world extension kept
    refine ⟨{ level with active := (world.context.select extension).active }, ⟨_, rfl⟩,
      ⟨kept.inner, kept.outer, rfl, kept.equipped.of_same rfl rfl rfl⟩, ?_⟩
    intro after later
    exact ⟨later.inner, later.outer, kept.active, later.equipped.of_same rfl rfl rfl⟩
  arrive := fun _ _ _ _ => trivial

/-- A goal is pursued as the contract says, if further goals are expanded so, and the
statements of a whole template may be executed. -/
theorem upholds_pursue (onFree : ∀ level : Level, level.isFree → renders level)
    (anyPolicy : ∀ (level : Level) active, renders level → renders { level with active := active })
    {expand : Expansion} (follows : (contract origin renders).logic.Follows expand expand)
    {goal : Goal}
    (whole : goal = .whole → ∀ statement ∈ station.template.executed,
      (contract origin renders).admits level station statement) :
    (contract origin renders).Upholds level (fun _ => True) (station.pursue expand goal) := by
  have block : ∀ name definitions,
      (contract origin renders).logic.ProvidesBlock level station name definitions :=
    fun _ _ => ⟨fun _ _ _ _ _ opened _ _ tag _ => allows_of_free onFree opened.1 tag,
      fun _ _ _ impossible => nomatch impossible⟩
  have provided : (contract origin renders).logic.Provides level station goal := by
    cases goal with
    | whole => exact whole rfl
    | reference name => exact block name _
    | block name definitions => exact block name definitions
    | tree nodes body =>
      refine ⟨fun _ _ => trivial, fun _ opened _ _ tag _ => allows_of_free onFree opened.1 tag,
        fun node _ => ?_⟩
      exact (honest onFree anyPolicy).upholds_children (fun _ _ _ impossible => nomatch impossible)
        fun _ _ _ _ _ impossible => nomatch impossible
  exact (honest onFree anyPolicy).sound.pursue follows provided

end Scoping

end Stencil
