import Stencil.Proofs.Confinement
import Stencil.Proofs.Discipline.Same
import Stencil.Proofs.Overriding.Alike

/-!
# What is not read does not matter

Two worlds are near each other if they differ in nothing but the value of a hidden name
in some scopes. Most primitive actions do not look at the scopes at all; those that
do look up other names. So the discipline of near worlds is lawful for statements that
do not read the hidden name, and a rendering that comes to such statements only does
the same in near worlds.
-/

namespace Stencil

/-- The world with other scopes. -/
def World.rescope (world : World) (inner : Named Value) (outer : List (Named Value)) : World :=
  { world with context := { world.context with inner := inner, outer := outer } }

namespace Unread

variable {hidden : String} {breaks : Halt → Prop} {height : Nat} {α : Type}

/-- The worlds differ in nothing but the value of the hidden name in the scopes down to
a height. -/
structure Near (hidden : String) (height : Nat) (world other : World) : Prop where
  rest : other = world.rescope other.context.inner other.context.outer
  alike : Scopes.Alike hidden height world.context.scopes other.context.scopes

/-- A world is near the same one with scopes that are alike. -/
theorem Near.of_rescope {world : World} {inner : Named Value} {outer : List (Named Value)}
    (alike : Scopes.Alike hidden height world.context.scopes (inner :: outer)) :
    Near hidden height world (world.rescope inner outer) :=
  ⟨rfl, alike⟩

/-- There are no other near worlds. -/
theorem Near.exists_rescope {world other : World} (near : Near hidden height world other) :
    ∃ inner outer, other = world.rescope inner outer ∧
      Scopes.Alike hidden height world.context.scopes (inner :: outer) :=
  ⟨_, _, near.rest, near.alike⟩

/-- The discipline of near worlds, at every height. -/
def discipline (hidden : String) (breaks : Halt → Prop) : Discipline Nat where
  breaks := breaks
  related := Near hidden
  fits := fun _ _ => True
  awaits := fun _ _ => True
  good := fun _ _ => True
  bindable := fun _ _ => True
  legible := fun _ _ => True
  wording := fun _ => Wording.avoiding hidden

/-- No definition of a block reads the hidden name. -/
def definitionsAvoid (hidden name : String) (definitions : List Handle) : Bool :=
  definitions.all fun definition =>
    (definition.template.block? name).all (allObey (Wording.avoiding hidden))

/-- Nothing that is executed for a goal, up to further goals, reads the hidden name. -/
def avoids (hidden : String) (station : Station) : Goal → Bool
  | .whole => allObey (Wording.avoiding hidden)
      (if station.template.inherits then station.template.heads else station.template.body)
  | .reference name => definitionsAvoid hidden name (station.definitions name)
  | .block name definitions => definitionsAvoid hidden name definitions
  | .tree _ body => allObey (Wording.avoiding hidden) body

/-- The action does not look at the scopes, and leaves them as they are. -/
def Blind (action : Run α) : Prop :=
  ∀ world inner outer,
    action (world.rescope inner outer) = ((action world).1, (action world).2.rescope inner outer) ∧
      (action world).2.context.scopes = world.context.scopes

/-- So does the change of the world. -/
def BlindChange (change : World → World) : Prop :=
  ∀ world inner outer,
    change (world.rescope inner outer) = (change world).rescope inner outer ∧
      (change world).context.scopes = world.context.scopes

/-- Near worlds stay near when they are changed blindly. -/
theorem Near.change {change : World → World} (blind : BlindChange change) {world other : World}
    (near : Near hidden height world other) : Near hidden height (change world) (change other) := by
  obtain ⟨inner, outer, rfl, alike⟩ := near.exists_rescope
  obtain ⟨same, kept⟩ := blind world inner outer
  rw [same]
  exact .of_rescope (kept ▸ alike)

/-- A blind action does the same in near worlds. -/
theorem keeps_of_blind {isGood : α → Prop} {action : Run α} (blind : Blind action)
    (all : ∀ value, isGood value) :
    (discipline hidden breaks).Keeps height isGood action action := by
  intro world other near
  obtain ⟨inner, outer, rfl, alike⟩ := near.exists_rescope
  obtain ⟨same, kept⟩ := blind world inner outer
  rw [same]
  exact Or.inr ⟨rfl, .of_rescope (kept ▸ alike), fun value _ => all value⟩

/-- What needs the host's side only is blind. -/
theorem blind_hosted (action : Hosted α) : Blind (Run.hosted action) :=
  fun _ _ _ => ⟨rfl, rfl⟩

/-- Writing is blind. -/
theorem blind_write (text : String) : Blind (Run.write text) :=
  fun _ _ _ => ⟨rfl, rfl⟩

/-- So is escaping. -/
theorem blind_escape (text : String) : Blind (Run.escape text) := by
  intro world inner outer
  have active : (world.rescope inner outer).context.activeEscaper? =
      world.context.activeEscaper? := rfl
  unfold Run.escape Context.escape
  rw [active]
  cases world.context.activeEscaper? <;> exact ⟨rfl, rfl⟩

/-- So is telling the policy about tabbing. -/
theorem blind_switchTabbing (on : Bool) : BlindChange (Run.switchTabbing on) := by
  intro world inner outer
  have active : (world.rescope inner outer).context.activeEscaper? =
      world.context.activeEscaper? := rfl
  unfold Run.switchTabbing Context.switchTabbing
  rw [active]
  cases world.context.activeEscaper? <;> exact ⟨rfl, rfl⟩

/-- So is removing spaces. -/
theorem blind_removeSpace (text : String) : Blind (Run.removeSpace text) := by
  intro world inner outer
  unfold Run.removeSpace Context.removeSpace
  cases spacer : world.context.spacer with
  | none => simp [World.rescope, Context.scopes, spacer]
  | some policy => simp [World.rescope, Context.scopes, spacer]

/-- So is counting the turns of a cycle tag. -/
theorem blind_turn (tag : CycleTag) : Blind (Run.turn tag) :=
  fun _ _ _ => ⟨rfl, rfl⟩

/-- So is writing a file. -/
theorem blind_writeFile (station : Station) (span : Span) (path text : String) :
    Blind (station.writeFile span path text) := by
  intro world inner outer
  obtain ⟨result, host, applied⟩ := station.writeFile_apply span path text world.host
  rw [applied world rfl, applied (world.rescope inner outer) rfl]
  exact ⟨rfl, rfl⟩

/-- So is loading a template. -/
theorem blind_load (station : Station) (span : Span) (name : String) :
    Blind (station.load span name) := by
  intro world inner outer
  rw [Station.load_apply, Station.load_apply]
  have same : (world.rescope inner outer).catalogue.load (world.rescope inner outer).host.files name
        (some (station.template.line span)) =
      world.catalogue.load world.host.files name (some (station.template.line span)) := rfl
  rw [same]
  cases world.catalogue.load world.host.files name (some (station.template.line span)) with
  | ok loaded => exact ⟨rfl, rfl⟩
  | error fault => exact ⟨rfl, rfl⟩

/-- A change for a time that is blind on the way in and on the way back. -/
theorem passage_of_blind {enter : World → World} {leave : World → World → World}
    {inside : Nat → Prop} {yields : World → World → Prop} (entering : BlindChange enter)
    (leaving : ∀ world inner outer after inner' outer',
      leave (world.rescope inner outer) (after.rescope inner' outer') =
          (leave world after).rescope inner' outer' ∧
        (leave world after).context.scopes = after.context.scopes)
    (isInside : inside height)
    (all : ∀ after inner outer, yields after (after.rescope inner outer)) :
    (discipline hidden breaks).Passage height enter leave inside yields := by
  intro world other near
  refine ⟨height, isInside, near.change entering, fun after after' later => ?_⟩
  obtain ⟨inner, outer, rfl, _⟩ := near.exists_rescope
  obtain ⟨inner', outer', rfl, alike⟩ := later.exists_rescope
  obtain ⟨same, kept⟩ := leaving world inner outer after inner' outer'
  rw [same]
  exact ⟨.of_rescope (kept ▸ alike), all after inner' outer'⟩

/-- Near worlds are near one scope deeper when scopes that are alike are opened in them. -/
theorem Near.push {world other : World} (near : Near hidden height world other)
    {scope scope' : Named Value} (alike : Scope.Alike hidden scope scope') :
    Near hidden (height + 1) { world with context := world.context.push scope }
      { other with context := other.context.push scope' } := by
  obtain ⟨inner, outer, rfl, deeper⟩ := near.exists_rescope
  exact ⟨rfl, alike, deeper⟩

/-- A world is near itself once scopes that are alike are opened in it. -/
theorem Near.of_push {scope scope' : Named Value} (alike : Scope.Alike hidden scope scope')
    (world : World) :
    Near hidden 0 { world with context := world.context.push scope }
      { world with context := world.context.push scope' } := by
  constructor
  · rfl
  · exact ⟨alike, rfl, List.cons_ne_nil _ _⟩

/-- Near worlds are near again when the scopes are closed. -/
theorem Near.pop {world other : World} (near : Near hidden (height + 1) world other) :
    Near hidden height { world with context := world.context.pop }
      { other with context := other.context.pop } := by
  obtain ⟨inner', outer', rfl, alike⟩ := near.exists_rescope
  obtain ⟨⟨catalogue, ⟨inner, outer, directory, escapers, active, spacer⟩, host⟩, turns, sink⟩ :=
    world
  match outer, outer', alike with
  | next :: below, next' :: below', ⟨_, deeper⟩ => exact ⟨rfl, deeper⟩
  | [], _, ⟨_, impossible⟩ => cases height <;> exact impossible.elim
  | _ :: _, [], ⟨_, impossible⟩ => cases height <;> exact impossible.elim

/-- Worlds that differ in the innermost scope only are the same once it is closed. -/
theorem Near.same {world other : World} (near : Near hidden 0 world other) :
    { world with context := world.context.pop } = { other with context := other.context.pop } := by
  obtain ⟨inner', outer', rfl, _, same, others⟩ := near.exists_rescope
  obtain ⟨⟨catalogue, ⟨inner, outer, directory, escapers, active, spacer⟩, host⟩, turns, sink⟩ :=
    world
  simp only at same others
  subst same
  cases outer with
  | nil => exact absurd rfl others
  | cons next below => rfl

/-- A change that the same action makes to both worlds and that respects what they are
alike in. -/
theorem Near.inner {world other : World} (near : Near hidden height world other)
    {new new' : Named Value} (here : Scope.Alike hidden new new') :
    Near hidden height { world with context := { world.context with inner := new } }
      { other with context := { other.context with inner := new' } } := by
  obtain ⟨inner, outer, rfl, alike⟩ := near.exists_rescope
  exact ⟨rfl, Scopes.Alike.inner alike here⟩

/-- The innermost scopes of near worlds are alike. -/
theorem Near.scope {world other : World} (near : Near hidden height world other) :
    Scope.Alike hidden world.context.inner other.context.inner := by
  have alike := near.alike
  cases height with
  | zero => exact alike.1
  | succ height => exact alike.1

/-- Setting a name is the same in near worlds. -/
theorem keeps_assign (name : String) (value : Value) :
    (discipline hidden breaks).Keeps height (fun _ => True) (Run.assign name value)
      (Run.assign name value) := by
  intro world other near
  exact Or.inr ⟨rfl, near.inner (near.scope.put name value), fun _ _ => trivial⟩

/-- Other names than the hidden one stand for the same in near worlds. -/
theorem Near.find?_eq {world other : World} (near : Near hidden height world other)
    {name : String} (visible : name ≠ hidden) :
    world.context.find? name = other.context.find? name :=
  near.alike.find?_eq visible

/-- Looking up another name finds the same. -/
theorem keeps_lookUp {name : String} (visible : name ≠ hidden)
    {isGood : Option Value → Prop} (all : ∀ found, isGood found) :
    (discipline hidden breaks).Keeps height isGood (Run.lookUp name) (Run.lookUp name) := by
  intro world other near
  refine Or.inr ⟨?_, near, fun found _ => all found⟩
  exact congrArg Except.ok (near.find?_eq visible)

/-- An expression that does not read the hidden name has the same value. -/
theorem keeps_evaluate {isGood : Value → Prop} {expression : Expr}
    (avoids : expression.avoids hidden = true) (all : ∀ value, isGood value) :
    (discipline hidden breaks).Keeps height isGood (Run.evaluate expression)
      (Run.evaluate expression) := by
  intro world other near
  have sameFilters : other.catalogue.filters = world.catalogue.filters := by
    rw [near.rest]
    rfl
  have sameValue : expression.evaluate other.catalogue.filters other.context =
      expression.evaluate world.catalogue.filters world.context := by
    rw [sameFilters]
    exact (Expr.evaluate_eq (fun name visible => near.find?_eq visible) expression avoids).symm
  have hosted : (discipline hidden breaks).Keeps height isGood
      (Run.hosted (expression.evaluate world.catalogue.filters world.context))
      (Run.hosted (expression.evaluate world.catalogue.filters world.context)) :=
    keeps_of_blind (blind_hosted _) all
  have applied : Run.evaluate expression other =
      Run.hosted (expression.evaluate world.catalogue.filters world.context) other := by
    rw [Run.evaluate]
    rw [sameValue]
  rw [applied]
  exact hosted world other near

/-- A value is written in the same way in near worlds. -/
theorem keeps_emit (station : Station) (value : Value) :
    (discipline hidden breaks).Keeps height (fun _ => True) (station.emit value)
      (station.emit value) :=
  Station.emit_lockstep (fun _ => trivial)
    (keeps_of_blind (blind_escape value.written) fun _ => trivial)
    fun text (_ : True) => keeps_of_blind (blind_write text) fun _ => trivial

/-- A tag loads the same template in near worlds. -/
theorem loads (station : Station) (span : Span) (name : String) :
    (discipline hidden breaks).Loads height station span name := by
  intro world other near
  obtain ⟨inner, outer, rfl, alike⟩ := near.exists_rescope
  obtain ⟨same, kept⟩ := blind_load station span name world inner outer
  rw [same]
  have after : Near hidden height (station.load span name world).2
      ((station.load span name world).2.rescope inner outer) := .of_rescope (kept ▸ alike)
  refine ⟨rfl, ?_⟩
  cases (station.load span name world).1 with
  | error reason => exact after
  | ok handle =>
    refine ⟨height, ⟨trivial, fun _ good => good, fun _ => trivial, fun _ _ => trivial⟩, after, ?_⟩
    intro final final' later
    have release : BlindChange fun world =>
        { world with catalogue := world.catalogue.release handle } := fun _ _ _ => ⟨rfl, rfl⟩
    exact later.change release

/-- The discipline of near worlds is lawful, if loops may look for the loop around
them. -/
theorem lawful (visible : "forloop" ≠ hidden) : (discipline hidden breaks).Lawful where
  text := fun _ _ => trivial
  bindable := fun _ => trivial
  bindableNone := trivial
  bindableBoolean := fun _ => trivial
  bindableInteger := fun _ => trivial
  bindableText := fun _ => trivial
  elements := fun _ _ _ => trivial
  evaluate := fun _ worded => keeps_evaluate worded fun _ => trivial
  pattern := fun _ worded =>
    Run.Lockstep.bind (keeps_evaluate worded fun _ => trivial) fun value (_ : True) =>
      Run.Lockstep.pure value.written fun _ _ => trivial
  children := fun _ _ => keeps_of_blind (blind_hosted _) fun _ => trivial
  record := fun _ _ => keeps_of_blind (blind_hosted _) fun _ => trivial
  enclosing := keeps_lookUp visible fun _ _ _ => trivial
  emit := fun _ _ => keeps_emit _ _
  write := fun _ => keeps_of_blind (blind_write _) fun _ => trivial
  removeSpace := fun _ => keeps_of_blind (blind_removeSpace _) fun _ => trivial
  assign := fun name _ _ => keeps_assign name _
  turn := fun tag => keeps_of_blind (blind_turn tag) fun _ => trivial
  note := fun _ => keeps_of_blind (blind_hosted _) fun _ => trivial
  writeFile := fun span path text _ =>
    keeps_of_blind (blind_writeFile _ span path text) fun _ => trivial
  depthLimit := by
    intro height world other near
    rw [near.rest]
    rfl
  outputDirectory := by
    intro height world other near
    rw [near.rest]
    rfl
  scope := by
    intro height scope _ world other near
    refine ⟨height + 1, ⟨fun _ fits => fits, fun _ awaited => awaited, fun _ good => good⟩,
      near.push (Scope.Alike.refl hidden scope), fun after after' later => ⟨later.pop, trivial⟩⟩
  capture := passage_of_blind (fun _ _ _ => ⟨rfl, rfl⟩) (fun _ _ _ _ _ _ => ⟨rfl, rfl⟩)
    ⟨fun _ fits => fits, fun _ awaited => awaited, fun _ good => good⟩ fun _ _ _ => ⟨rfl, trivial⟩
  mute := passage_of_blind (fun _ _ _ => ⟨rfl, rfl⟩) (fun _ _ _ _ _ _ => ⟨rfl, rfl⟩)
    (fun _ _ => trivial) fun _ _ _ => rfl
  file := fun _ => passage_of_blind (fun _ _ _ => ⟨rfl, rfl⟩) (fun _ _ _ _ _ _ => ⟨rfl, rfl⟩)
    ⟨fun _ fits => fits, fun _ awaited => awaited, fun _ good => good⟩ fun _ _ _ => rfl
  tabbed := passage_of_blind (blind_switchTabbing true)
    (fun _ _ _ after inner outer => blind_switchTabbing false after inner outer)
    (fun _ _ => trivial) fun _ _ _ => trivial
  load := fun span name _ => loads _ span name

/-- Definitions that do not read the hidden name may be rendered in near worlds. -/
theorem supplies {name : String} {definitions : List Handle}
    (avoided : definitionsAvoid hidden name definitions = true) (station : Station) :
    (discipline hidden breaks).Supplies height station name definitions := by
  intro definition member
  refine ⟨trivial, fun body found => ?_⟩
  have own := List.all_eq_true.mp avoided definition member
  rw [found] at own
  exact own

/-- A goal is pursued in the same way in near worlds if nothing that is executed for it
reads the hidden name. -/
theorem keeps_pursue (visible : "forloop" ≠ hidden) {first second : Expansion}
    (follows : (discipline hidden breaks).Follows first second) (station : Station) (goal : Goal)
    (avoided : avoids hidden station goal = true) :
    (discipline hidden breaks).Keeps height (fun _ => True) (station.pursue first goal)
      (station.pursue second goal) := by
  have laws : (discipline hidden breaks).Lawful := lawful visible
  cases goal with
  | whole => exact laws.executeAll follows _ height station trivial avoided
  | reference name => exact laws.renderBlock follows trivial (supplies avoided station)
  | block name definitions => exact laws.renderBlock follows trivial (supplies avoided station)
  | tree nodes body => exact laws.renderTree follows trivial (fun _ _ => trivial) avoided

section Bodies

variable {first second : Expansion}

/-- The world in which the body of a definition is executed. -/
def opened (parent : Value) (world : World) : World :=
  { world with
    host := { world.host with unused := world.host.unused + 1 }
    context := world.context.push
      [("block", .plain (.record world.host.unused none (Named.ofPairs [("super", parent)])))] }

/-- The body of a definition is executed in a scope of its own. -/
theorem renderOver_apply (station : Station) (expand : Expansion) (definition : Handle)
    (body : List Stmt) (parent : Value) (world : World) :
    station.renderOver expand definition body parent world =
      let done := executeAll expand { station with handle := definition } body
        (opened parent world)
      (done.1, { done.2 with context := done.2.context.pop }) := rfl

/-- Only the value of `block` differs with what the next definition rendered. -/
theorem alike_block (value other : Value) :
    Scope.Alike "block" [("block", value)] [("block", other)] :=
  List.Forall₂.cons ⟨rfl, fun differs => absurd rfl differs⟩ List.Forall₂.nil

/-- Near worlds stay near when bodies are opened in them. -/
theorem Near.opened {world other : World} (near : Near "block" height world other)
    (parent parent' : Value) :
    Near "block" (height + 1) (opened parent world) (opened parent' other) := by
  have taken : BlindChange fun world =>
      { world with host := { world.host with unused := world.host.unused + 1 } } :=
    fun _ _ _ => ⟨rfl, rfl⟩
  exact (near.change taken).push (alike_block _ _)

/-- Looking for the loop around them, loops do not come across `block`. -/
theorem forloop_ne_block : "forloop" ≠ "block" := by decide

/-- A body that does not read `block` does the same in near worlds, whatever the next
definition rendered. -/
theorem keeps_renderOver (follows : (discipline "block" breaks).Follows first second)
    (station : Station) (definition : Handle) {body : List Stmt}
    (avoids : allObey (Wording.avoiding "block") body = true) (parent parent' : Value) :
    (discipline "block" breaks).Keeps height (fun _ => True)
      (station.renderOver first definition body parent)
      (station.renderOver second definition body parent') := by
  intro world other near
  have laws : (discipline "block" breaks).Lawful := lawful forloop_ne_block
  have inside := laws.executeAll follows body (height + 1) { station with handle := definition }
    trivial avoids (opened parent world) (opened parent' other) (near.opened parent parent')
  rw [renderOver_apply, renderOver_apply]
  rcases inside with broken | ⟨same, after, _⟩
  · exact Or.inl broken
  · exact Or.inr ⟨same, after.pop, fun _ _ => trivial⟩

/-- In the same world such a body leaves the same world behind. -/
theorem keeps_renderOver_same (follows : (discipline "block" breaks).Follows first second)
    (station : Station) (definition : Handle) {body : List Stmt}
    (avoids : allObey (Wording.avoiding "block") body = true) (parent parent' : Value) :
    (Discipline.same breaks).Keeps () (fun _ => True)
      (station.renderOver first definition body parent)
      (station.renderOver second definition body parent') := by
  rintro world other rfl
  have laws : (discipline "block" breaks).Lawful := lawful forloop_ne_block
  have near : Near "block" 0 (opened parent world) (opened parent' world) :=
    Near.of_push (alike_block _ _)
      { world with host := { world.host with unused := world.host.unused + 1 } }
  have inside := laws.executeAll follows body 0 { station with handle := definition }
    trivial avoids (opened parent world) (opened parent' world) near
  rw [renderOver_apply, renderOver_apply]
  rcases inside with broken | ⟨same, after, _⟩
  · exact Or.inl broken
  · exact Or.inr ⟨same, after.same, fun _ _ => trivial⟩

end Bodies

end Unread

end Stencil
