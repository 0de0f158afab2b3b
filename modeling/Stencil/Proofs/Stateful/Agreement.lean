import Stencil.Proofs.Scoping.Renderings
import Stencil.Proofs.Stateful

/-!
# Renderings with and without a state

Where an action comes to a value, one with a state has closed all that it has opened. Where
it halts, scopes are stranded, and the state is of no use any more, but for the number of
open tags with tabbing. What is done between a failure and the end of the rendering reads no
scope and nothing else of the state. So a rendering with a state that unwinds the scopes at
the end comes to the same result, and leaves the same world behind, as one that knows where
it stands and closes each scope where it was opened.
-/

namespace Stencil

namespace Context

/-- The context with further scopes, the last of them innermost. -/
def pushAll (context : Context) (scopes : List (Named Value)) : Context :=
  scopes.foldl push context

/-- All further scopes are counted. -/
theorem length_scopes_pushAll (context : Context) (scopes : List (Named Value)) :
    (context.pushAll scopes).scopes.length = context.scopes.length + scopes.length := by
  induction scopes generalizing context with
  | nil => rfl
  | cons scope rest inductionHypothesis =>
    have opened : (context.push scope).scopes.length = context.scopes.length + 1 := rfl
    have counted : ((context.push scope).pushAll rest).scopes.length =
        (context.push scope).scopes.length + rest.length := inductionHypothesis _
    rw [opened] at counted
    rw [List.length_cons, Nat.add_comm rest.length, ← Nat.add_assoc]
    exact counted

/-- Closing all further scopes gives the context back. -/
theorem popTimes_pushAll (context : Context) (scopes : List (Named Value)) :
    (context.pushAll scopes).popTimes scopes.length = context := by
  induction scopes using List.reverseRecOn with
  | nil => rfl
  | append_singleton scopes scope inductionHypothesis =>
    have opened : context.pushAll (scopes ++ [scope]) = (context.pushAll scopes).push scope :=
      List.foldl_concat ..
    rw [opened, List.length_append, List.length_singleton, popTimes, pop_push]
    exact inductionHypothesis

/-- Further scopes are taken away again by unwinding. -/
theorem unwind_pushAll (context : Context) (scopes : List (Named Value)) :
    (context.pushAll scopes).unwind context.scopes.length = context := by
  rw [unwind, length_scopes_pushAll, Nat.add_sub_cancel_left]
  exact context.popTimes_pushAll scopes

/-- An innermost scope that is not the outermost one can be closed and opened again. -/
theorem push_pop {context : Context} (below : context.outer ≠ []) :
    context.pop.push context.inner = context := by
  obtain ⟨inner, outer, outputDirectory, escapers, active, spacer⟩ := context
  cases outer with
  | nil => exact absurd rfl below
  | cons next outer => rfl

end Context

namespace World

/-- The world with further scopes in its context. -/
def pushAll (world : World) (scopes : List (Named Value)) : World :=
  { world with context := world.context.pushAll scopes }

/-- The number of scopes below the innermost one. -/
def depth (world : World) : Nat := world.context.outer.length

/-- A change that does not care for one scope more does not care for many. -/
theorem pushAll_comm {change : World → World}
    (comm : ∀ world scope, change (world.push scope) = (change world).push scope)
    (world : World) (scopes : List (Named Value)) :
    change (world.pushAll scopes) = (change world).pushAll scopes := by
  induction scopes generalizing world with
  | nil => rfl
  | cons scope rest inductionHypothesis =>
    have next : change ((world.push scope).pushAll rest) =
        (change (world.push scope)).pushAll rest := inductionHypothesis _
    rw [comm] at next
    exact next

/-- Tabbing is switched by the active policy alone. -/
theorem switchTabbing_push (on : Bool) (world : World) (scope : Named Value) :
    Run.switchTabbing on (world.push scope) = (Run.switchTabbing on world).push scope := by
  have told : (world.context.push scope).switchTabbing on =
      ((world.context.switchTabbing on).1, (world.context.switchTabbing on).2.push scope) := by
    have same : (world.context.push scope).activeEscaper? = world.context.activeEscaper? := rfl
    unfold Context.switchTabbing
    rw [same]
    cases world.context.activeEscaper? <;> rfl
  unfold Run.switchTabbing
  rw [show (world.push scope).context = world.context.push scope from rfl, told]
  rfl

/-- And no scope is opened or closed by it. -/
theorem depth_switchTabbing (on : Bool) (world : World) :
    (Run.switchTabbing on world).depth = world.depth :=
  congrArg List.length (World.Still.switchTabbing on world).outer

/-- Nor by what upholds the contract about scopes. -/
theorem depth_of_upholds {α : Type} {isGood : α → Prop} {action : Run α} {world : World}
    (upholds : (Scoping.contract world.context Scoping.Level.isFree).Upholds
      (.of world.context fun _ => True) isGood action) :
    (action world).2.depth = world.depth :=
  congrArg List.length (upholds world (.refl _ _)).1.outer

end World

namespace Stateful

variable {α β : Type}

/-- What depends on where the rendering stands leaves the state alone. -/
theorem here_apply (handle : Handle) (action : Station → Run α) (world : World)
    (state : RenderState) :
    here handle action (world, state) =
      ((action (state.standing handle) world).1, (action (state.standing handle) world).2,
        state) := rfl

/-- A tag is opened unless as many are open as may be. -/
theorem pushFrame_apply (handle : Handle) (span : Span) (world : World) (state : RenderState) :
    pushFrame handle span (world, state) =
      if state.frames.length < world.catalogue.depthLimit then
        (.ok (), world,
          { state with frames := state.frames ++ [(state.standing handle).site span] })
      else
        (.error (.fault ((state.standing handle).locate span
          (.ofCause (.tooDeep world.catalogue.depthLimit)))), world, state) := by
  rw [pushFrame, Run.bind_apply, here_apply, Station.enter_apply]
  by_cases shallow : state.frames.length < world.catalogue.depthLimit
  · have open_ : (state.standing handle).sites.length < world.catalogue.depthLimit := shallow
    rw [if_pos shallow, if_pos open_]
    rfl
  · have closed : ¬(state.standing handle).sites.length < world.catalogue.depthLimit := shallow
    rw [if_neg shallow, if_neg closed]

/-- The second outcome is the first one, with the state that there was; or both have halted, and
the second one has left scopes open. -/
inductive Strands (state : RenderState) :
    Except Halt α × World → Except Halt α × World × RenderState → Prop
  | done (value : α) (after : World) : Strands state (.ok value, after) (.ok value, after, state)
  | halted (halt : Halt) (after : World) (scopes : List (Named Value)) (left : RenderState)
      (counted : left.tabbing = state.tabbing) :
      Strands state (.error halt, after) (.error halt, after.pushAll scopes, left)

/-- However it ended, as many tags with tabbing are open as before. -/
theorem Strands.tabbing_eq {state : RenderState} {closed : Except Halt α × World}
    {left : Except Halt α × World × RenderState} (stranded : Strands state closed left) :
    left.2.2.tabbing = state.tabbing := by
  cases stranded with
  | done value after => rfl
  | halted halt after scopes left counted => exact counted

/-- A tag with tabbing is left, with a change of the world that does not care for scopes. -/
theorem Strands.leave_tabbing {state : RenderState} {closed : Except Halt α × World}
    {left : Except Halt α × World × RenderState} (leave : World → World)
    (comm : ∀ world scope, leave (world.push scope) = (leave world).push scope)
    (stranded : Strands { state with tabbing := state.tabbing + 1 } closed left) :
    Strands state (closed.1, leave closed.2)
      (left.1, leave left.2.1, { left.2.2 with tabbing := left.2.2.tabbing - 1 }) := by
  cases stranded with
  | done value after => exact .done value (leave after)
  | halted halt after scopes left counted =>
    show Strands state _ (_, leave (after.pushAll scopes), _)
    rw [World.pushAll_comm comm]
    exact .halted halt (leave after) scopes _ (congrArg (· - 1) counted)

/-- Wherever it stands in a template, the action closes all scopes that it opens, and the action
with a state does the same, but strands scopes where it halts. -/
def Tracks (handle : Handle) (action : Station → Run α) (stateful : Stateful α) : Prop :=
  ∀ world state, (action (state.standing handle) world).2.depth = world.depth ∧
    Strands state (action (state.standing handle) world) (stateful (world, state))

/-- A change for a time that does not care how many scopes there are. -/
structure Unscoped (enter : World → World) (leave : World → World → World) : Prop where
  depth_enter : ∀ world, (enter world).depth = world.depth
  depth_leave : ∀ world after, (leave world after).depth = after.depth
  leave_push : ∀ world after scope,
    leave world (after.push scope) = (leave world after).push scope

namespace Tracks

variable {handle : Handle}

/-- An action that keeps the number of scopes has none to strand. -/
theorem here {action : Station → Run α}
    (kept : ∀ station world, (action station world).2.depth = world.depth) :
    Tracks handle action (here handle action) := by
  intro world state
  refine ⟨kept _ world, ?_⟩
  show Strands state (action (state.standing handle) world)
    ((action (state.standing handle) world).1, (action (state.standing handle) world).2, state)
  rcases action (state.standing handle) world with ⟨halt | value, after⟩
  · exact .halted halt after [] state rfl
  · exact .done value after

/-- Nor has one that needs no state. -/
theorem lift {action : Run α} (kept : ∀ world, (action world).2.depth = world.depth) :
    Tracks handle (fun _ => action) (lift action) :=
  here fun _ => kept

/-- A value by itself changes nothing. -/
theorem pure (value : α) : Tracks handle (fun _ => Pure.pure value) (Pure.pure value) :=
  fun world _ => ⟨rfl, .done value world⟩

/-- A sequence strands what the action strands that it halts with. -/
theorem bind {first : Station → Run α} {second : Stateful α} {next : Station → α → Run β}
    {following : α → Stateful β} (tracks : Tracks handle first second)
    (onward : ∀ value, Tracks handle (fun station => next station value) (following value)) :
    Tracks handle (fun station => first station >>= next station) (second >>= following) := by
  intro world state
  obtain ⟨kept, stranded⟩ := tracks world state
  show ((first _ >>= next _) world).2.depth = _ ∧ Strands state ((first _ >>= next _) world) _
  rw [Run.bind_apply, Run.bind_apply]
  generalize first (state.standing handle) world = closed at kept stranded
  generalize second (world, state) = left at stranded
  cases stranded with
  | done value after =>
    obtain ⟨keptToo, strandedToo⟩ := onward value after state
    exact ⟨keptToo.trans kept, strandedToo⟩
  | halted halt after scopes left counted =>
    exact ⟨kept, .halted halt after scopes left counted⟩

/-- A change for a time is changed back above the scopes that were stranded. -/
theorem around {enter : World → World} {leave : World → World → World}
    {action : Station → Run α} {stateful : Stateful α} (unscoped : Unscoped enter leave)
    (tracks : Tracks handle action stateful) :
    Tracks handle
      (fun station world =>
        ((action station (enter world)).1, leave world (action station (enter world)).2))
      (around enter leave stateful) := by
  intro world state
  obtain ⟨kept, stranded⟩ := tracks (enter world) state
  show (leave world (action (state.standing handle) (enter world)).2).depth = world.depth ∧
    Strands state (_, _) ((stateful (enter world, state)).1,
      leave world (stateful (enter world, state)).2.1, (stateful (enter world, state)).2.2)
  generalize action (state.standing handle) (enter world) = closed at kept stranded ⊢
  generalize stateful (enter world, state) = left at stranded ⊢
  refine ⟨(unscoped.depth_leave _ _).trans (kept.trans (unscoped.depth_enter world)), ?_⟩
  cases stranded with
  | done value after => exact .done value (leave world after)
  | halted halt after scopes left counted =>
    show Strands state _ (_, leave world (after.pushAll scopes), left)
    rw [World.pushAll_comm (unscoped.leave_push world)]
    exact .halted halt _ scopes left counted

/-- A handle is given back. -/
theorem releasing {action : Station → Run α} {stateful : Stateful α} (released : Handle)
    (tracks : Tracks handle action stateful) :
    Tracks handle (fun station => Run.releasing released (action station))
      (releasing released stateful) := by
  have unscoped : Unscoped id
      (fun _ after => { after with catalogue := after.catalogue.release released }) :=
    ⟨fun _ => rfl, fun _ _ => rfl, fun _ _ _ => rfl⟩
  exact around unscoped tracks

/-- The policy of before is active again. -/
theorem underPolicy {action : Station → Run α} {stateful : Stateful α} (extension : String)
    (tracks : Tracks handle action stateful) :
    Tracks handle (fun station => Run.underPolicy extension (action station))
      (underPolicy extension stateful) := by
  have unscoped : Unscoped (fun world => { world with context := world.context.select extension })
      (fun world after =>
        { after with context := { after.context with active := world.context.active } }) :=
    ⟨fun _ => rfl, fun _ _ => rfl, fun _ _ _ => rfl⟩
  exact around unscoped tracks

/-- The sink of before is the sink again. -/
theorem capture {action : Station → Run Unit} {stateful : Stateful Unit}
    (tracks : Tracks handle action stateful) :
    Tracks handle (fun station => Run.capture (action station)) (capture stateful) := by
  have unscoped : Unscoped Discipline.emptied Discipline.resink :=
    ⟨fun _ => rfl, fun _ _ => rfl, fun _ _ _ => rfl⟩
  have reads : Tracks handle (fun _ => Run.written) (Stateful.lift Run.written) :=
    lift fun _ => rfl
  simp only [Run.capture_eq]
  exact around unscoped (tracks.bind fun _ => reads)

/-- A scope that is stranded comes below those that were stranded inside of it. -/
theorem inScope {action : Station → Run α} {stateful : Stateful α} (scope : Named Value)
    (tracks : Tracks handle action stateful) :
    Tracks handle (fun station => Run.inScope scope (action station)) (inScope scope stateful) := by
  intro world state
  obtain ⟨kept, stranded⟩ := tracks (world.push scope) state
  have closing : Run.inScope scope (action (state.standing handle)) world =
      ((action (state.standing handle) (world.push scope)).1,
        (action (state.standing handle) (world.push scope)).2.pop) := rfl
  have leaving : Stateful.inScope scope stateful (world, state) =
      (stateful >>= fun value => Stateful.lift (modify World.pop) >>= fun _ => Pure.pure value)
        (world.push scope, state) := rfl
  show (Run.inScope scope (action (state.standing handle)) world).2.depth = _ ∧
    Strands state (Run.inScope scope (action (state.standing handle)) world) _
  rw [closing, leaving, Run.bind_apply]
  generalize action (state.standing handle) (world.push scope) = closed at kept stranded ⊢
  generalize stateful (world.push scope, state) = left at stranded ⊢
  have below : closed.2.context.outer ≠ [] := List.ne_nil_of_length_eq_add_one kept
  have popped : closed.2.pop.depth = world.depth := by
    have shorter : closed.2.pop.depth + 1 = closed.2.depth :=
      congrArg (·.outer.length) (Context.push_pop below)
    exact Nat.succ.inj (shorter.trans kept)
  cases stranded with
  | done value after => exact ⟨popped, .done value after.pop⟩
  | halted halt after scopes left counted =>
    refine ⟨popped, ?_⟩
    have reopened : after.pop.push after.context.inner = after :=
      congrArg (fun context => { after with context := context }) (Context.push_pop below)
    have all : after.pushAll scopes = after.pop.pushAll (after.context.inner :: scopes) :=
      congrArg (World.pushAll · scopes) reopened.symm
    rw [all]
    exact .halted halt after.pop _ left counted

/-- Values are escaped again behind an action that does not escape them. -/
theorem unescaped {action : Station → Run α} {stateful : Stateful α}
    (tracks : Tracks handle action stateful) :
    Tracks handle (fun station => action { station with escaping := false })
      (unescaped stateful) := by
  intro world state
  obtain ⟨kept, stranded⟩ := tracks world { state with escaping := false }
  refine ⟨kept, ?_⟩
  show Strands state (action { state.standing handle with escaping := false } world)
    ((stateful (world, { state with escaping := false })).1,
      (stateful (world, { state with escaping := false })).2.1,
      { (stateful (world, { state with escaping := false })).2.2 with escaping := state.escaping })
  have standing : ({ state with escaping := false } : RenderState).standing handle =
      { state.standing handle with escaping := false } := rfl
  rw [standing] at stranded
  generalize action { state.standing handle with escaping := false } world = closed at stranded ⊢
  generalize stateful (world, { state with escaping := false }) = left at stranded ⊢
  cases stranded with
  | done value after => exact .done value after
  | halted halt after scopes left counted =>
    exact .halted halt after scopes { left with escaping := state.escaping } counted

/-- The tag that switched tabbing on is the one that switches it off. -/
theorem tabbed {action : Station → Run α} {stateful : Stateful α}
    (tracks : Tracks handle action stateful) :
    Tracks handle
      (fun station =>
        if station.tabbing then action station
        else Run.tabbed (action { station with tabbing := true }))
      (tabbed stateful) := by
  intro world state
  let deeper : RenderState := { state with tabbing := state.tabbing + 1 }
  have standing : deeper.standing handle = { state.standing handle with tabbing := true } := by
    simp [deeper, RenderState.standing]
  show ((if _ then _ else _ : Run α) world).2.depth = _ ∧
    Strands state ((if _ then _ else _ : Run α) world) _
  by_cases first : state.tabbing = 0
  · have off : (state.standing handle).tabbing = false := by simp [RenderState.standing, first]
    obtain ⟨kept, stranded⟩ := tracks (Run.switchTabbing true world) deeper
    have counted := stranded.tabbing_eq
    have leaving : Stateful.tabbed stateful (world, state) =
        ((stateful (Run.switchTabbing true world, deeper)).1,
          Run.switchTabbing false (stateful (Run.switchTabbing true world, deeper)).2.1,
          { (stateful (Run.switchTabbing true world, deeper)).2.2 with
            tabbing := (stateful (Run.switchTabbing true world, deeper)).2.2.tabbing - 1 }) := by
      simp only [deeper, first] at counted
      simp [Stateful.tabbed, first, deeper, counted]
    rw [standing] at kept stranded
    rw [off, leaving]
    refine ⟨?_, stranded.leave_tabbing _ (World.switchTabbing_push false)⟩
    exact (World.depth_switchTabbing false _).trans (kept.trans (World.depth_switchTabbing true _))
  · have on : (state.standing handle).tabbing = true := by
      simp [RenderState.standing, Nat.pos_of_ne_zero first]
    have same : deeper.standing handle = state.standing handle := by rw [standing, ← on]
    obtain ⟨kept, stranded⟩ := tracks world deeper
    have counted := stranded.tabbing_eq
    have leaving : Stateful.tabbed stateful (world, state) =
        ((stateful (world, deeper)).1, id (stateful (world, deeper)).2.1,
          { (stateful (world, deeper)).2.2 with
            tabbing := (stateful (world, deeper)).2.2.tabbing - 1 }) := by
      simp only [deeper] at counted
      simp [Stateful.tabbed, first, deeper, counted]
    rw [same] at kept stranded
    rw [on, leaving]
    exact ⟨kept, stranded.leave_tabbing id fun _ _ => rfl⟩

/-- A tag that was opened is closed, and the chain of templates is the one of before. -/
theorem nested {loaded : Handle} {action : Station → Run α} {stateful : Stateful α} (span : Span)
    (enter : List Handle → List Handle) (leave : List Handle → List Handle → List Handle)
    (restores : ∀ chain, leave chain (enter chain) = chain)
    (tracks : Tracks loaded action stateful) :
    Tracks handle
      (fun station => station.enter span >>= fun inner =>
        action (inner.into loaded (enter station.derived)))
      (nested handle span enter leave stateful) := by
  intro world state
  let visited : Run α := (state.standing handle).enter span >>= fun inner =>
    action (inner.into loaded (enter state.chain))
  have outside : visited world = _ := Run.bind_apply ..
  rw [Station.enter_apply] at outside
  show (visited world).2.depth = _ ∧ Strands state (visited world) _
  unfold Stateful.nested
  rw [outside, Run.bind_apply, pushFrame_apply]
  by_cases shallow : state.frames.length < world.catalogue.depthLimit
  · have open_ : (state.standing handle).sites.length < world.catalogue.depthLimit := shallow
    let inside : RenderState := { state with
      chain := enter state.chain
      frames := state.frames ++ [(state.standing handle).site span] }
    obtain ⟨kept, stranded⟩ := tracks world inside
    rw [if_pos shallow, if_pos open_]
    refine ⟨kept, ?_⟩
    show Strands state (action (inside.standing loaded) world)
      ((stateful >>= fun value => _) (world, inside))
    rw [Run.bind_apply]
    generalize action (inside.standing loaded) world = closed at stranded ⊢
    generalize stateful (world, inside) = left at stranded ⊢
    cases stranded with
    | done value after =>
      show Strands state _ (.ok value, after, RenderState.mk (leave state.chain (enter state.chain))
        (state.frames ++ [(state.standing handle).site span]).dropLast state.escaping state.tabbing)
      rw [restores, List.dropLast_concat]
      exact .done value after
    | halted halt after scopes left counted => exact .halted halt after scopes left counted
  · have closed : ¬(state.standing handle).sites.length < world.catalogue.depthLimit := shallow
    rw [if_neg shallow, if_neg closed]
    exact ⟨rfl, .halted _ world [] state rfl⟩

/-- So it goes on for all elements of a list. -/
theorem forEach {action : Station → Nat → β → Run Unit} {stateful : Nat → β → Stateful Unit}
    (tracks : ∀ index item, Tracks handle (fun station => action station index item)
      (stateful index item)) (index : Nat) (items : List β) :
    Tracks handle (fun station => Run.forEach (action station) index items)
      (forEach stateful index items) := by
  induction items generalizing index with
  | nil => exact pure ()
  | cons item rest inductionHypothesis =>
    exact (tracks index item).bind fun _ => inductionHypothesis (index + 1)

/-- And for all indices. -/
theorem forIndices {action : Station → Nat → Run Unit} {stateful : Nat → Stateful Unit}
    (tracks : ∀ index, Tracks handle (fun station => action station index) (stateful index))
    (index remaining : Nat) :
    Tracks handle (fun station => Run.forIndices (action station) index remaining)
      (forIndices stateful index remaining) := by
  induction remaining generalizing index with
  | zero => exact pure ()
  | succ remaining inductionHypothesis =>
    exact (tracks index).bind fun _ => inductionHypothesis (index + 1)

/-- The bindings of a scope are evaluated in the scopes there are. -/
theorem scopeOf (bindings : List Binding) :
    Tracks handle (fun _ => Run.scopeOf bindings) (Stateful.lift (Run.scopeOf bindings)) := by
  have kept : ∀ (station : Station) (world : World),
      (Run.scopeOf bindings world).2.depth = world.depth := by
    intro station world
    have admitted : (Scoping.contract world.context Scoping.Level.isFree).logic.admits
        (.of world.context fun _ => True) station (.within (.binding bindings) []) :=
      fun tag _ => Scoping.allows_of_free (fun _ free => free) (fun _ => trivial) tag
    exact World.depth_of_upholds
      (Scoping.honest_free.sound.scopeOf admitted fun binding => List.mem_map_of_mem)
  exact here kept

/-- A value is written. -/
theorem emit (value : Value) :
    Tracks handle (fun station => station.emit value)
      (Stateful.here handle fun station => station.emit value) :=
  here fun station _ => World.depth_of_upholds (Scoping.honest_free.upholds_emit station value)

section Loops

variable {body : Station → Run Unit} {statefulBody : Stateful Unit}

/-- A loop strands scopes only where it halts. -/
theorem eachItem (name : String) (items : List Value) (tracks : Tracks handle body statefulBody) :
    Tracks handle (fun station => Stencil.eachItem name items (body station))
      (eachItem name items statefulBody) := by
  refine bind (lift fun _ => rfl) fun parent => ?_
  exact forEach (fun _ _ => bind (lift fun _ => rfl) fun _ => tracks.inScope _) 0 items

/-- So does a range loop. -/
theorem eachNumber (name : String) (numbers : Progression)
    (tracks : Tracks handle body statefulBody) :
    Tracks handle (fun station => Stencil.eachNumber name numbers (body station))
      (eachNumber name numbers statefulBody) := by
  refine bind (lift fun _ => rfl) fun parent => ?_
  exact forIndices (fun _ => bind (lift fun _ => rfl) fun _ => tracks.inScope _) 0 numbers.count

/-- So do the markers of a pattern. -/
theorem eachMarker (name : String) (items : List Value)
    (tracks : Tracks handle body statefulBody) (parts : List PatternPart) :
    Tracks handle (fun station => Stencil.eachMarker name items (body station) parts)
      (eachMarker name items statefulBody parts) := by
  induction parts with
  | nil => exact pure ()
  | cons part rest inductionHypothesis =>
    cases part with
    | text content => exact bind (lift fun _ => rfl) fun _ => inductionHypothesis
    | marker number =>
      simp only [Stencil.eachMarker, Stateful.eachMarker]
      cases items[number]? with
      | some item => exact (tracks.inScope _).bind fun _ => inductionHypothesis
      | none => exact inductionHypothesis

/-- So do the nodes of a tree. -/
theorem eachNode {below : Station → List Value → Run Unit}
    {statefulBelow : List Value → Stateful Unit}
    (inside : ∀ nodes, Tracks handle (fun station => below station nodes) (statefulBelow nodes))
    (tracks : Tracks handle body statefulBody) (nodes : List Value) :
    Tracks handle (fun station => Stencil.eachNode (below station) (body station) nodes)
      (eachNode statefulBelow statefulBody nodes) := by
  induction nodes with
  | nil => exact pure ()
  | cons node rest inductionHypothesis =>
    simp only [eachNode_cons, Stateful.eachNode]
    have children : Tracks handle (fun _ => node.children) (Stateful.lift node.children) := by
      unfold Value.children
      cases node.field? "children" <;> exact lift fun _ => rfl
    refine children.bind fun _ => (inside _).capture.bind fun _ => ?_
    exact (tracks.inScope _).bind fun _ => inductionHypothesis

end Loops

/-- A template is loaded, and given back behind the action. -/
theorem load {action : Station → Handle → Run β} {statefulAction : Handle → Stateful β}
    (span : Span) (name : String)
    (inside : ∀ loaded, Tracks handle (fun station => action station loaded)
      (statefulAction loaded)) :
    Tracks handle
      (fun station => station.load span name >>= fun loaded =>
        Run.releasing loaded (action station loaded))
      (Stateful.here handle (fun station => station.load span name) >>= fun loaded =>
        Stateful.releasing loaded (statefulAction loaded)) := by
  have loads : Tracks handle (fun station => station.load span name)
      (Stateful.here handle fun station => station.load span name) :=
    here fun station world => congrArg List.length (World.Still.load station span name world).outer
  exact loads.bind fun loaded => (inside loaded).releasing loaded

section Tags

variable {expand : Expansion} {stateful : StatefulExpansion}
  (tracks : ∀ handle goal, Tracks handle (fun station => expand station goal)
    (stateful handle goal))
include tracks

/-- The chain of templates that extend goes on with the one that is extended. -/
theorem inherit (target : Expr) (span : Span) :
    Tracks handle (fun station => station.inherit expand target span)
      (inherit stateful handle target span) := by
  refine bind (lift fun _ => rfl) fun name => load span name fun loaded => ?_
  exact nested span (fun chain => chain ++ [handle]) (fun _ chain => chain.dropLast)
    (fun _ => List.dropLast_concat) (tracks loaded .whole)

/-- The chain of before is put back behind a template that is inserted. -/
theorem insert (target : Expr) (bindings : List Binding) (span : Span) :
    Tracks handle (fun station => station.insert expand target bindings span)
      (insert stateful handle target bindings span) := by
  refine bind (lift fun _ => rfl) fun name => (scopeOf bindings).bind fun scope => ?_
  refine load span name fun loaded => ?_
  exact nested span (fun _ => []) (fun chain _ => chain) (fun _ => rfl)
    ((tracks loaded .whole).inScope scope)

/-- And behind one that is rendered into a file. -/
theorem create (target template : Expr) (span : Span) :
    Tracks handle (fun station => station.create expand target template span)
      (create stateful handle target template span) := by
  simp only [Station.create_eq]
  refine bind (lift fun _ => rfl) fun target => bind (lift fun _ => rfl) fun name => ?_
  refine bind (lift fun _ => rfl) fun directory => ?_
  cases directory with
  | none => exact here fun _ _ => rfl
  | some directory =>
    refine load span name fun loaded => ?_
    simp only [← bind_assoc]
    refine bind (nested span (fun _ => []) (fun chain _ => chain) (fun _ => rfl)
      ((tracks loaded .whole).capture.underPolicy _)) fun text => ?_
    exact here fun station _ =>
      World.depth_of_upholds (Scoping.honest_free.upholds_writeFile station span _ text)

/-- A region is executed. -/
theorem within (region : Region) (statements : List Stmt) {body : Station → Run Unit}
    {statefulBody : Stateful Unit} (inside : Tracks handle body statefulBody) :
    Tracks handle (fun station => station.within expand region statements body)
      (within stateful handle region statements statefulBody) := by
  cases region with
  | binding bindings => exact (scopeOf bindings).bind fun scope => inside.inScope scope
  | spaceless =>
    refine inside.capture.bind fun text => bind (lift fun world => ?_) fun _ => lift fun _ => rfl
    exact congrArg List.length (World.Still.removeSpace world text).outer
  | tree nodes => exact bind (lift fun _ => rfl) fun value => tracks handle _
  | markers name items pattern =>
    refine bind (lift fun _ => rfl) fun value => bind (lift fun _ => rfl) fun pattern => ?_
    exact inside.eachMarker name _ _
  | message => exact inside.capture.unescaped.bind fun _ => lift fun _ => rfl
  | range name first last down step =>
    refine bind (lift fun _ => rfl) fun first => bind (lift fun _ => rfl) fun last => ?_
    cases step with
    | none => exact inside.eachNumber name _
    | some step => exact bind (lift fun _ => rfl) fun step => inside.eachNumber name _
  | tabbing => exact inside.tabbed

end Tags

end Tracks

end Stateful

open Stateful (Tracks)

variable {expand : Expansion} {stateful : StatefulExpansion}

mutual

/-- A statement strands scopes only where it halts. -/
theorem Stmt.tracks_execute
    (tracks : ∀ handle goal, Tracks handle (fun station => expand station goal)
      (stateful handle goal)) (handle : Handle) (statement : Stmt) :
    Tracks handle (fun station => statement.execute expand station)
      (statement.executeStateful stateful handle) := by
  cases statement with
  | text content => exact .lift fun _ => rfl
  | output value => exact Tracks.bind (.lift fun _ => rfl) fun value => .emit value
  | branch condition yes no =>
    refine Tracks.bind (.lift fun _ => rfl) fun value => ?_
    cases value.truthy with
    | true => exact tracks_executeAll tracks handle yes
    | false => exact tracks_executeAll tracks handle no
  | each loop body empty =>
    refine Tracks.bind (.lift fun _ => rfl) fun value => ?_
    cases isEmpty : value.elements.isEmpty with
    | true =>
      simp only [isEmpty, if_true]
      exact tracks_executeAll tracks handle empty
    | false =>
      simp only [isEmpty, Bool.false_eq_true, if_false]
      exact (tracks_executeAll tracks handle body).eachItem _ _
  | within region body => exact .within tracks region body (tracks_executeAll tracks handle body)
  | block name => exact tracks handle _
  | inherit target span => exact .inherit tracks target span
  | insert target bindings span => exact .insert tracks target bindings span
  | create target template span => exact .create tracks target template span
  | cycle number first others =>
    have turns : Tracks handle (fun station => Run.turn ⟨station.handle.serial, number⟩)
        (.lift (Run.turn ⟨handle.serial, number⟩)) := Tracks.here fun _ _ => rfl
    refine turns.bind fun turn => Tracks.bind (.lift fun _ => rfl) fun value => ?_
    exact .emit value
  | assign binding => exact Tracks.bind (.lift fun _ => rfl) fun value => .lift fun _ => rfl
termination_by structural statement

/-- So do statements in order. -/
theorem tracks_executeAll
    (tracks : ∀ handle goal, Tracks handle (fun station => expand station goal)
      (stateful handle goal)) (handle : Handle) (statements : List Stmt) :
    Tracks handle (fun station => executeAll expand station statements)
      (executeAllStateful stateful handle statements) := by
  cases statements with
  | nil => exact .pure ()
  | cons statement rest =>
    exact (statement.tracks_execute tracks handle).bind fun _ =>
      tracks_executeAll tracks handle rest
termination_by structural statements

end

namespace Stateful.Tracks

variable (tracks : ∀ handle goal, Tracks handle (fun station => expand station goal)
  (stateful handle goal)) {handle : Handle}
include tracks

/-- The body of a definition is executed in the template of the definition. -/
theorem renderOver (definition : Handle) (body : List Stmt) (parent : Value) :
    Tracks handle (fun station => station.renderOver expand definition body parent)
      (renderOver stateful definition body parent) := by
  have inside : Tracks handle
      (fun station => executeAll expand { station with handle := definition } body)
      (executeAllStateful stateful definition body) := tracks_executeAll tracks definition body
  exact bind (lift fun _ => rfl) fun block => inside.inScope _

/-- A block is rendered. -/
theorem renderBlock (name : String) (definitions : List Handle) :
    Tracks handle (fun station => station.renderBlock expand name definitions)
      (renderBlock stateful handle name definitions) := by
  cases definitions with
  | nil => exact pure ()
  | cons definition others =>
    simp only [Station.renderBlock, Stateful.renderBlock]
    cases definition.template.block? name with
    | none => exact pure ()
    | some body =>
      cases others with
      | nil => exact renderOver tracks definition body .none
      | cons next others =>
        exact (tracks handle _).capture.bind fun text =>
          renderOver tracks definition body (.rawText text)

/-- A goal is pursued. -/
theorem pursue (goal : Goal) :
    Tracks handle (fun station => station.pursue expand goal) (pursue stateful handle goal) := by
  cases goal with
  | whole =>
    intro world state
    exact tracks_executeAll tracks handle _ world state
  | reference name =>
    intro world state
    exact renderBlock tracks name ((state.standing handle).definitions name) world state
  | block name definitions => exact renderBlock tracks name definitions
  | tree nodes body =>
    exact eachNode (fun nodes => tracks handle _) (tracks_executeAll tracks handle body) nodes

end Stateful.Tracks

/-- However many goals lie inside one another, a rendering with a state expands them as one
without does. -/
theorem tracks_expand (depth : Nat) (handle : Handle) (goal : Goal) :
    Tracks handle (fun station => Stencil.expand depth station goal)
      (expandStateful depth handle goal) := by
  induction depth generalizing handle goal with
  | zero => exact fun world state => ⟨rfl, .halted .exhausted world [] state rfl⟩
  | succ depth inductionHypothesis => exact .pursue inductionHypothesis goal

/-- A rendering that keeps a state, strands scopes where it fails, and unwinds them at the end, is
the same as one that knows where it stands and closes each scope where it was opened: it comes to
the same result, and leaves the same world behind. -/
theorem Workshop.renderStateful_eq (shop : Workshop) (limit : Nat) (handle : Handle)
    (sink : Sink) : shop.renderStateful limit handle sink = shop.renderInto limit handle sink := by
  have kept : Scoping.Kept shop.context (.of shop.context fun _ => True)
      (shop.renderInto limit handle sink).2.context :=
    Scoping.kept_renderInto (.of_always fun _ _ _ _ _ => trivial)
  have scopes : (shop.renderInto limit handle sink).2.context.scopes.length =
      shop.context.scopes.length := congrArg (·.length + 1) kept.outer
  have active : (shop.renderInto limit handle sink).2.context.active = shop.context.active :=
    kept.active
  have stranded : Stateful.Strands .start (shop.renderInto limit handle sink)
      (expandStateful limit handle .whole ({ shop with turns := [], sink := sink }, .start)) :=
    (tracks_expand limit handle .whole { shop with turns := [], sink := sink } .start).2
  unfold Workshop.renderStateful
  generalize shop.renderInto limit handle sink = closed at scopes active stranded ⊢
  generalize expandStateful limit handle .whole
    ({ shop with turns := [], sink := sink }, .start) = left at stranded ⊢
  cases stranded with
  | done value after => rfl
  | halted halt after open_ left counted =>
    have unwound : (after.pushAll open_).context.unwind shop.context.scopes.length =
        after.context := scopes ▸ after.context.unwind_pushAll open_
    have policy : { after.context with active := shop.context.active } = after.context := by
      rw [← active]
    show (Except.error halt, { after.pushAll open_ with context :=
      { (after.pushAll open_).context.unwind shop.context.scopes.length with
        active := shop.context.active } }) = (_, after)
    rw [unwound, policy]
    rfl

end Stencil
