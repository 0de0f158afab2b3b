import Stencil.Proofs.Dealings

/-!
# Renderings with a state

A rendering can keep where it stands in a state of its own that it changes as it goes: the
templates that extend the one at hand, the tags that led there, whether values are escaped,
and how many tags with tabbing are open. What it has opened, a scope, a tag or a chain of
templates, it closes where it goes on behind it. Where it halts, it leaves them as they are.
Only the sink, the handles, the policy and tabbing are seen to at once. When the whole
rendering has failed, scopes are closed until there are as many as at the beginning, and the
policy of the beginning is made the active one.
-/

namespace Stencil

namespace Context

/-- Closes so many scopes, but never the outermost one. -/
def popTimes : Nat → Context → Context
  | 0, context => context
  | times + 1, context => popTimes times context.pop

/-- Closes scopes until so many are left. -/
def unwind (context : Context) (depth : Nat) : Context :=
  context.popTimes (context.scopes.length - depth)

end Context

/-- The world with one scope more. -/
def World.push (world : World) (scope : Named Value) : World :=
  { world with context := world.context.push scope }

/-- The world with the innermost scope closed. -/
def World.pop (world : World) : World := { world with context := world.context.pop }

/-- What changes while a template is rendered: the templates that extend it, most derived
first, the tags that are open, outermost first, whether values are escaped, and how many of
the open tags switch tabbing on. -/
structure RenderState where
  chain : List Handle
  frames : List Site
  escaping : Bool
  tabbing : Nat

namespace RenderState

/-- The state at the start. -/
def start : RenderState := ⟨[], [], true, 0⟩

/-- Where a rendering stands that has come to a template. -/
def standing (state : RenderState) (handle : Handle) : Station :=
  ⟨handle, state.chain, state.frames, state.escaping, 0 < state.tabbing⟩

end RenderState

/-- What a rendering does to its world and its state to come to a result or to halt. -/
abbrev Stateful (α : Type) := ExceptT Halt (StateM (World × RenderState)) α

/-- A way to expand goals in a template. -/
abbrev StatefulExpansion := Handle → Goal → Stateful Unit

namespace Stateful

variable {α β : Type}

/-- Does what needs no state. -/
def lift (action : Run α) : Stateful α := fun scene =>
  let done := action scene.1
  (done.1, done.2, scene.2)

/-- Does what depends on where the rendering stands. -/
def here (handle : Handle) (action : Station → Run α) : Stateful α := do
  let scene ← get
  lift (action (scene.2.standing handle))

/-- Performs an action between two changes of the world, the second one also when it halted. -/
def around (enter : World → World) (leave : World → World → World) (action : Stateful α) :
    Stateful α := fun scene =>
  let done := action (enter scene.1, scene.2)
  (done.1, leave scene.1 done.2.1, done.2.2)

/-- Performs an action that uses a handle, and gives the handle back. -/
def releasing (handle : Handle) (action : Stateful α) : Stateful α :=
  around id (fun _ after => { after with catalogue := after.catalogue.release handle }) action

/-- Performs an action with the policy of an extension as the active one. -/
def underPolicy (extension : String) (action : Stateful α) : Stateful α :=
  around (fun world => { world with context := world.context.select extension })
    (fun world after =>
      { after with context := { after.context with active := world.context.active } }) action

/-- The text that an action writes. -/
def capture (action : Stateful Unit) : Stateful String :=
  around Discipline.emptied Discipline.resink do
    action
    lift Run.written

/-- Performs an action with a new innermost scope. -/
def inScope (scope : Named Value) (action : Stateful α) : Stateful α := do
  lift (modify fun world => world.push scope)
  let value ← action
  lift (modify World.pop)
  return value

/-- Performs an action without escaping values. -/
def unescaped (action : Stateful α) : Stateful α := fun scene =>
  let done := action (scene.1, { scene.2 with escaping := false })
  (done.1, done.2.1, { done.2.2 with escaping := scene.2.escaping })

/-- Performs an action with one more tag that switches tabbing on. The first of them tells the
policy so, and tells it again when it is left. -/
def tabbed (action : Stateful α) : Stateful α := fun scene =>
  let entered := if scene.2.tabbing = 0 then Run.switchTabbing true scene.1 else scene.1
  let done := action (entered, { scene.2 with tabbing := scene.2.tabbing + 1 })
  let left : RenderState := { done.2.2 with tabbing := done.2.2.tabbing - 1 }
  (done.1, if left.tabbing = 0 then Run.switchTabbing false done.2.1 else done.2.1, left)

/-- Opens a tag, unless it lies too deep. -/
def pushFrame (handle : Handle) (span : Span) : Stateful Unit := do
  let inner ← here handle fun station => station.enter span
  modify fun scene => (scene.1, { scene.2 with frames := inner.sites })

/-- Performs an action inside of a tag. It begins with another chain of templates, and the
chain is changed back behind it. -/
def nested (handle : Handle) (span : Span) (enter : List Handle → List Handle)
    (leave : List Handle → List Handle → List Handle) (action : Stateful α) : Stateful α := do
  pushFrame handle span
  let outer ← get
  modify fun scene => (scene.1, { scene.2 with chain := enter scene.2.chain })
  let value ← action
  modify fun scene => (scene.1, { scene.2 with
    chain := leave outer.2.chain scene.2.chain
    frames := scene.2.frames.dropLast })
  return value

/-- Performs an action for each element of a list with its index. -/
def forEach (action : Nat → β → Stateful Unit) : Nat → List β → Stateful Unit
  | _, [] => pure ()
  | index, item :: rest => do
    action index item
    forEach action (index + 1) rest

/-- Performs an action for as many indices as there remain. -/
def forIndices (action : Nat → Stateful Unit) (index : Nat) : Nat → Stateful Unit
  | 0 => pure ()
  | remaining + 1 => do
    action index
    forIndices action (index + 1) remaining

/-- Executes the body of a loop once for each item. -/
def eachItem (name : String) (items : List Value) (body : Stateful Unit) : Stateful Unit := do
  let parent ← lift (Run.lookUp "forloop")
  forEach (fun index item => do
    let loop ← lift (Run.hosted (Host.fresh
      (Value.newRecord (loopEntries index items.length parent))))
    inScope (Named.ofPairs [(name, item), ("forloop", loop)]) body) 0 items

/-- Executes the body of a range loop once for each number. -/
def eachNumber (name : String) (numbers : Progression) (body : Stateful Unit) :
    Stateful Unit := do
  let parent ← lift (Run.lookUp "forloop")
  forIndices (fun index => do
    let loop ← lift (Run.hosted (Host.fresh
      (Value.newRecord (loopEntries index numbers.count parent))))
    let number := Value.integer (Int64.ofInt (numbers.term index))
    inScope (Named.ofPairs [(name, number), ("forloop", loop)]) body) 0 numbers.count

/-- Writes a pattern, and executes the body for the item at the number of each marker. -/
def eachMarker (name : String) (items : List Value) (body : Stateful Unit) :
    List PatternPart → Stateful Unit
  | [] => pure ()
  | .text content :: rest => do
    lift (Run.write (String.ofList content))
    eachMarker name items body rest
  | .marker number :: rest => do
    match items[number]? with
    | some item => inScope [(name, item)] body
    | none => pure ()
    eachMarker name items body rest

/-- Executes the body for each node of a tree, with the text of the nodes below it. -/
def eachNode (below : List Value → Stateful Unit) (body : Stateful Unit) :
    List Value → Stateful Unit
  | [] => pure ()
  | node :: rest => do
    let children ← lift node.children
    let text ← capture (below children.elements)
    inScope (Named.ofPairs [("node", node), ("children", .rawText text)]) body
    eachNode below body rest

section Tags

variable (expand : StatefulExpansion) (handle : Handle)

/-- Renders the template that this one extends. This one joins the chain for that time. -/
def inherit (target : Expr) (span : Span) : Stateful Unit := do
  let name ← lift (Run.evaluateText target)
  let loaded ← here handle fun station => station.load span name
  releasing loaded
    (nested handle span (fun chain => chain ++ [handle]) (fun _ chain => chain.dropLast)
      (expand loaded .whole))

/-- Renders another template in the place of the tag, with a chain and a scope of its own. -/
def insert (target : Expr) (bindings : List Binding) (span : Span) : Stateful Unit := do
  let name ← lift (Run.evaluateText target)
  let scope ← lift (Run.scopeOf bindings)
  let loaded ← here handle fun station => station.load span name
  releasing loaded
    (nested handle span (fun _ => []) (fun chain _ => chain)
      (inScope scope (expand loaded .whole)))

/-- Renders another template into a file, with a chain of its own and under the policy of its
extension. -/
def create (target template : Expr) (span : Span) : Stateful Unit := do
  let target ← lift (Run.evaluateText target)
  let name ← lift (Run.evaluateText template)
  match ← lift Run.directory with
  | none =>
    here handle fun station =>
      Run.fail (station.locate span (.ofCause (.noOutputDirectory target)))
  | some directory =>
    let path := FilePath.join directory (TemplateName.normal target)
    let loaded ← here handle fun station => station.load span name
    releasing loaded do
      let text ← nested handle span (fun _ => []) (fun chain _ => chain)
        (underPolicy (FilePath.extension path) (capture (expand loaded .whole)))
      here handle fun station => station.writeFile span path text

/-- Executes a region whose body is executed by the given action. -/
def within (region : Region) (statements : List Stmt) (body : Stateful Unit) :
    Stateful Unit := do
  match region with
  | .binding bindings => inScope (← lift (Run.scopeOf bindings)) body
  | .spaceless =>
    let text ← capture body
    let changed ← lift (Run.removeSpace text)
    lift (Run.write changed)
  | .tree nodes =>
    let nodes ← lift (Run.evaluate nodes)
    expand handle (.tree nodes.elements statements)
  | .markers name items pattern =>
    let items ← lift (Run.evaluate items)
    let pattern ← lift (Run.evaluateText pattern)
    eachMarker name items.elements body (PatternPart.parts pattern.toList)
  | .message =>
    let text ← unescaped (capture body)
    lift (Run.note (.message text))
  | .range name first last down step =>
    let first := (← lift (Run.evaluate first)).toInteger
    let last := (← lift (Run.evaluate last)).toInteger
    let step ← match step with
      | some step => do
        let step ← lift (Run.evaluate step)
        pure step.toInteger.toInt
      | none => pure 1
    eachNumber name (.between first.toInt last.toInt step down) body
  | .tabbing => tabbed body

end Tags

end Stateful

mutual

/-- Executes a statement of a template. -/
def Stmt.executeStateful (expand : StatefulExpansion) (handle : Handle) : Stmt → Stateful Unit
  | .text content => .lift (Run.write content)
  | .output value => do
    let value ← Stateful.lift (Run.evaluate value)
    .here handle fun station => station.emit value
  | .branch condition yes no => do
    if (← Stateful.lift (Run.evaluate condition)).truthy then executeAllStateful expand handle yes
    else executeAllStateful expand handle no
  | .each loop body empty => do
    let items := (← Stateful.lift (Run.evaluate loop.items)).elements
    if items.isEmpty then executeAllStateful expand handle empty
    else
      .eachItem loop.name (if loop.reversed then items.reverse else items)
        (executeAllStateful expand handle body)
  | .within region body => .within expand handle region body (executeAllStateful expand handle body)
  | .block name => expand handle (.reference name)
  | .inherit target span => .inherit expand handle target span
  | .insert target bindings span => .insert expand handle target bindings span
  | .create target template span => .create expand handle target template span
  | .cycle number first others => do
    let turn ← Stateful.lift (Run.turn ⟨handle.serial, number⟩)
    let chosen := (first :: others)[turn % (others.length + 1)]?.getD first
    let value ← Stateful.lift (Run.evaluate chosen)
    .here handle fun station => station.emit value
  | .assign binding => do
    let value ← Stateful.lift (Run.evaluate binding.value)
    .lift (Run.assign binding.name value)
termination_by structural statement => statement

/-- Executes statements in order. -/
def executeAllStateful (expand : StatefulExpansion) (handle : Handle) : List Stmt → Stateful Unit
  | [] => pure ()
  | statement :: rest => do
    statement.executeStateful expand handle
    executeAllStateful expand handle rest
termination_by structural statements => statements

end

namespace Stateful

variable (expand : StatefulExpansion)

/-- Executes the body of a definition of a block. -/
def renderOver (definition : Handle) (body : List Stmt) (parent : Value) : Stateful Unit := do
  let block ← lift (Run.hosted (Host.fresh (Value.newRecord [("super", parent)])))
  inScope [("block", block)] (executeAllStateful expand definition body)

/-- Renders the first definition of a block, with the next one rendered before it. -/
def renderBlock (handle : Handle) (name : String) : List Handle → Stateful Unit
  | [] => pure ()
  | definition :: others =>
    match definition.template.block? name with
    | none => pure ()
    | some body => do
      let parent ← match others with
        | [] => pure Value.none
        | _ => do
          let text ← capture (expand handle (.block name others))
          pure (Value.rawText text)
      renderOver expand definition body parent

/-- Does what a goal asks for. -/
def pursue (handle : Handle) : Goal → Stateful Unit
  | .whole =>
    executeAllStateful expand handle
      (if handle.template.inherits then handle.template.heads else handle.template.body)
  | .reference name => do
    let scene ← get
    renderBlock expand handle name ((scene.2.standing handle).definitions name)
  | .block name definitions => renderBlock expand handle name definitions
  | .tree nodes body =>
    eachNode (fun nodes => expand handle (.tree nodes body)) (executeAllStateful expand handle body)
      nodes

end Stateful

/-- Expands a goal, with at most so many goals inside one another. -/
def expandStateful : Nat → StatefulExpansion
  | 0, _, _ => throw .exhausted
  | depth + 1, handle, goal => Stateful.pursue (expandStateful depth) handle goal

/-- Renders a template into a sink. What a failure has stranded is unwound at the end. -/
def Workshop.renderStateful (shop : Workshop) (limit : Nat) (handle : Handle) (sink : Sink) :
    Except Halt Unit × World :=
  match expandStateful limit handle .whole
      ({ shop with turns := [], sink := sink }, RenderState.start) with
  | (.ok value, after, _) => (.ok value, after)
  | (.error halt, after, _) =>
    let context := after.context.unwind shop.context.scopes.length
    (.error halt, { after with context := { context with active := shop.context.active } })

end Stencil
