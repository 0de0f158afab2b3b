import Stencil.Proofs.Logic
import Stencil.Rendering

/-!
# Chronicles of renderings

What a rendering does in the course of time cannot be told from its result. So statements
are executed here with a chronicle: it tells of each statement that is begun, with the
world at that moment, and of each tag whose template is entered, is left again, or cannot
be loaded. An account is an action with what is told of it. Accounts follow the actions
step by step and read nothing of the chronicle, so an execution with a chronicle does what
the execution does.
-/

namespace Stencil

/-- A tag that leads to another template: where it stands, and its place there. -/
structure Gate where
  handle : Handle
  span : Span

/-- The title of the template that the tag stands in, and its line there. -/
def Gate.site (gate : Gate) : Site :=
  ⟨gate.handle.template.title, gate.handle.template.line gate.span⟩

/-- The tag at a span of the template that a station stands in. -/
def Station.gate (station : Station) (span : Span) : Gate := ⟨station.handle, span⟩

/-- What a chronicle tells of: a statement is begun, in a world; a tag is gone through,
to a template, and what it leads to has been rendered; or there is a template for the
tag, but it does not compile or cannot be read. -/
inductive Event where
  | began (station : Station) (statement : Stmt) (world : World)
  | entered (gate : Gate) (target : Handle)
  | left (gate : Gate)
  | barred (gate : Gate)

/-- An action, and what is told of it when it is performed in a world. -/
structure Account (α : Type) where
  run : Run α
  events : World → List Event

namespace Account

variable {α β : Type}

/-- Nothing is told of a value; of a sequence what is told of its parts, as far as they
are performed. -/
instance : Monad Account where
  pure value := ⟨pure value, fun _ => []⟩
  bind first next :=
    ⟨first.run >>= fun value => (next value).run, fun world =>
      first.events world ++ match first.run world with
        | (.ok value, after) => (next value).events after
        | (.error _, _) => []⟩

/-- An action of which nothing is told. -/
def silent (action : Run α) : Account α := ⟨action, fun _ => []⟩

/-- A change for a time tells what the account inside of it tells. -/
def inside (enter : World → World) (change : Run α → Run β) (account : Account α) : Account β :=
  ⟨change account.run, fun world => account.events (enter world)⟩

/-- An account in a new innermost scope. -/
def inScope (scope : Named Value) (account : Account α) : Account α :=
  account.inside (fun world => { world with context := world.context.push scope })
    (Run.inScope scope)

/-- An account that gives a handle back in the end. -/
def releasing (handle : Handle) (account : Account α) : Account α :=
  account.inside id (Run.releasing handle)

/-- An account with the policy of an extension as the active one. -/
def underPolicy (extension : String) (account : Account α) : Account α :=
  account.inside (fun world => { world with context := world.context.select extension })
    (Run.underPolicy extension)

/-- An account with tabbing switched on. -/
def tabbed (account : Account α) : Account α :=
  account.inside (Run.switchTabbing true) Run.tabbed

/-- An account whose text is caught. -/
def capture (account : Account Unit) : Account String :=
  account.inside (fun world => { world with sink := .buffer "" }) Run.capture

/-- An account of a statement, which is told to begin. -/
def beginning (station : Station) (statement : Stmt) (account : Account α) : Account α :=
  ⟨account.run, fun world => .began station statement world :: account.events world⟩

/-- An account of what a tag leads to: the tag is told to be gone through, and, if all
went well, to be left. -/
def through (gate : Gate) (target : Handle) (account : Account α) : Account α :=
  ⟨account.run, fun world => .entered gate target :: account.events world ++
    match (account.run world).1 with
    | .ok _ => [.left gate]
    | .error _ => []⟩

/-- An account for each element of a list with its index. -/
def forEach (account : Nat → β → Account Unit) : Nat → List β → Account Unit
  | _, [] => pure ()
  | index, item :: rest => do
    account index item
    forEach account (index + 1) rest

/-- An account for as many indices as there remain. -/
def forIndices (account : Nat → Account Unit) (index : Nat) : Nat → Account Unit
  | 0 => pure ()
  | remaining + 1 => do
    account index
    forIndices account (index + 1) remaining

/-- The body of a loop, once for each item. -/
def eachItem (name : String) (items : List Value) (body : Account Unit) : Account Unit := do
  let parent ← silent (Run.lookUp "forloop")
  forEach (fun index item => do
    let loop ← silent (Run.hosted (Host.fresh
      (Value.newRecord (loopEntries index items.length parent))))
    inScope (Named.ofPairs [(name, item), ("forloop", loop)]) body) 0 items

/-- The body of a range loop, once for each number. -/
def eachNumber (name : String) (numbers : Progression) (body : Account Unit) :
    Account Unit := do
  let parent ← silent (Run.lookUp "forloop")
  forIndices (fun index => do
    let loop ← silent (Run.hosted (Host.fresh
      (Value.newRecord (loopEntries index numbers.count parent))))
    let number := Value.integer (Int64.ofInt (numbers.term index))
    inScope (Named.ofPairs [(name, number), ("forloop", loop)]) body) 0 numbers.count

/-- A pattern, with the body for the item at the number of each marker. -/
def eachMarker (name : String) (items : List Value) (body : Account Unit) :
    List PatternPart → Account Unit
  | [] => pure ()
  | .text content :: rest => do
    silent (Run.write (String.ofList content))
    eachMarker name items body rest
  | .marker number :: rest => do
    match items[number]? with
    | some item => inScope [(name, item)] body
    | none => pure ()
    eachMarker name items body rest

/-- The body for each node of a tree, with the text of the nodes below it. -/
def eachNode (below : List Value → Account Unit) (body : Account Unit) :
    List Value → Account Unit
  | [] => pure ()
  | node :: rest => do
    let children ← silent node.children
    let text ← capture (below children.elements)
    inScope (Named.ofPairs [("node", node), ("children", .rawText text)]) body
    eachNode below body rest

end Account

/-- A way to expand goals with a chronicle. -/
abbrev Narration := Station → Goal → Account Unit

namespace Station

open Account

variable (station : Station) (narrate : Narration)

/-- Loads the template that a tag asks for. The tag is told to be barred if there is one
that cannot be had. -/
def loadTold (span : Span) (name : String) : Account Handle :=
  ⟨station.load span name, fun world =>
    match world.catalogue.load world.host.files name (some (station.template.line span)) with
    | .ok _ => []
    | .error fault =>
      if fault.cause.kind = .resolution then [] else [.barred (station.gate span)]⟩

/-- Renders the template that this one extends. -/
def inheritTold (target : Expr) (span : Span) : Account Unit := do
  let name ← silent (Run.evaluateText target)
  let handle ← station.loadTold span name
  releasing handle do
    let inner ← silent (station.enter span)
    through (station.gate span) handle
      (narrate (inner.into handle (station.derived ++ [station.handle])) .whole)

/-- Renders another template in the place of the tag. -/
def insertTold (target : Expr) (bindings : List Binding) (span : Span) : Account Unit := do
  let name ← silent (Run.evaluateText target)
  let scope ← silent (Run.scopeOf bindings)
  let handle ← station.loadTold span name
  releasing handle do
    let inner ← silent (station.enter span)
    through (station.gate span) handle (inScope scope (narrate (inner.into handle []) .whole))

/-- Renders another template into a file. The tag is left before the file is written. -/
def createTold (target template : Expr) (span : Span) : Account Unit := do
  let target ← silent (Run.evaluateText target)
  let name ← silent (Run.evaluateText template)
  match ← silent Run.directory with
  | none => silent (Run.fail (station.locate span (.ofCause (.noOutputDirectory target))))
  | some directory =>
    let path := FilePath.join directory (TemplateName.normal target)
    let handle ← station.loadTold span name
    releasing handle do
      let inner ← silent (station.enter span)
      let text ← through (station.gate span) handle
        (underPolicy (FilePath.extension path) (capture (narrate (inner.into handle []) .whole)))
      silent (station.writeFile span path text)

/-- Executes a region whose body is executed by the given function. -/
def withinTold (region : Region) (statements : List Stmt) (body : Station → Account Unit) :
    Account Unit := do
  match region with
  | .binding bindings => inScope (← silent (Run.scopeOf bindings)) (body station)
  | .spaceless =>
    let text ← capture (body station)
    silent (Run.removeSpace text >>= Run.write)
  | .tree nodes => narrate station (.tree (← silent (Run.evaluate nodes)).elements statements)
  | .markers name items pattern => do
    let items := (← silent (Run.evaluate items)).elements
    let pattern ← silent (Run.evaluateText pattern)
    Account.eachMarker name items (body station) (PatternPart.parts pattern.toList)
  | .message =>
    let text ← capture (body { station with escaping := false })
    silent (Run.note (.message text))
  | .range name first last down step => do
    let first := (← silent (Run.evaluate first)).toInteger
    let last := (← silent (Run.evaluate last)).toInteger
    let step ← match step with
      | some step => pure (← silent (Run.evaluate step)).toInteger.toInt
      | none => pure 1
    Account.eachNumber name (.between first.toInt last.toInt step down) (body station)
  | .tabbing =>
    if station.tabbing then body station
    else tabbed (body { station with tabbing := true })

end Station

open Account

mutual

/-- Executes a statement, which is told to begin. -/
def Stmt.executeTold (narrate : Narration) (station : Station) : Stmt → Account Unit
  | .text content => beginning station (.text content) (silent (Run.write content))
  | .output value => beginning station (.output value) do
    silent (station.emit (← silent (Run.evaluate value)))
  | .branch condition yes no => beginning station (.branch condition yes no) do
    if (← silent (Run.evaluate condition)).truthy then executeAllTold narrate station yes
    else executeAllTold narrate station no
  | .each loop body empty => beginning station (.each loop body empty) do
    let items := (← silent (Run.evaluate loop.items)).elements
    if items.isEmpty then executeAllTold narrate station empty
    else
      Account.eachItem loop.name (if loop.reversed then items.reverse else items)
        (executeAllTold narrate station body)
  | .within region body => beginning station (.within region body)
    (station.withinTold narrate region body fun inner => executeAllTold narrate inner body)
  | .block name => beginning station (.block name) (narrate station (.reference name))
  | .inherit target span =>
    beginning station (.inherit target span) (station.inheritTold narrate target span)
  | .insert target bindings span => beginning station (.insert target bindings span)
    (station.insertTold narrate target bindings span)
  | .create target template span => beginning station (.create target template span)
    (station.createTold narrate target template span)
  | .cycle number first others => beginning station (.cycle number first others) do
    let turn ← silent (Run.turn ⟨station.handle.serial, number⟩)
    let chosen := (first :: others)[turn % (others.length + 1)]?.getD first
    silent (station.emit (← silent (Run.evaluate chosen)))
  | .assign binding => beginning station (.assign binding) do
    silent (Run.assign binding.name (← silent (Run.evaluate binding.value)))
termination_by structural statement => statement

/-- Executes statements in order. -/
def executeAllTold (narrate : Narration) (station : Station) : List Stmt → Account Unit
  | [] => pure ()
  | statement :: rest => do
    statement.executeTold narrate station
    executeAllTold narrate station rest
termination_by structural statements => statements

end

namespace Station

variable (station : Station) (narrate : Narration)

/-- Executes the body of a definition of a block. -/
def renderOverTold (definition : Handle) (body : List Stmt) (parent : Value) :
    Account Unit := do
  let block ← silent (Run.hosted (Host.fresh (Value.newRecord [("super", parent)])))
  inScope [("block", block)] (executeAllTold narrate { station with handle := definition } body)

/-- Renders the first definition of a block, with the next one rendered before it. -/
def renderBlockTold (name : String) : List Handle → Account Unit
  | [] => pure ()
  | definition :: others =>
    match definition.template.block? name with
    | none => pure ()
    | some body => do
      let parent ← match others with
        | [] => pure Value.none
        | _ => pure (Value.rawText (← capture (narrate station (.block name others))))
      station.renderOverTold narrate definition body parent

/-- Does what a goal asks for. -/
def pursueTold : Goal → Account Unit
  | .whole => executeAllTold narrate station station.template.executed
  | .reference name => station.renderBlockTold narrate name (station.definitions name)
  | .block name definitions => station.renderBlockTold narrate name definitions
  | .tree nodes body =>
    Account.eachNode (fun nodes => narrate station (.tree nodes body))
      (executeAllTold narrate station body) nodes

end Station

/-- Expands a goal with a chronicle. -/
def expandTold : Nat → Narration
  | 0, _, _ => silent (throw .exhausted)
  | depth + 1, station, goal => station.pursueTold (expandTold depth) goal

/-- The chronicle of the rendering of a template into a sink. -/
def Workshop.chronicle (shop : Workshop) (limit : Nat) (handle : Handle) (sink : Sink) :
    List Event :=
  (expandTold limit (.start handle) .whole).events { shop with turns := [], sink := sink }

namespace Account

variable {α β : Type}

/-- The actions of a sequence are performed one after the other. -/
@[simp] theorem run_bind (first : Account α) (next : α → Account β) :
    (first >>= next).run = first.run >>= fun value => (next value).run := rfl

/-- What is told of a sequence is told of its parts, as far as they are performed. -/
theorem events_bind (first : Account α) (next : α → Account β) (world : World) :
    (first >>= next).events world = first.events world ++
      match first.run world with
      | (.ok value, after) => (next value).events after
      | (.error _, _) => [] := rfl

/-- What a tag leads to is told between its being gone through and its being left. -/
theorem events_through (gate : Gate) (target : Handle) (account : Account α) (world : World) :
    (account.through gate target).events world =
      .entered gate target :: account.events world ++
        match (account.run world).1 with
        | .ok _ => [.left gate]
        | .error _ => [] := rfl

/-- What is done for each element of a list does not depend on what is told. -/
theorem run_forEach (account : Nat → β → Account Unit) (index : Nat) (items : List β) :
    (forEach account index items).run =
      Run.forEach (fun index item => (account index item).run) index items := by
  induction items generalizing index with
  | nil => rfl
  | cons item rest inductionHypothesis =>
    simp only [forEach, Run.forEach, run_bind, inductionHypothesis]

/-- Nor does what is done for each index. -/
theorem run_forIndices (account : Nat → Account Unit) (index remaining : Nat) :
    (forIndices account index remaining).run =
      Run.forIndices (fun index => (account index).run) index remaining := by
  induction remaining generalizing index with
  | zero => rfl
  | succ remaining inductionHypothesis =>
    simp only [forIndices, Run.forIndices, run_bind, inductionHypothesis]

/-- Nor what a loop does. -/
theorem run_eachItem (name : String) (items : List Value) (body : Account Unit) :
    (Account.eachItem name items body).run = Stencil.eachItem name items body.run := by
  simp only [Account.eachItem, Stencil.eachItem, run_bind, run_forEach]
  rfl

/-- Nor what a range loop does. -/
theorem run_eachNumber (name : String) (numbers : Progression) (body : Account Unit) :
    (Account.eachNumber name numbers body).run = Stencil.eachNumber name numbers body.run := by
  simp only [Account.eachNumber, Stencil.eachNumber, run_bind, run_forIndices]
  rfl

/-- Nor what is done for a pattern. -/
theorem run_eachMarker (name : String) (items : List Value) (body : Account Unit)
    (parts : List PatternPart) :
    (Account.eachMarker name items body parts).run =
      Stencil.eachMarker name items body.run parts := by
  induction parts with
  | nil => rfl
  | cons part rest inductionHypothesis =>
    cases part with
    | text content =>
      simp only [Account.eachMarker, Stencil.eachMarker, run_bind, inductionHypothesis]
      rfl
    | marker number =>
      simp only [Account.eachMarker, Stencil.eachMarker]
      cases items[number]? with
      | none => exact inductionHypothesis
      | some item =>
        simp only [run_bind, inductionHypothesis]
        rfl

/-- Nor what is done for a tree. -/
theorem run_eachNode (below : List Value → Account Unit) (body : Account Unit)
    (nodes : List Value) :
    (Account.eachNode below body nodes).run =
      Stencil.eachNode (fun nodes => (below nodes).run) body.run nodes := by
  induction nodes with
  | nil => rfl
  | cons node rest inductionHypothesis =>
    rw [eachNode_cons]
    simp only [Account.eachNode, run_bind, inductionHypothesis]
    rfl

end Account

section Tags

variable {narrate : Narration} {expand : Expansion}
  (same : ∀ station goal, (narrate station goal).run = expand station goal)
include same

/-- A region does what it does without a chronicle. -/
theorem Station.run_withinTold (station : Station) (region : Region) (statements : List Stmt)
    {told : Station → Account Unit} {body : Station → Run Unit}
    (sameBody : ∀ inner, (told inner).run = body inner) :
    (station.withinTold narrate region statements told).run =
      station.within expand region statements body := by
  cases region with
  | binding bindings =>
    simp only [withinTold, within, run_bind, ← sameBody]
    rfl
  | spaceless =>
    simp only [withinTold, within, ← sameBody]
    rfl
  | tree nodes =>
    simp only [withinTold, within, run_bind, same]
    rfl
  | markers name items pattern =>
    simp only [withinTold, within, run_bind, run_eachMarker, sameBody]
    rfl
  | message =>
    simp only [withinTold, within, ← sameBody]
    rfl
  | range name first last down step =>
    simp only [withinTold, within, run_bind]
    cases step <;>
    · simp only [run_bind, run_eachNumber, sameBody]
      rfl
  | tabbing =>
    simp only [withinTold, within]
    split
    · exact sameBody station
    · rw [← sameBody]
      rfl

/-- So does a tag that asks for a template to extend. -/
theorem Station.run_inheritTold (station : Station) (target : Expr) (span : Span) :
    (station.inheritTold narrate target span).run = station.inherit expand target span := by
  have whole : ∀ inner, (narrate inner .whole).run = expand inner .whole :=
    fun inner => same inner .whole
  simp only [inherit, ← whole]
  rfl

/-- And one that asks for a template in its place. -/
theorem Station.run_insertTold (station : Station) (target : Expr) (bindings : List Binding)
    (span : Span) :
    (station.insertTold narrate target bindings span).run =
      station.insert expand target bindings span := by
  have whole : ∀ inner, (narrate inner .whole).run = expand inner .whole :=
    fun inner => same inner .whole
  simp only [insert, ← whole]
  rfl

/-- And one that asks for a file. -/
theorem Station.run_createTold (station : Station) (target template : Expr) (span : Span) :
    (station.createTold narrate target template span).run =
      station.create expand target template span := by
  have whole : ∀ inner, (narrate inner .whole).run = expand inner .whole :=
    fun inner => same inner .whole
  rw [create_eq]
  simp only [← whole, createTold, run_bind]
  congr 1
  funext target
  congr 1
  funext name
  congr 1
  funext directory
  cases directory <;> rfl

end Tags

section Statements

variable {narrate : Narration} {expand : Expansion}

mutual

/-- So does every statement. -/
theorem Stmt.run_executeTold
    (same : ∀ station goal, (narrate station goal).run = expand station goal)
    (statement : Stmt) (station : Station) :
    (statement.executeTold narrate station).run = statement.execute expand station := by
  cases statement with
  | branch condition yes no =>
    simp only [Stmt.executeTold, Stmt.execute, beginning, run_bind]
    congr 1
    funext value
    rw [← run_executeAllTold same yes station, ← run_executeAllTold same no station]
    split <;> rfl
  | each loop body empty =>
    simp only [Stmt.executeTold, Stmt.execute, beginning, run_bind]
    congr 1
    funext value
    rw [← run_executeAllTold same empty station, ← run_executeAllTold same body station,
      ← Account.run_eachItem]
    split <;> rfl
  | within region body =>
    exact station.run_withinTold same region body fun inner => run_executeAllTold same body inner
  | block name => exact same station (.reference name)
  | inherit target span => exact station.run_inheritTold same target span
  | insert target bindings span => exact station.run_insertTold same target bindings span
  | create target template span => exact station.run_createTold same target template span
  | text content => rfl
  | output value => rfl
  | cycle number first others => rfl
  | assign binding => rfl
termination_by structural statement

/-- So do all statements. -/
theorem run_executeAllTold
    (same : ∀ station goal, (narrate station goal).run = expand station goal)
    (statements : List Stmt) (station : Station) :
    (executeAllTold narrate station statements).run = executeAll expand station statements := by
  cases statements with
  | nil => rfl
  | cons statement rest =>
    simp only [executeAllTold, executeAll, run_bind]
    rw [statement.run_executeTold same station, run_executeAllTold same rest station]
termination_by structural statements

end

variable (same : ∀ station goal, (narrate station goal).run = expand station goal)
include same

/-- So does a definition of a block, with the next one rendered before it. -/
theorem Station.run_renderBlockTold (station : Station) (name : String)
    (definitions : List Handle) :
    (station.renderBlockTold narrate name definitions).run =
      station.renderBlock expand name definitions := by
  have rendersOver : ∀ definition body parent,
      (station.renderOverTold narrate definition body parent).run =
        station.renderOver expand definition body parent := by
    intro definition body parent
    simp only [renderOver, ← run_executeAllTold same]
    rfl
  cases definitions with
  | nil => rfl
  | cons definition others =>
    simp only [renderBlockTold, renderBlock]
    cases definition.template.block? name with
    | none => rfl
    | some body =>
      cases others with
      | nil => exact rendersOver definition body .none
      | cons next rest =>
        simp only [run_bind, rendersOver, ← same]
        rfl

/-- So does all that a goal asks for. -/
theorem Station.run_pursueTold (station : Station) (goal : Goal) :
    (station.pursueTold narrate goal).run = station.pursue expand goal := by
  cases goal with
  | whole => exact run_executeAllTold same _ station
  | reference name => exact station.run_renderBlockTold same name _
  | block name definitions => exact station.run_renderBlockTold same name definitions
  | tree nodes body =>
    simp only [pursueTold, pursue, run_eachNode, same, run_executeAllTold same]

end Statements

/-- Expanding a goal with a chronicle does what expanding it does. -/
theorem run_expandTold (depth : Nat) (station : Station) (goal : Goal) :
    (expandTold depth station goal).run = expand depth station goal := by
  induction depth generalizing station goal with
  | zero => rfl
  | succ depth inductionHypothesis => exact station.run_pursueTold inductionHypothesis goal

end Stencil
