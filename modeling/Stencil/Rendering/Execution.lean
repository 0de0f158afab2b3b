import Stencil.Rendering.Pattern
import Stencil.Rendering.Progression
import Stencil.Rendering.World

/-!
# Executing statements

Statements are executed where a rendering stands: in a template, with the
templates that extend it, behind the tags that led there. Execution follows the
statements of one template by structural recursion. What leads out of them, to
another template, to the body of a named block or down a tree, is a goal, and is
left to the function that expands goals; how deep goals may lie inside one another
is a number that counts down.
-/

namespace Stencil

/-- Where a rendering stands: the template, those that extend it, most derived
first, and the tags that led there, outermost first; whether values are escaped,
and whether tabbing is on. -/
structure Station where
  handle : Handle
  derived : List Handle
  sites : List Site
  escaping : Bool
  tabbing : Bool

namespace Station

/-- The start of a rendering. -/
def start (handle : Handle) : Station := ⟨handle, [], [], true, false⟩

/-- The template. -/
def template (station : Station) : Template := station.handle.template

/-- The tag at a span of the template. -/
def site (station : Station) (span : Span) : Site :=
  ⟨station.template.title, station.template.line span⟩

/-- A fault with the tag it struck at. -/
def locate (station : Station) (span : Span) (fault : Fault) : Fault :=
  ((fault.inTemplate station.template.name).pointingAt station.template.source span).through
    station.sites

/-- Where a fault struck does not change its cause. -/
@[simp] theorem cause_locate (station : Station) (span : Span) (fault : Fault) :
    (station.locate span fault).cause = fault.cause := by
  simp [locate]

/-- The templates that define a block, most derived first. The template that the
rendering stands in counts as the last of them. -/
def definitions (station : Station) (name : String) : List Handle :=
  let defining := station.derived.filter fun handle => (handle.template.block? name).isSome
  if defining.any fun handle => handle.serial = station.handle.serial then defining
  else defining ++ [station.handle]

/-- A definition of a block belongs to a template that extends this one, or to this
one itself. -/
theorem mem_definitions {station : Station} {name : String} {definition : Handle}
    (member : definition ∈ station.definitions name) :
    definition ∈ station.derived ∨ definition = station.handle := by
  simp only [definitions] at member
  split at member
  · exact Or.inl (List.mem_filter.mp member).1
  · rcases List.mem_append.mp member with defining | isOwn
    · exact Or.inl (List.mem_filter.mp defining).1
    · exact Or.inr (by simpa using isOwn)

/-- The start of a template that a tag leads to. -/
def into (station : Station) (handle : Handle) (derived : List Handle) : Station :=
  { station with handle := handle, derived := derived }

end Station

/-- What lies outside of the statements at hand: a whole template, a block that is
referred to, the first of the given definitions of a block, or the nodes of a tree
with the body to be executed for each of them. -/
inductive Goal where
  | whole
  | reference (name : String)
  | block (name : String) (definitions : List Handle)
  | tree (nodes : List Value) (body : List Stmt)

/-- A way to expand goals. -/
abbrev Expansion := Station → Goal → Run Unit

/-- Writes a value, escaped unless it is raw or nothing is escaped. -/
def Station.emit (station : Station) (value : Value) : Run Unit := do
  if value.raw || !station.escaping then Run.write value.written
  else Run.write (← Run.escape value.written)

/-- Loads the template that a tag asks for. A template that there is not is a
fault of the tag; one that is flawed, or cannot be read, is a fault of its own
that was reached through the tag. -/
def Station.load (station : Station) (span : Span) (name : String) : Run Handle := do
  let world ← get
  match world.catalogue.load world.host.files name (some (station.template.line span)) with
  | .ok loaded =>
    set { world with catalogue := loaded.catalogue }
    Run.note loaded.record
    return loaded.handle
  | .error fault =>
    Run.fail (match fault.cause.kind with
      | .resolution => station.locate span fault
      | _ => fault.through (station.sites ++ [station.site span]))

/-- Goes through a tag, unless it lies too deep. -/
def Station.enter (station : Station) (span : Span) : Run Station := do
  let limit := (← get).catalogue.depthLimit
  if station.sites.length < limit then
    return { station with sites := station.sites ++ [station.site span] }
  else Run.fail (station.locate span (.ofCause (.tooDeep limit)))

/-- Renders the template that this one extends, with this one as the least of
those that extend it. -/
def Station.inherit (station : Station) (expand : Expansion) (target : Expr) (span : Span) :
    Run Unit := do
  let name ← Run.evaluateText target
  let handle ← station.load span name
  Run.releasing handle do
    let inner ← station.enter span
    expand (inner.into handle (station.derived ++ [station.handle])) .whole

/-- Renders another template in the place of the tag, in a scope of its own. -/
def Station.insert (station : Station) (expand : Expansion) (target : Expr)
    (bindings : List Binding) (span : Span) : Run Unit := do
  let name ← Run.evaluateText target
  let scope ← Run.scopeOf bindings
  let handle ← station.load span name
  Run.releasing handle do
    let inner ← station.enter span
    Run.inScope scope (expand (inner.into handle []) .whole)

/-- Writes a file below the output directory. -/
def Station.writeFile (station : Station) (span : Span) (path text : String) : Run Unit := do
  let world ← get
  let (created, files) := world.host.files.create path text.toUTF8
  set { world with host := { world.host with files := files } }
  match created with
  | .ok () => Run.note (.created path)
  | .error cause => Run.fail (station.locate span (.ofCause cause))

/-- Renders another template into a file, under the policy of its extension. -/
def Station.create (station : Station) (expand : Expansion) (target template : Expr)
    (span : Span) : Run Unit := do
  let target ← Run.evaluateText target
  let name ← Run.evaluateText template
  match (← get).context.outputDirectory with
  | none => Run.fail (station.locate span (.ofCause (.noOutputDirectory target)))
  | some directory =>
    let path := FilePath.join directory (TemplateName.normal target)
    let handle ← station.load span name
    Run.releasing handle do
      let inner ← station.enter span
      let text ← Run.underPolicy (FilePath.extension path)
        (Run.capture (expand (inner.into handle []) .whole))
      station.writeFile span path text

/-- Executes the body of a loop once for each item, with the item and what the
loop tells its body in a scope of its own. -/
def eachItem (name : String) (items : List Value) (body : Run Unit) : Run Unit := do
  let parent ← Run.lookUp "forloop"
  Run.forEach (fun index item => do
    let loop ← Run.hosted (Host.fresh
      (Value.newRecord (loopEntries index items.length parent)))
    Run.inScope (Named.ofPairs [(name, item), ("forloop", loop)]) body) 0 items

/-- Executes the body of a range loop once for each number. -/
def eachNumber (name : String) (numbers : Progression) (body : Run Unit) : Run Unit := do
  let parent ← Run.lookUp "forloop"
  Run.forIndices (fun index => do
    let loop ← Run.hosted (Host.fresh
      (Value.newRecord (loopEntries index numbers.count parent)))
    let number := Value.integer (Int64.ofInt (numbers.term index))
    Run.inScope (Named.ofPairs [(name, number), ("forloop", loop)]) body) 0 numbers.count

/-- Writes a pattern, and executes the body for the item at the number of each
marker. -/
def eachMarker (name : String) (items : List Value) (body : Run Unit) :
    List PatternPart → Run Unit
  | [] => pure ()
  | .text content :: rest => do
    Run.write (String.ofList content)
    eachMarker name items body rest
  | .marker number :: rest => do
    match items[number]? with
    | some item => Run.inScope [(name, item)] body
    | none => pure ()
    eachMarker name items body rest

/-- Executes the body for each node of a tree, with the text of the nodes below it
as a raw value. The nodes below are those in its field of that name. -/
def eachNode (below : List Value → Run Unit) (body : Run Unit) : List Value → Run Unit
  | [] => pure ()
  | node :: rest => do
    let children ← match node.field? "children" with
      | some value => Run.hosted value.invoked
      | none => pure .none
    let text ← Run.capture (below children.elements)
    Run.inScope (Named.ofPairs [("node", node), ("children", .rawText text)]) body
    eachNode below body rest

/-- Executes a region whose body is executed by the given function. -/
def Station.within (station : Station) (expand : Expansion) (region : Region)
    (statements : List Stmt) (body : Station → Run Unit) : Run Unit := do
  match region with
  | .binding bindings => Run.inScope (← Run.scopeOf bindings) (body station)
  | .spaceless => Run.write (← Run.removeSpace (← Run.capture (body station)))
  | .tree nodes => expand station (.tree (← Run.evaluate nodes).elements statements)
  | .markers name items pattern => do
    let items := (← Run.evaluate items).elements
    let pattern ← Run.evaluateText pattern
    eachMarker name items (body station) (PatternPart.parts pattern.toList)
  | .message => Run.note (.message (← Run.capture (body { station with escaping := false })))
  | .range name first last down step => do
    let first := (← Run.evaluate first).toInteger
    let last := (← Run.evaluate last).toInteger
    let step ← match step with
      | some step => pure (← Run.evaluate step).toInteger.toInt
      | none => pure 1
    eachNumber name (.between first.toInt last.toInt step down) (body station)
  | .tabbing =>
    if station.tabbing then body station
    else Run.tabbed (body { station with tabbing := true })

mutual

/-- Executes a statement. -/
def Stmt.execute (expand : Expansion) (station : Station) : Stmt → Run Unit
  | .text content => Run.write content
  | .output value => do station.emit (← Run.evaluate value)
  | .branch condition yes no => do
    if (← Run.evaluate condition).truthy then executeAll expand station yes
    else executeAll expand station no
  | .each loop body empty => do
    let items := (← Run.evaluate loop.items).elements
    if items.isEmpty then executeAll expand station empty
    else
      eachItem loop.name (if loop.reversed then items.reverse else items)
        (executeAll expand station body)
  | .within region body =>
    station.within expand region body fun inner => executeAll expand inner body
  | .block name => expand station (.reference name)
  | .inherit target span => station.inherit expand target span
  | .insert target bindings span => station.insert expand target bindings span
  | .create target template span => station.create expand target template span
  | .cycle number first others => do
    let turn ← Run.turn ⟨station.handle.serial, number⟩
    let chosen := (first :: others)[turn % (others.length + 1)]?.getD first
    station.emit (← Run.evaluate chosen)
  | .assign binding => do Run.assign binding.name (← Run.evaluate binding.value)
termination_by structural statement => statement

/-- Executes statements in order. -/
def executeAll (expand : Expansion) (station : Station) : List Stmt → Run Unit
  | [] => pure ()
  | statement :: rest => do
    statement.execute expand station
    executeAll expand station rest
termination_by structural statements => statements

end

/-- The statements of a template that extends another which are executed: those
that extend and those that set names. -/
def Template.heads (template : Template) : List Stmt :=
  template.body.filter fun
    | .inherit .. | .assign _ => true
    | _ => false

/-- Renders a template. Of one that extends another only the blocks count, apart
from its heads. -/
def Station.renderWhole (station : Station) (expand : Expansion) : Run Unit :=
  executeAll expand station
    (if station.template.inherits then station.template.heads else station.template.body)

/-- Executes the body of a definition of a block. Inside of it the given value is
at hand as what the next definition rendered. -/
def Station.renderOver (station : Station) (expand : Expansion) (definition : Handle)
    (body : List Stmt) (parent : Value) : Run Unit := do
  let block ← Run.hosted (Host.fresh (Value.newRecord [("super", parent)]))
  Run.inScope [("block", block)]
    (executeAll expand { station with handle := definition } body)

/-- Renders the first definition of a block, with the next one rendered before it. -/
def Station.renderBlock (station : Station) (expand : Expansion) (name : String) :
    List Handle → Run Unit
  | [] => pure ()
  | definition :: others =>
    match definition.template.block? name with
    | none => pure ()
    | some body => do
      let parent ← match others with
        | [] => pure Value.none
        | _ => pure (Value.rawText (← Run.capture (expand station (.block name others))))
      station.renderOver expand definition body parent

/-- Does what a goal asks for; goals that lie inside of it are expanded by the given
function. -/
def Station.pursue (station : Station) (expand : Expansion) : Goal → Run Unit
  | .whole => station.renderWhole expand
  | .reference name => station.renderBlock expand name (station.definitions name)
  | .block name definitions => station.renderBlock expand name definitions
  | .tree nodes body =>
    eachNode (fun nodes => expand station (.tree nodes body))
      (executeAll expand station body) nodes

/-- Expands a goal, with at most so many goals inside one another. -/
def expand : Nat → Expansion
  | 0, _, _ => throw .exhausted
  | depth + 1, station, goal => station.pursue (expand depth) goal

end Stencil
