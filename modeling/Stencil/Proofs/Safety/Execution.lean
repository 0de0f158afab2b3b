import Mathlib
import Stencil.Proofs.Logic
import Stencil.Proofs.Safety.Evaluation
import Stencil.Proofs.Safety.WellFormed

/-!
# Statements with guards

Statements can be executed with all guarded that could go wrong: names, texts and the places of
tags are cut out of the source of the template, lists are asked for their elements one by one, a
block is looked for by its index in the registry, and the item of a cycle by the remainder of a
division. What a mishap is reported as is left open. Statements of well-formed templates do the
same with their guards as without.
-/

namespace Stencil

namespace Template

variable (template : Template)

/-- Cuts a text out of the source. -/
def cut (text : String) : Except Mishap String := Lexeme.cutOut template.source text

/-- The block with an index. -/
def blockAt (id : Nat) : Except Mishap (String × List Stmt) :=
  match template.blocks[id]? with
  | some block => .ok block
  | none => .error .noBlock

/-- The name of the block that is referred to. -/
def referred (name : String) : Except Mishap String :=
  match template.registry.get? name with
  | some id => Prod.fst <$> template.blockAt id
  | none => .error .noBlock

/-- The body that the template defines for a named block, at the index that the registry has. -/
def blockGuarded (name : String) : Except Mishap (Option (List Stmt)) :=
  match template.registry.get? name with
  | some id => (fun block => some block.2) <$> template.blockAt id
  | none => .ok none

end Template

namespace Run

variable {α : Type} (report : Mishap → Halt)

/-- Comes to the result of an operation, or halts with what is reported of its mishap. -/
def checked (result : Except Mishap α) : Run α := fun world => (result.mapError report, world)

/-- An operation that went well gives its value. -/
@[simp] theorem checked_ok (value : α) : checked report (.ok value) = pure value := rfl

/-- The value of an expression in a template. -/
def evaluateGuarded (template : Template) (expression : Expr) : Run Value := fun world =>
  let done := expression.evaluateGuarded template.cut world.catalogue.filters world.context
    world.host
  (done.1.mapError report, { world with host := done.2 })

/-- The text of the value of an expression. -/
def evaluateTextGuarded (template : Template) (expression : Expr) : Run String := do
  let value ← evaluateGuarded report template expression
  checked report value.writtenGuarded

/-- The elements of the value of an expression. -/
def elementsGuarded (template : Template) (expression : Expr) : Run (List Value) := do
  let value ← evaluateGuarded report template expression
  checked report value.elementsGuarded

/-- The scope that some bindings make. -/
def scopeOfGuarded (template : Template) (bindings : List Binding) : Run (Named Value) := do
  let pairs ← bindings.mapM fun binding => do
    let name ← checked report (template.cut binding.name)
    return (name, ← evaluateGuarded report template binding.value)
  return Named.ofPairs pairs

end Run

open Run

variable (report : Mishap → Halt)

namespace Station

variable (station : Station)

/-- Writes a value. -/
def emitGuarded (value : Value) : Run Unit := do
  checked report value.visit
  station.emit value

/-- The templates that define a block, each asked for it. -/
def definitionsGuarded (name : String) : Except Mishap (List Handle) := do
  let asked ← station.derived.mapM fun handle => do
    return (handle, (← handle.template.blockGuarded name).isSome)
  let defining := (asked.filter fun pair => pair.2).map Prod.fst
  if defining.any fun handle => handle.serial = station.handle.serial then return defining
  else return defining ++ [station.handle]

variable (expand : Expansion)

/-- Renders the template that this one extends. -/
def inheritGuarded (target : Expr) (span : Span) : Run Unit := do
  let name ← evaluateTextGuarded report station.template target
  let _ ← checked report (span.cut station.template.source)
  let handle ← station.load span name
  releasing handle do
    let inner ← station.enter span
    expand (inner.into handle (station.derived ++ [station.handle])) .whole

/-- Renders another template in the place of the tag. -/
def insertGuarded (target : Expr) (bindings : List Binding) (span : Span) : Run Unit := do
  let name ← evaluateTextGuarded report station.template target
  let scope ← scopeOfGuarded report station.template bindings
  let _ ← checked report (span.cut station.template.source)
  let handle ← station.load span name
  releasing handle do
    let inner ← station.enter span
    inScope scope (expand (inner.into handle []) .whole)

/-- Renders another template into a file. -/
def createGuarded (target template : Expr) (span : Span) : Run Unit := do
  let target ← evaluateTextGuarded report station.template target
  let name ← evaluateTextGuarded report station.template template
  let _ ← checked report (span.cut station.template.source)
  match (← get).context.outputDirectory with
  | none => fail (station.locate span (.ofCause (.noOutputDirectory target)))
  | some directory =>
    let path := FilePath.join directory (TemplateName.normal target)
    let handle ← station.load span name
    releasing handle do
      let inner ← station.enter span
      let text ← underPolicy (FilePath.extension path)
        (capture (expand (inner.into handle []) .whole))
      station.writeFile span path text

/-- Executes a region whose body is executed by the given function. -/
def withinGuarded (region : Region) (statements : List Stmt) (body : Station → Run Unit) :
    Run Unit := do
  match region with
  | .binding bindings =>
    let scope ← scopeOfGuarded report station.template bindings
    inScope scope (body station)
  | .tree nodes =>
    let items ← elementsGuarded report station.template nodes
    expand station (.tree items statements)
  | .markers name items pattern =>
    let items ← elementsGuarded report station.template items
    let pattern ← evaluateTextGuarded report station.template pattern
    let name ← checked report (station.template.cut name)
    let parts ← checked report (PatternPart.cutParts (pattern.toList.length + 1) pattern)
    eachMarker name items (body station) parts
  | .range name first last down step =>
    let first := (← evaluateGuarded report station.template first).toInteger
    let last := (← evaluateGuarded report station.template last).toInteger
    let step ← match step with
      | some step => pure (← evaluateGuarded report station.template step).toInteger.toInt
      | none => pure 1
    let numbers ← checked report (Progression.betweenDivided first.toInt last.toInt step down)
    let name ← checked report (station.template.cut name)
    eachNumber name numbers (body station)
  | .spaceless | .message | .tabbing => station.within expand region statements body

end Station

mutual

/-- Executes a statement. -/
def Stmt.executeGuarded (expand : Expansion) (station : Station) : Stmt → Run Unit
  | .text content => do
    let content ← checked report (station.template.cut content)
    write content
  | .output value => do
    let value ← evaluateGuarded report station.template value
    station.emitGuarded report value
  | .branch condition yes no => do
    let value ← evaluateGuarded report station.template condition
    if value.truthy then executeAllGuarded expand station yes
    else executeAllGuarded expand station no
  | .each loop body empty => do
    let items ← elementsGuarded report station.template loop.items
    if items.isEmpty then executeAllGuarded expand station empty
    else
      let name ← checked report (station.template.cut loop.name)
      eachItem name (if loop.reversed then items.reverse else items)
        (executeAllGuarded expand station body)
  | .within region body =>
    station.withinGuarded report expand region body fun inner => executeAllGuarded expand inner body
  | .block name => do
    let name ← checked report (station.template.referred name)
    expand station (.reference name)
  | .inherit target span => station.inheritGuarded report expand target span
  | .insert target bindings span => station.insertGuarded report expand target bindings span
  | .create target template span => station.createGuarded report expand target template span
  | .cycle number first others => do
    let turn ← turn ⟨station.handle.serial, number⟩
    let index ← checked report (remainder turn (first :: others).length)
    let chosen ← checked report (elementAt (first :: others) index)
    let value ← evaluateGuarded report station.template chosen
    station.emitGuarded report value
  | .assign binding => do
    let value ← evaluateGuarded report station.template binding.value
    let name ← checked report (station.template.cut binding.name)
    assign name value
termination_by structural statement => statement

/-- Executes statements in order. -/
def executeAllGuarded (expand : Expansion) (station : Station) : List Stmt → Run Unit
  | [] => pure ()
  | statement :: rest => do
    statement.executeGuarded expand station
    executeAllGuarded expand station rest
termination_by structural statements => statements

end

section Agreement

variable {template : Template} {part : Stmt}

namespace Template.WellFormed

/-- The texts of a part can be cut out of the source. -/
theorem cut_text (wellFormed : template.WellFormed) (isPart : part ∈ template.parts) :
    ∀ text ∈ part.content.texts, template.cut text = .ok text :=
  fun text isText => wellFormed.shown text
    (List.mem_append_left _ (List.mem_flatMap.mpr ⟨part, isPart, isText⟩))

/-- So can all that its expressions mention. -/
theorem cut_mentions (wellFormed : template.WellFormed) (isPart : part ∈ template.parts) :
    ∀ expression ∈ part.content.written, Mention.Cut template.cut expression.mentions := by
  intro expression isWritten mention isMention text isText
  refine wellFormed.shown text
    (List.mem_append_right _ (List.mem_flatMap.mpr ⟨mention, ?_, isText⟩))
  exact List.mem_flatMap.mpr
    ⟨part, isPart, mem_mentionsAll.mpr ⟨expression, isWritten, isMention⟩⟩

/-- So can the tag that keeps its place. -/
theorem cut_span (wellFormed : template.WellFormed) (isPart : part ∈ template.parts) {span : Span}
    (keeps : part.span? = some span) :
    span.cut template.source = .ok (span.text template.source.toList) :=
  wellFormed.inBounds span
    (wellFormed.placed span (List.mem_filterMap.mpr ⟨part, isPart, keeps⟩))

/-- The registry leads to a block of the name. -/
theorem blockAt_of_registry (wellFormed : template.WellFormed) {name : String} {id : Nat}
    (found : template.registry.get? name = some id) :
    ∃ block, template.blockAt id = .ok block ∧ block.1 = name ∧
      template.block? name = some block.2 := by
  obtain ⟨block, isBlock, rfl⟩ :=
    Option.map_eq_some_iff.mp ((wellFormed.registered name id).mp found)
  refine ⟨block, by rw [Template.blockAt, isBlock], rfl, ?_⟩
  exact lookup_of_nodup wellFormed.distinct (List.mem_of_getElem? isBlock)

/-- The block that is referred to is found. -/
theorem referred_eq (wellFormed : template.WellFormed) {name : String}
    (isPart : .block name ∈ template.parts) : template.referred name = .ok name := by
  have referred : template.registry.get? name ∈ template.references :=
    List.mem_map_of_mem (List.mem_filterMap.mpr ⟨.block name, isPart, rfl⟩)
  obtain ⟨id, _, found⟩ := List.mem_map.mp (wellFormed.referenced.subset referred)
  obtain ⟨block, isAt, isName, _⟩ := wellFormed.blockAt_of_registry found.symm
  rw [Template.referred, ← found]
  simp only [isAt]
  exact congrArg Except.ok isName

/-- The body of a block is found by its index. -/
theorem blockGuarded_eq (wellFormed : template.WellFormed) (name : String) :
    template.blockGuarded name = .ok (template.block? name) := by
  rw [Template.blockGuarded]
  cases found : template.registry.get? name with
  | some id =>
    obtain ⟨block, isAt, _, isBody⟩ := wellFormed.blockAt_of_registry found
    simp only [isAt, isBody]
    rfl
  | none =>
    cases defined : template.block? name with
    | none => rfl
    | some body =>
      obtain ⟨id, isBlock⟩ := List.mem_iff_getElem?.mp (Template.mem_blocks defined)
      have named := (wellFormed.registered name id).mpr (by rw [isBlock]; rfl)
      rw [found] at named
      cases named

end Template.WellFormed

section Primitives

variable {report}

/-- The value of an expression is the same if all that it mentions can be cut. -/
theorem Run.evaluateGuarded_eq {expression : Expr}
    (cuts : Mention.Cut template.cut expression.mentions) :
    evaluateGuarded report template expression = evaluate expression := by
  funext world
  rw [evaluateGuarded, expression.evaluateGuarded_eq cuts]
  rfl

/-- So is its text. -/
theorem Run.evaluateTextGuarded_eq {expression : Expr}
    (cuts : Mention.Cut template.cut expression.mentions) :
    evaluateTextGuarded report template expression = evaluateText expression := by
  rw [evaluateTextGuarded, evaluateGuarded_eq cuts]
  simp only [Value.writtenGuarded_eq, checked_ok]
  rfl

/-- So are its elements. -/
theorem Run.elementsGuarded_eq {expression : Expr}
    (cuts : Mention.Cut template.cut expression.mentions) :
    elementsGuarded report template expression =
      (do return (← evaluate expression).elements) := by
  rw [elementsGuarded, evaluateGuarded_eq cuts]
  simp only [Value.elementsGuarded_eq, checked_ok]

/-- So is the scope that bindings make. -/
theorem Run.scopeOfGuarded_eq {bindings : List Binding}
    (names : ∀ binding ∈ bindings, template.cut binding.name = .ok binding.name)
    (cuts : ∀ binding ∈ bindings, Mention.Cut template.cut binding.value.mentions) :
    scopeOfGuarded report template bindings = scopeOf bindings := by
  have pairs : (bindings.mapM fun binding => do
      let name ← checked report (template.cut binding.name)
      return (name, ← evaluateGuarded report template binding.value)) =
      bindings.mapM fun binding => do return (binding.name, ← evaluate binding.value) := by
    induction bindings with
    | nil => rfl
    | cons binding rest inductionHypothesis =>
      obtain ⟨name, otherNames⟩ := List.forall_mem_cons.mp names
      obtain ⟨cut, otherCuts⟩ := List.forall_mem_cons.mp cuts
      rw [List.mapM_cons, List.mapM_cons, inductionHypothesis otherNames otherCuts, name,
        evaluateGuarded_eq cut]
      rfl
  rw [scopeOfGuarded, pairs, scopeOf]

/-- A pattern is cut into parts that do the same. -/
theorem Run.eachMarker_cutParts (name : String) (items : List Value) (body : Run Unit)
    (pattern : String) :
    (do
      let parts ← checked report (PatternPart.cutParts (pattern.toList.length + 1) pattern)
      eachMarker name items body parts) =
      eachMarker name items body (PatternPart.parts pattern.toList) := by
  obtain ⟨parts, cut, alike⟩ := PatternPart.cutParts_alike (Nat.lt_succ_self pattern.toList.length)
  rw [String.ofList_toList] at cut
  rw [cut]
  exact alike name items body

/-- A value is written as it is. -/
theorem Station.emitGuarded_eq (station : Station) (value : Value) :
    station.emitGuarded report value = station.emit value := by
  rw [emitGuarded, value.visit_eq]
  rfl

/-- The definitions of a block are the same if all templates are well formed. -/
theorem Station.definitionsGuarded_eq {station : Station} (name : String)
    (wellFormed : ∀ handle ∈ station.derived, handle.template.WellFormed) :
    station.definitionsGuarded name = .ok (station.definitions name) := by
  have asked : (station.derived.mapM fun handle => do
      return (handle, (← handle.template.blockGuarded name).isSome) :
        Except Mishap (List (Handle × Bool))) =
      .ok (station.derived.map fun handle => (handle, (handle.template.block? name).isSome)) := by
    apply mapM_ok
    intro handle member
    rw [(wellFormed handle member).blockGuarded_eq]
    rfl
  have defining : ((station.derived.map fun handle =>
      (handle, (handle.template.block? name).isSome)).filter fun pair => pair.2).map Prod.fst =
        station.derived.filter fun handle => (handle.template.block? name).isSome := by
    rw [List.filter_map, List.map_map]
    exact List.map_id _
  simp only [definitionsGuarded, asked, bind_ok, defining, definitions]
  split <;> rfl

end Primitives

section Tags

variable {report} {station : Station} {expand : Expansion}
  (wellFormed : station.template.WellFormed)

include wellFormed

/-- The bindings of a part make the same scope. -/
theorem Template.WellFormed.scopeOf_eq {bindings : List Binding} (expressions : List Expr)
    (isPart : part ∈ station.template.parts)
    (names : part.content.texts = bindings.map (·.name))
    (written : part.content.written = expressions ++ bindings.map (·.value)) :
    scopeOfGuarded report station.template bindings = scopeOf bindings := by
  apply Run.scopeOfGuarded_eq
  · intro binding member
    refine wellFormed.cut_text isPart _ ?_
    rw [names]
    exact List.mem_map_of_mem member
  · intro binding member
    refine wellFormed.cut_mentions isPart _ ?_
    rw [written]
    exact List.mem_append_right _ (List.mem_map_of_mem member)

/-- A tag that extends a template does the same. -/
theorem Station.inheritGuarded_eq {target : Expr} {span : Span}
    (isPart : .inherit target span ∈ station.template.parts) :
    station.inheritGuarded report expand target span = station.inherit expand target span := by
  have text : Mention.Cut station.template.cut target.mentions :=
    wellFormed.cut_mentions isPart target (List.mem_singleton_self target)
  rw [inheritGuarded, evaluateTextGuarded_eq text, wellFormed.cut_span isPart rfl]
  rfl

/-- So does one that inserts a template. -/
theorem Station.insertGuarded_eq {target : Expr} {bindings : List Binding} {span : Span}
    (isPart : .insert target bindings span ∈ station.template.parts) :
    station.insertGuarded report expand target bindings span =
      station.insert expand target bindings span := by
  have text : Mention.Cut station.template.cut target.mentions :=
    wellFormed.cut_mentions isPart target List.mem_cons_self
  have scope : scopeOfGuarded report station.template bindings = scopeOf bindings :=
    wellFormed.scopeOf_eq [target] isPart rfl rfl
  rw [insertGuarded, evaluateTextGuarded_eq text, scope, wellFormed.cut_span isPart rfl]
  rfl

/-- So does one that creates a file. -/
theorem Station.createGuarded_eq {target template : Expr} {span : Span}
    (isPart : .create target template span ∈ station.template.parts) :
    station.createGuarded report expand target template span =
      station.create expand target template span := by
  have cuts := wellFormed.cut_mentions isPart
  have text : Mention.Cut station.template.cut target.mentions := cuts target List.mem_cons_self
  have other : Mention.Cut station.template.cut template.mentions :=
    cuts template (List.mem_cons_of_mem _ List.mem_cons_self)
  rw [createGuarded, evaluateTextGuarded_eq text, evaluateTextGuarded_eq other,
    wellFormed.cut_span isPart rfl]
  rfl

/-- So does a region, if its body does wherever the region executes it. -/
theorem Station.withinGuarded_eq {region : Region} {statements : List Stmt}
    {guarded body : Station → Run Unit}
    (isPart : .within region statements ∈ station.template.parts)
    (same : ∀ inner : Station, inner.template = station.template → guarded inner = body inner) :
    station.withinGuarded report expand region statements guarded =
      station.within expand region statements body := by
  have here : guarded station = body station := same station rfl
  have cuts := wellFormed.cut_mentions isPart
  have texts := wellFormed.cut_text isPart
  cases region with
  | binding bindings =>
    have scope : scopeOfGuarded report station.template bindings = scopeOf bindings :=
      wellFormed.scopeOf_eq [] isPart rfl rfl
    rw [withinGuarded, scope, here]
    rfl
  | spaceless =>
    rw [withinGuarded, within, within, here]
  | tree nodes =>
    rw [withinGuarded, elementsGuarded_eq (cuts nodes List.mem_cons_self)]
    rfl
  | markers name items pattern =>
    have listed : Mention.Cut station.template.cut items.mentions := cuts items List.mem_cons_self
    have text : Mention.Cut station.template.cut pattern.mentions :=
      cuts pattern (List.mem_cons_of_mem _ List.mem_cons_self)
    have named : station.template.cut name = .ok name := texts name List.mem_cons_self
    rw [withinGuarded, elementsGuarded_eq listed, evaluateTextGuarded_eq text, named, here]
    simp only [checked_ok, pure_bind, eachMarker_cutParts, bind_assoc]
    rfl
  | message =>
    rw [withinGuarded, within, within, same { station with escaping := false } rfl]
  | range name first last down step =>
    have begins : Mention.Cut station.template.cut first.mentions := cuts first List.mem_cons_self
    have ends : Mention.Cut station.template.cut last.mentions :=
      cuts last (List.mem_cons_of_mem _ List.mem_cons_self)
    have named : station.template.cut name = .ok name := texts name List.mem_cons_self
    rw [withinGuarded, evaluateGuarded_eq begins, evaluateGuarded_eq ends, named, here]
    cases step with
    | none =>
      simp only [Progression.betweenDivided_eq, checked_ok, pure_bind]
      rfl
    | some step =>
      have strides : Mention.Cut station.template.cut step.mentions :=
        cuts step (List.mem_cons_of_mem _ (List.mem_cons_of_mem _ List.mem_cons_self))
      simp only [evaluateGuarded_eq strides, Progression.betweenDivided_eq, checked_ok, pure_bind]
      rfl
  | tabbing =>
    rw [withinGuarded, within, within, here, same { station with tabbing := true } rfl]

end Tags

section Statements

variable {report}

mutual

/-- A statement of a well-formed template does the same with its guards. -/
theorem Stmt.executeGuarded_eq {expand : Expansion} {station : Station}
    (wellFormed : station.template.WellFormed) (statement : Stmt)
    (among : statement :: statement.contained ⊆ station.template.parts) :
    statement.executeGuarded report expand station = statement.execute expand station := by
  obtain ⟨isPart, inside⟩ := List.cons_subset.mp among
  have cuts := wellFormed.cut_mentions isPart
  have texts := wellFormed.cut_text isPart
  cases statement with
  | text content =>
    rw [Stmt.executeGuarded, texts content List.mem_cons_self]
    rfl
  | output value =>
    rw [Stmt.executeGuarded, evaluateGuarded_eq (cuts value List.mem_cons_self)]
    simp only [Station.emitGuarded_eq]
    rfl
  | branch condition yes no =>
    obtain ⟨yesInside, noInside⟩ := List.append_subset.mp inside
    rw [Stmt.executeGuarded, evaluateGuarded_eq (cuts condition List.mem_cons_self),
      executeAllGuarded_eq wellFormed yes yesInside, executeAllGuarded_eq wellFormed no noInside]
    rfl
  | each loop body empty =>
    obtain ⟨bodyInside, emptyInside⟩ := List.append_subset.mp inside
    rw [Stmt.executeGuarded, elementsGuarded_eq (cuts loop.items List.mem_cons_self),
      executeAllGuarded_eq wellFormed body bodyInside,
      executeAllGuarded_eq wellFormed empty emptyInside, texts loop.name List.mem_cons_self]
    rfl
  | within region body =>
    rw [Stmt.executeGuarded, Stmt.execute]
    apply Station.withinGuarded_eq wellFormed isPart
    intro inner same
    exact executeAllGuarded_eq (same ▸ wellFormed) body (same ▸ inside)
  | block name =>
    rw [Stmt.executeGuarded, wellFormed.referred_eq isPart]
    rfl
  | inherit target span => exact Station.inheritGuarded_eq wellFormed isPart
  | insert target bindings span => exact Station.insertGuarded_eq wellFormed isPart
  | create target template span => exact Station.createGuarded_eq wellFormed isPart
  | cycle number first others =>
    rw [Stmt.executeGuarded, Stmt.execute]
    congr 1
    funext turn
    have below : turn % (first :: others).length < (first :: others).length :=
      Nat.mod_lt _ (Nat.succ_pos _)
    have divided : remainder turn (first :: others).length =
        .ok (turn % (first :: others).length) := by
      rw [remainder, if_neg (by simp)]
    have chosen := List.getElem?_eq_getElem below
    rw [divided, checked_ok, pure_bind, elementAt, chosen, checked_ok, pure_bind,
      evaluateGuarded_eq (cuts _ (List.getElem_mem below))]
    simp only [Station.emitGuarded_eq]
    rw [← List.length_cons, chosen, Option.getD_some]
  | assign binding =>
    rw [Stmt.executeGuarded, evaluateGuarded_eq (cuts binding.value List.mem_cons_self),
      texts binding.name List.mem_cons_self]
    rfl
termination_by structural statement

/-- So do statements in order. -/
theorem executeAllGuarded_eq {expand : Expansion} {station : Station}
    (wellFormed : station.template.WellFormed) (statements : List Stmt)
    (among : partsAll statements ⊆ station.template.parts) :
    executeAllGuarded report expand station statements = executeAll expand station statements := by
  cases statements with
  | nil => rfl
  | cons statement rest =>
    rw [partsAll, ← List.cons_append] at among
    obtain ⟨here, later⟩ := List.append_subset.mp among
    rw [executeAllGuarded, Stmt.executeGuarded_eq wellFormed statement here,
      executeAllGuarded_eq wellFormed rest later]
    rfl
termination_by structural statements

end

end Statements

end Agreement

end Stencil
