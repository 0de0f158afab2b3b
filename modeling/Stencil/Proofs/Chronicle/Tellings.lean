import Stencil.Proofs.Chronicle
import Stencil.Proofs.Safety.Parts

/-!
# What accounts pass on

Loops are made of sequences, scopes and texts that are caught. What holds of accounts, and is
passed on by these, is passed on by loops. Statements are made of loops, of actions of which
nothing is told, and of goals. So what holds of these, and of the tags that change more, holds of
all statements, and of all that a goal asks for: this is the only induction over statements that
is needed for it.
-/

namespace Stencil

/-- Something that holds of accounts, and that sequences, scopes and texts that are caught pass
on. It holds of what a loop does besides. -/
structure Telling (holds : ∀ {α : Type}, Account α → Prop) : Prop where
  pure : ∀ {α : Type} (value : α), holds (Pure.pure value : Account α)
  bind : ∀ {α β : Type} {first : Account α} {next : α → Account β}, holds first →
    (∀ value, holds (next value)) → holds (first >>= next)
  inScope : ∀ {α : Type} {account : Account α} (scope : Named Value), holds account →
    holds (account.inScope scope)
  capture : ∀ {account : Account Unit}, holds account → holds account.capture
  write : ∀ text, holds (Account.silent (Run.write text))
  record : ∀ entries, holds (Account.silent (Run.hosted (Host.fresh (Value.newRecord entries))))
  enclosing : holds (Account.silent (Run.lookUp "forloop"))
  children : ∀ node : Value, holds (Account.silent node.children)

namespace Telling

variable {holds : ∀ {α : Type}, Account α → Prop} (telling : Telling holds) {β : Type}
include telling

/-- An account for each element of a list. -/
theorem forEach {account : Nat → β → Account Unit} (each : ∀ index item, holds (account index item))
    (index : Nat) (items : List β) : holds (Account.forEach account index items) := by
  induction items generalizing index with
  | nil => exact telling.pure ()
  | cons item rest inductionHypothesis =>
    exact telling.bind (each index item) fun _ => inductionHypothesis (index + 1)

/-- An account for each index. -/
theorem forIndices {account : Nat → Account Unit} (each : ∀ index, holds (account index))
    (index remaining : Nat) : holds (Account.forIndices account index remaining) := by
  induction remaining generalizing index with
  | zero => exact telling.pure ()
  | succ remaining inductionHypothesis =>
    exact telling.bind (each index) fun _ => inductionHypothesis (index + 1)

section Loops

variable {body : Account Unit} (inside : holds body)
include inside

/-- A loop. -/
theorem eachItem (name : String) (items : List Value) :
    holds (Account.eachItem name items body) :=
  telling.bind telling.enclosing fun _ => telling.forEach (fun _ _ =>
    telling.bind (telling.record _) fun _ => telling.inScope _ inside) 0 items

/-- A range loop. -/
theorem eachNumber (name : String) (numbers : Progression) :
    holds (Account.eachNumber name numbers body) :=
  telling.bind telling.enclosing fun _ => telling.forIndices (fun _ =>
    telling.bind (telling.record _) fun _ => telling.inScope _ inside) 0 _

/-- A pattern. -/
theorem eachMarker (name : String) (items : List Value) (parts : List PatternPart) :
    holds (Account.eachMarker name items body parts) := by
  induction parts with
  | nil => exact telling.pure ()
  | cons part rest inductionHypothesis =>
    cases part with
    | text content => exact telling.bind (telling.write _) fun _ => inductionHypothesis
    | marker number =>
      simp only [Account.eachMarker]
      cases items[number]? with
      | none => exact inductionHypothesis
      | some item => exact telling.bind (telling.inScope _ inside) fun _ => inductionHypothesis

/-- A tree. -/
theorem eachNode {below : List Value → Account Unit} (deeper : ∀ nodes, holds (below nodes))
    (nodes : List Value) : holds (Account.eachNode below body nodes) := by
  induction nodes with
  | nil => exact telling.pure ()
  | cons node rest inductionHypothesis =>
    exact telling.bind (telling.children node) fun value =>
      telling.bind (telling.capture (deeper value.elements)) fun _ =>
        telling.bind (telling.inScope _ inside) fun _ => inductionHypothesis

end Loops

end Telling

open Account

/-- Which statements are executed and which goals are pursued at a station: with statements all
that is made of their parts, and with a goal all that it leads to there. -/
structure Admission where
  statements : Station → List Stmt → Prop
  goals : Station → Goal → Prop
  parts : ∀ {station whole body}, statements station whole → partsAll body ⊆ partsAll whole →
    statements station body
  block : ∀ {station name}, statements station [.block name] → goals station (.reference name)
  tree : ∀ {station nodes body}, goals station (.tree nodes body) ↔ statements station body
  whole : ∀ {station}, goals station .whole → statements station station.template.executed
  reference : ∀ {station name}, goals station (.reference name) →
    goals station (.block name (station.definitions name))
  definition : ∀ {station name definition others body},
    goals station (.block name (definition :: others)) →
      definition.template.block? name = some body →
        statements { station with handle := definition } body
  others : ∀ {station name definition others},
    goals station (.block name (definition :: others)) → goals station (.block name others)

/-- All statements and goals, at the stations where something is kept that does not depend on the
template. -/
def Admission.ofStations (admits : Station → Prop)
    (moves : ∀ {station : Station} {definition : Handle}, admits station →
      admits { station with handle := definition }) : Admission where
  statements station _ := admits station
  goals station _ := admits station
  parts admitted _ := admitted
  block := id
  tree := .rfl
  whole := id
  reference := id
  definition admitted _ := moves admitted
  others := id

/-- Something that holds of the goals that are admitted, and of accounts of which nothing is told,
and that is passed on by loops and by tags: by those that lead to a template, by cycle tags, by
messages and by regions with tabbing. -/
structure Narration.Conveys (narrate : Narration) (holds : ∀ {α : Type}, Account α → Prop)
    (admission : Admission) : Prop extends Telling holds where
  evaluate : ∀ expression, holds (silent (Run.evaluate expression))
  evaluateText : ∀ expression, holds (silent (Run.evaluateText expression))
  scopeOf : ∀ bindings, holds (silent (Run.scopeOf bindings))
  emit : ∀ (station : Station) (value : Value), holds (silent (station.emit value))
  shorten : ∀ text, holds (silent (Run.removeSpace text >>= Run.write))
  assign : ∀ name value, holds (silent (Run.assign name value))
  goal : ∀ {station goal}, admission.goals station goal → holds (narrate station goal)
  begins : ∀ {station statement account}, admission.statements station [statement] →
    statement.cycle? = none →
      statement.executeTold narrate station = beginning station statement account →
        holds account → holds (statement.executeTold narrate station)
  inherit : ∀ {station target span}, admission.statements station [.inherit target span] →
    holds ((Stmt.inherit target span).executeTold narrate station)
  insert : ∀ {station target bindings span},
    admission.statements station [.insert target bindings span] →
      holds ((Stmt.insert target bindings span).executeTold narrate station)
  create : ∀ {station target template span},
    admission.statements station [.create target template span] →
      holds ((Stmt.create target template span).executeTold narrate station)
  cycle : ∀ {station number first others},
    admission.statements station [.cycle number first others] →
      holds ((Stmt.cycle number first others).executeTold narrate station)
  message : ∀ {station body}, admission.statements station [.within .message body] →
    (∀ inner, admission.statements inner body → holds (executeAllTold narrate inner body)) →
      holds ((Stmt.within .message body).executeTold narrate station)
  tabbing : ∀ {station body}, admission.statements station [.within .tabbing body] →
    (∀ inner, admission.statements inner body → holds (executeAllTold narrate inner body)) →
      holds ((Stmt.within .tabbing body).executeTold narrate station)

/-- What is inside of a statement is among its parts. -/
theorem partsAll_subset_singleton {statement : Stmt} {body : List Stmt}
    (inside : partsAll body ⊆ statement.contained) : partsAll body ⊆ partsAll [statement] :=
  List.subset_cons_of_subset _ (List.subset_append_of_subset_left _ inside)

namespace Narration.Conveys

variable {narrate : Narration} {holds : ∀ {α : Type}, Account α → Prop} {admission : Admission}

/-- It holds of a region other than a message and one with tabbing, if it holds of the body. -/
theorem within (conveys : narrate.Conveys holds admission) {station : Station} {region : Region}
    {statements : List Stmt} {body : Station → Account Unit} (notMessage : region ≠ .message)
    (notTabbing : region ≠ .tabbing) (admitted : admission.statements station statements)
    (here : holds (body station)) :
    holds (station.withinTold narrate region statements body) := by
  cases region with
  | binding bindings =>
    exact conveys.bind (conveys.scopeOf bindings) fun scope => conveys.inScope scope here
  | spaceless => exact conveys.bind (conveys.capture here) conveys.shorten
  | tree nodes =>
    exact conveys.bind (conveys.evaluate nodes) fun value =>
      conveys.goal (admission.tree.mpr admitted)
  | markers name items pattern =>
    exact conveys.bind (conveys.evaluate items) fun value =>
      conveys.bind (conveys.evaluateText pattern) fun text => conveys.eachMarker here name _ _
  | message => exact absurd rfl notMessage
  | range name first last down step =>
    refine conveys.bind (conveys.evaluate first) fun first => ?_
    refine conveys.bind (conveys.evaluate last) fun last => ?_
    cases step with
    | none => exact conveys.bind (conveys.pure _) fun step => conveys.eachNumber here name _
    | some step =>
      exact conveys.bind (conveys.evaluate step) fun step =>
        conveys.bind (conveys.pure _) fun step => conveys.eachNumber here name _
  | tabbing => exact absurd rfl notTabbing

mutual

/-- It holds of every statement that is admitted. -/
theorem execute (conveys : narrate.Conveys holds admission) (statement : Stmt) {station : Station}
    (admitted : admission.statements station [statement]) :
    holds (statement.executeTold narrate station) := by
  have contained : ∀ {body}, partsAll body ⊆ statement.contained →
      admission.statements station body := fun inside =>
    admission.parts admitted (partsAll_subset_singleton inside)
  cases statement with
  | text content => exact conveys.begins admitted rfl rfl (conveys.write content)
  | output value =>
    exact conveys.begins admitted rfl rfl
      (conveys.bind (conveys.evaluate value) (conveys.emit station))
  | branch condition yes no =>
    refine conveys.begins admitted rfl rfl
      (conveys.bind (conveys.evaluate condition) fun value => ?_)
    split
    · exact conveys.executeAll yes (contained (List.subset_append_left _ _))
    · exact conveys.executeAll no (contained (List.subset_append_right _ _))
  | each loop body empty =>
    refine conveys.begins admitted rfl rfl
      (conveys.bind (conveys.evaluate loop.items) fun value => ?_)
    dsimp only
    split
    · exact conveys.executeAll empty (contained (List.subset_append_right _ _))
    · exact conveys.eachItem
        (conveys.executeAll body (contained (List.subset_append_left _ _))) loop.name _
  | within region body =>
    have inside := fun inner (admitted : admission.statements inner body) =>
      conveys.executeAll body admitted
    -- Messages and regions with tabbing execute their bodies at another station than their own.
    by_cases isMessage : region = .message
    · subst isMessage
      exact conveys.message admitted inside
    · by_cases isTabbing : region = .tabbing
      · subst isTabbing
        exact conveys.tabbing admitted inside
      · have here := contained (List.Subset.refl (partsAll body))
        exact conveys.begins admitted rfl rfl
          (conveys.within isMessage isTabbing here (inside station here))
  | block name => exact conveys.begins admitted rfl rfl (conveys.goal (admission.block admitted))
  | inherit target span => exact conveys.inherit admitted
  | insert target bindings span => exact conveys.insert admitted
  | create target template span => exact conveys.create admitted
  | cycle number first others => exact conveys.cycle admitted
  | assign binding =>
    exact conveys.begins admitted rfl rfl
      (conveys.bind (conveys.evaluate binding.value) (conveys.assign binding.name))
termination_by structural statement

/-- So it does of lists of them. -/
theorem executeAll (conveys : narrate.Conveys holds admission) (statements : List Stmt)
    {station : Station} (admitted : admission.statements station statements) :
    holds (executeAllTold narrate station statements) := by
  cases statements with
  | nil => exact conveys.pure ()
  | cons statement rest =>
    have first : admission.statements station [statement] :=
      admission.parts admitted (List.cons_subset_cons _
        (List.append_subset.mpr ⟨List.subset_append_left _ _, List.nil_subset _⟩))
    have later : admission.statements station rest :=
      admission.parts admitted (List.subset_cons_of_subset _ (List.subset_append_right _ _))
    exact conveys.bind (conveys.execute statement first) fun _ => conveys.executeAll rest later
termination_by structural statements

end

section Goals

variable (conveys : narrate.Conveys holds admission) {station : Station}
include conveys

/-- So it does of the first definition of a block, with the next one rendered before it. -/
theorem renderBlock (name : String) {definitions : List Handle}
    (admitted : admission.goals station (.block name definitions)) :
    holds (station.renderBlockTold narrate name definitions) := by
  cases definitions with
  | nil => exact conveys.pure ()
  | cons definition others =>
    simp only [Station.renderBlockTold]
    cases defined : definition.template.block? name with
    | none => exact conveys.pure ()
    | some body =>
      have rendersOver : ∀ parent, holds (station.renderOverTold narrate definition body parent) :=
        fun parent => conveys.bind (conveys.record _) fun block =>
          conveys.inScope _ (conveys.executeAll body (admission.definition admitted defined))
      cases others with
      | nil => exact conveys.bind (conveys.pure _) rendersOver
      | cons next rest =>
        have deeper := conveys.goal (admission.others admitted)
        exact conveys.bind (conveys.capture deeper) fun text =>
          conveys.bind (conveys.pure _) rendersOver

/-- So it does of all that a goal asks for. -/
theorem pursue {goal : Goal} (admitted : admission.goals station goal) :
    holds (station.pursueTold narrate goal) := by
  cases goal with
  | whole => exact conveys.executeAll _ (admission.whole admitted)
  | reference name => exact conveys.renderBlock name (admission.reference admitted)
  | block name definitions => exact conveys.renderBlock name admitted
  | tree nodes body =>
    have inside := admission.tree.mp admitted
    exact conveys.eachNode (conveys.executeAll body inside)
      (fun nodes => conveys.goal (admission.tree.mpr inside)) nodes

end Goals

end Narration.Conveys

end Stencil
