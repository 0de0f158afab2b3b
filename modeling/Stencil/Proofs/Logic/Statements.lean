import Stencil.Proofs.Logic

/-!
# Statements respect a logic

What primitive actions respect, tags, loops and regions do, and with them every list
of statements: one induction over the statements puts all cases together. The last
statements are about goals, so that a way of expanding goals may be shown to respect a
logic level by level.
-/

namespace Stencil.Logic

variable {Circumstance : Type} {logic : Logic Circumstance} {circumstance : Circumstance}
  {station : Station} {first second : Expansion}

section Actions

variable (sound : logic.Sound) {statement : Stmt}
include sound

/-- The text of an expression. -/
theorem Sound.evaluateText {expression : Expr}
    (admitted : logic.admits circumstance station statement)
    (here : expression ∈ statement.expressions) :
    logic.keeps circumstance (fun _ => True) (Run.evaluateText expression)
      (Run.evaluateText expression) :=
  sound.bind (sound.evaluate admitted here) fun value _ => sound.pure value.written trivial

/-- The scope that bindings make. -/
theorem Sound.scopeOf {bindings : List Binding}
    (admitted : logic.admits circumstance station statement)
    (here : ∀ binding ∈ bindings, binding.value ∈ statement.expressions) :
    logic.keeps circumstance (fun scope => ∀ entry ∈ scope, logic.good circumstance entry.2)
      (Run.scopeOf bindings) (Run.scopeOf bindings) := by
  have each : ∀ binding ∈ bindings, logic.keeps circumstance
      (fun pair : String × Value => logic.good circumstance pair.2)
      (do return (binding.name, ← Run.evaluate binding.value))
      (do return (binding.name, ← Run.evaluate binding.value)) := by
    intro binding member
    exact sound.bind (sound.evaluate admitted (here binding member)) fun value good =>
      sound.pure (binding.name, value) good
  refine sound.bind (sound.mapM bindings each) fun pairs good => ?_
  refine sound.pure (Named.ofPairs pairs) ?_
  intro entry member
  exact good entry (Named.mem_of_mem_ofPairs member)

/-- What a loop tells its body may be bound, and is no tree. -/
theorem Sound.loopEntries {parent : Option Value}
    (bound : ∀ value, parent = some value → logic.bindable circumstance value)
    (index count : Nat) :
    ∀ entry ∈ loopEntries index count parent,
      entry.1 ≠ "children" ∧ logic.bindable circumstance entry.2 := by
  have around : logic.bindable circumstance (parent.getD .none) := by
    cases parent with
    | none => exact sound.bindableNone
    | some value => exact bound value rfl
  intro entry member
  simp only [Stencil.loopEntries, List.mem_cons, List.not_mem_nil, or_false] at member
  rcases member with rfl | rfl | rfl | rfl | rfl | rfl | rfl | rfl
  · exact ⟨by simp, sound.bindableInteger _⟩
  · exact ⟨by simp, sound.bindableInteger _⟩
  · exact ⟨by simp, sound.bindableInteger _⟩
  · exact ⟨by simp, sound.bindableInteger _⟩
  · exact ⟨by simp, sound.bindableInteger _⟩
  · exact ⟨by simp, sound.bindableBoolean _⟩
  · exact ⟨by simp, sound.bindableBoolean _⟩
  · exact ⟨by simp, around⟩

end Actions

section Loops

variable (sound : logic.Sound) {body bodyToo : Run Unit}
include sound

/-- One round of a loop: a value and the record of the loop in a scope of their own. -/
theorem Sound.round {name : String} {item : Value} {parent : Option Value}
    (bindable : logic.bindable circumstance item)
    (bound : ∀ value, parent = some value → logic.bindable circumstance value)
    (index count : Nat)
    (inside : ∀ inner, logic.opens circumstance inner →
      logic.keeps inner (fun _ => True) body bodyToo) :
    logic.keeps circumstance (fun _ => True)
      (do
        let loop ← Run.hosted (Host.fresh
          (Value.newRecord (Stencil.loopEntries index count parent)))
        Run.inScope (Named.ofPairs [(name, item), ("forloop", loop)]) body)
      (do
        let loop ← Run.hosted (Host.fresh
          (Value.newRecord (Stencil.loopEntries index count parent)))
        Run.inScope (Named.ofPairs [(name, item), ("forloop", loop)]) bodyToo) := by
  refine sound.bind (sound.record _ (sound.loopEntries bound index count))
    fun loop loopBindable => ?_
  refine sound.scope _ ?_ inside
  intro entry member
  have listed := Named.mem_of_mem_ofPairs member
  simp only [List.mem_cons, List.not_mem_nil, or_false] at listed
  rcases listed with rfl | rfl
  · exact bindable
  · exact loopBindable

/-- A loop over the elements of a value. -/
theorem Sound.eachItem (name : String) (items : List Value)
    (good : ∀ item ∈ items, logic.good circumstance item)
    (inside : ∀ inner, logic.opens circumstance inner →
      logic.keeps inner (fun _ => True) body bodyToo) :
    logic.keeps circumstance (fun _ => True) (eachItem name items body)
      (eachItem name items bodyToo) := by
  refine sound.bind sound.enclosing fun parent bound => ?_
  refine sound.forEach (fun index item isGood => ?_) items 0 good
  exact sound.round (sound.bindable isGood) bound index items.length inside

/-- A loop over numbers. -/
theorem Sound.eachNumber (name : String) (numbers : Progression)
    (inside : ∀ inner, logic.opens circumstance inner →
      logic.keeps inner (fun _ => True) body bodyToo) :
    logic.keeps circumstance (fun _ => True) (eachNumber name numbers body)
      (eachNumber name numbers bodyToo) := by
  refine sound.bind sound.enclosing fun parent bound => ?_
  refine sound.forIndices (fun index => ?_) numbers.count 0
  exact sound.round (sound.bindableInteger _) bound index numbers.count inside

/-- A pattern, with the body at its markers. -/
theorem Sound.eachMarker (name : String) (items : List Value)
    (good : ∀ item ∈ items, logic.good circumstance item)
    (inside : ∀ inner, logic.opens circumstance inner →
      logic.keeps inner (fun _ => True) body bodyToo)
    (parts : List PatternPart)
    (legible : ∀ content, .text content ∈ parts →
      logic.legible circumstance (String.ofList content)) :
    logic.keeps circumstance (fun _ => True) (eachMarker name items body parts)
      (eachMarker name items bodyToo parts) := by
  induction parts with
  | nil => exact sound.pure () trivial
  | cons part rest inductionHypothesis =>
    have onward := inductionHypothesis fun content member => legible content (by simp [member])
    cases part with
    | text content =>
      exact sound.bind (sound.write (legible content (by simp))) fun _ _ => onward
    | marker number =>
      simp only [Stencil.eachMarker]
      cases found : items[number]? with
      | none => exact onward
      | some item =>
        refine sound.bind (sound.scope [(name, item)] ?_ inside) fun _ _ => onward
        intro entry member
        have same : entry = (name, item) := by simpa using member
        subst same
        exact sound.bindable (good item (List.mem_of_getElem? found))

/-- The nodes of a tree, with the text of the nodes below each. -/
theorem Sound.eachNode {below belowToo : List Value → Run Unit} (isBelow : Value → Value → Prop)
    (inside : ∀ inner, logic.opens circumstance inner →
      logic.keeps inner (fun _ => True) body bodyToo)
    (nodes : List Value) (good : ∀ node ∈ nodes, logic.good circumstance node)
    (children : ∀ node ∈ nodes,
      logic.keeps circumstance (isBelow node) node.children node.children)
    (deeper : ∀ node ∈ nodes, ∀ value, isBelow node value →
      ∀ inner, logic.catches circumstance inner →
        logic.keeps inner (fun _ => True) (below value.elements) (belowToo value.elements)) :
    logic.keeps circumstance (fun _ => True) (eachNode below body nodes)
      (eachNode belowToo bodyToo nodes) := by
  induction nodes with
  | nil => exact sound.pure () trivial
  | cons node rest inductionHypothesis =>
    have onward := inductionHypothesis (fun other member => good other (by simp [member]))
      (fun other member => children other (by simp [member]))
      (fun other member => deeper other (by simp [member]))
    rw [eachNode_cons, eachNode_cons]
    refine sound.bind (children node (by simp)) fun value found => ?_
    refine sound.bind (sound.capture (deeper node (by simp) value found)) fun text legible => ?_
    refine sound.bind (sound.scope _ ?_ inside) fun _ _ => onward
    intro entry member
    have listed := Named.mem_of_mem_ofPairs member
    simp only [List.mem_cons, List.not_mem_nil, or_false] at listed
    rcases listed with rfl | rfl
    · exact sound.bindable (good node (by simp))
    · exact sound.bindableText legible

end Loops

section Tags

variable (sound : logic.Sound) (follows : logic.Follows first second)
include sound follows

/-- The template that a station's template extends. -/
theorem Sound.inherit {target : Expr} {span : Span}
    (admitted : logic.admits circumstance station (.inherit target span)) :
    logic.keeps circumstance (fun _ => True) (station.inherit first target span)
      (station.inherit second target span) := by
  refine sound.bind (sound.evaluateText admitted (by simp [Stmt.expressions])) fun name _ => ?_
  refine sound.visit span name admitted fun inner handle entered arrived => ?_
  exact follows inner _ .whole (sound.extended arrived admitted)

/-- A template in the place of a tag. -/
theorem Sound.insert {target : Expr} {bindings : List Binding} {span : Span}
    (admitted : logic.admits circumstance station (.insert target bindings span)) :
    logic.keeps circumstance (fun _ => True) (station.insert first target bindings span)
      (station.insert second target bindings span) := by
  refine sound.bind (sound.evaluateText admitted (by simp [Stmt.expressions])) fun name _ => ?_
  have here : ∀ binding ∈ bindings,
      binding.value ∈ (Stmt.insert target bindings span).expressions := by
    intro binding member
    exact List.mem_cons_of_mem _ (List.mem_map_of_mem member)
  refine sound.bind (sound.scopeOf admitted here) fun scope good => ?_
  refine sound.visit span name admitted fun inner handle entered arrived => ?_
  refine sound.scope scope ?_ fun deeper opened => ?_
  · intro entry member
    exact sound.bindable (sound.carried arrived (good entry member))
  · exact follows deeper _ .whole (sound.inserted arrived admitted opened)

/-- A template that is rendered into a file. -/
theorem Sound.create {target template : Expr} {span : Span}
    (admitted : logic.admits circumstance station (.create target template span)) :
    logic.keeps circumstance (fun _ => True) (station.create first target template span)
      (station.create second target template span) := by
  rw [Station.create_eq, Station.create_eq]
  refine sound.bind (sound.evaluateText admitted (by simp [Stmt.expressions])) fun target _ => ?_
  refine sound.bind (sound.evaluateText admitted (by simp [Stmt.expressions])) fun name _ => ?_
  refine sound.bind sound.directory fun directory _ => ?_
  cases directory with
  | none => exact sound.noDirectory station span target
  | some directory =>
    refine sound.visit span name admitted fun inner handle entered arrived => ?_
    have rendered := sound.file
      (FilePath.extension (FilePath.join directory (TemplateName.normal target)))
      fun deeper filed => follows deeper _ .whole (sound.created arrived admitted filed)
    exact sound.bind rendered fun text _ => sound.writeFile span _ text arrived

/-- A region, whose body respects the logic wherever the region executes it. -/
theorem Sound.within {region : Region} {statements : List Stmt} {body bodyToo : Station → Run Unit}
    (admitted : logic.admits circumstance station (.within region statements))
    (inside : ∀ inner standing, (∀ part ∈ statements, logic.admits inner standing part) →
      logic.keeps inner (fun _ => True) (body standing) (bodyToo standing)) :
    logic.keeps circumstance (fun _ => True) (station.within first region statements body)
      (station.within second region statements bodyToo) := by
  have nested : region.opensScope = true → ∀ inner, logic.opens circumstance inner →
      logic.keeps inner (fun _ => True) (body station) (bodyToo station) := by
    intro opensScope inner opened
    refine inside inner station fun part member => ?_
    exact sound.nested admitted opened part (by simpa [Stmt.nested, opensScope] using member)
  cases region with
  | binding bindings =>
    have here : ∀ binding ∈ bindings,
        binding.value ∈ (Stmt.within (.binding bindings) statements).expressions :=
      fun binding member => List.mem_map_of_mem member
    refine sound.bind (sound.scopeOf admitted here) fun scope good => ?_
    exact sound.scope scope (fun entry member => sound.bindable (good entry member)) (nested rfl)
  | spaceless =>
    have caught := sound.capture fun inner catching =>
      inside inner station (sound.caught admitted catching)
    refine sound.bind caught fun text legible => ?_
    exact sound.bind (sound.removeSpace legible) fun shorter stillLegible =>
      sound.write stillLegible
  | tree nodes =>
    refine sound.bind (sound.evaluate admitted (by simp [Stmt.expressions, Region.expressions]))
      fun value good => ?_
    exact follows circumstance station _ (sound.tree admitted (sound.elements good))
  | markers name items pattern =>
    refine sound.bind (sound.evaluate admitted (by simp [Stmt.expressions, Region.expressions]))
      fun value good => ?_
    refine sound.bind (sound.pattern admitted) fun text legible => ?_
    exact sound.eachMarker name value.elements (sound.elements good) (nested rfl) _ legible
  | message =>
    have muted := sound.mute admitted fun inner passed => inside inner _ passed
    exact sound.bind muted fun text _ => sound.note _
  | range name from_ last down step =>
    refine sound.bind (sound.evaluate admitted (by simp [Stmt.expressions, Region.expressions]))
      fun from_ _ => ?_
    refine sound.bind (sound.evaluate admitted (by simp [Stmt.expressions, Region.expressions]))
      fun last _ => ?_
    cases step with
    | none => exact sound.eachNumber name _ (nested rfl)
    | some step =>
      exact sound.bind
        (sound.evaluate admitted (by simp [Stmt.expressions, Region.expressions]))
        fun step _ => sound.eachNumber name _ (nested rfl)
  | tabbing =>
    simp only [Station.within]
    cases on : station.tabbing with
    | true => exact inside circumstance station (sound.level admitted)
    | false => exact sound.tabbed admitted on fun inner passed => inside inner _ passed

end Tags

mutual

/-- Executing a statement respects the logic. -/
theorem Sound.execute (sound : logic.Sound) (follows : logic.Follows first second)
    (statement : Stmt) (circumstance : Circumstance) (station : Station)
    (admitted : logic.admits circumstance station statement) :
    logic.keeps circumstance (fun _ => True) (statement.execute first station)
      (statement.execute second station) := by
  cases statement with
  | text content => exact sound.write (sound.text admitted)
  | output value =>
    exact sound.bind (sound.evaluate admitted (by simp [Stmt.expressions])) fun found good =>
      sound.emit admitted good
  | branch condition yes no =>
    have parts := sound.level admitted
    refine sound.bind (sound.evaluate admitted (by simp [Stmt.expressions])) fun found _ => ?_
    by_cases holds : found.truthy = true
    · simp only [holds, if_true]
      exact sound.executeAll follows yes circumstance station fun part member =>
        parts part (List.mem_append_left no member)
    · simp only [holds]
      exact sound.executeAll follows no circumstance station fun part member =>
        parts part (List.mem_append_right yes member)
  | each loop body empty =>
    refine sound.bind (sound.evaluate admitted (by simp [Stmt.expressions])) fun found good => ?_
    have goodItems := sound.elements good
    by_cases none : found.elements.isEmpty = true
    · simp only [none, if_true]
      exact sound.executeAll follows empty circumstance station (sound.level admitted)
    · simp only [none]
      refine sound.eachItem loop.name _ ?_ fun inner opened =>
        sound.executeAll follows body inner station (sound.nested admitted opened)
      split
      · exact fun item member => goodItems item (List.mem_reverse.mp member)
      · exact goodItems
  | within region body =>
    have inside : ∀ inner standing, (∀ part ∈ body, logic.admits inner standing part) →
        logic.keeps inner (fun _ => True) (Stencil.executeAll first standing body)
          (Stencil.executeAll second standing body) :=
      fun inner standing passed => sound.executeAll follows body inner standing passed
    exact sound.within follows admitted inside
  | block name => exact follows circumstance station _ (sound.reference admitted)
  | inherit target span => exact sound.inherit follows admitted
  | insert target bindings span => exact sound.insert follows admitted
  | create target template span => exact sound.create follows admitted
  | cycle number chosen others =>
    refine sound.bind (sound.turn _) fun turn _ => ?_
    have here : (chosen :: others)[turn % (others.length + 1)]?.getD chosen ∈
        (Stmt.cycle number chosen others).expressions := by
      cases found : (chosen :: others)[turn % (others.length + 1)]? with
      | none => exact List.mem_cons_self
      | some item => exact List.mem_of_getElem? found
    exact sound.bind (sound.evaluate admitted here) fun value good => sound.emit admitted good
  | assign binding =>
    exact sound.bind (sound.evaluate admitted (by simp [Stmt.expressions])) fun value good =>
      sound.assign admitted good
termination_by structural statement

/-- Executing a list of statements does, too. -/
theorem Sound.executeAll (sound : logic.Sound) (follows : logic.Follows first second)
    (statements : List Stmt) (circumstance : Circumstance) (station : Station)
    (admitted : ∀ part ∈ statements, logic.admits circumstance station part) :
    logic.keeps circumstance (fun _ => True) (Stencil.executeAll first station statements)
      (Stencil.executeAll second station statements) := by
  cases statements with
  | nil => exact sound.pure () trivial
  | cons statement rest =>
    exact sound.bind
      (sound.execute follows statement circumstance station (admitted statement (by simp)))
      fun _ _ => sound.executeAll follows rest circumstance station fun part member =>
        admitted part (by simp [member])
termination_by structural statements

end

section Goals

variable (sound : logic.Sound) (follows : logic.Follows first second)
include sound follows

/-- The body of a definition, with what the next one rendered. -/
theorem Sound.renderOver {definition : Handle} {body : List Stmt} {parent : Value}
    (bound : logic.bindable circumstance parent)
    (admitted : ∀ inner, logic.opens circumstance inner →
      ∀ part ∈ body, logic.admits inner { station with handle := definition } part) :
    logic.keeps circumstance (fun _ => True) (station.renderOver first definition body parent)
      (station.renderOver second definition body parent) := by
  refine sound.bind (sound.record [("super", parent)] (by simpa using bound))
    fun block bindable => ?_
  refine sound.scope [("block", block)] (by simpa using bindable) fun inner opened => ?_
  exact sound.executeAll follows body inner _ (admitted inner opened)

/-- The first definition of a block, with the next one rendered before it. -/
theorem Sound.renderBlock {name : String} {definitions : List Handle}
    (own : ∀ definition body, definitions.head? = some definition →
      definition.template.block? name = some body → ∀ inner, logic.opens circumstance inner →
        ∀ part ∈ body, logic.admits inner { station with handle := definition } part)
    (others : definitions.tail ≠ [] → ∀ inner, logic.catches circumstance inner →
      logic.asks inner station (.block name definitions.tail)) :
    logic.keeps circumstance (fun _ => True) (station.renderBlock first name definitions)
      (station.renderBlock second name definitions) := by
  cases definitions with
  | nil => exact sound.pure () trivial
  | cons definition rest =>
    simp only [Station.renderBlock]
    cases defined : definition.template.block? name with
    | none => exact sound.pure () trivial
    | some body =>
      have admitted := own definition body rfl defined
      cases rest with
      | nil => exact sound.renderOver follows sound.bindableNone admitted
      | cons next rest =>
        have parent : logic.keeps circumstance (logic.legible circumstance)
            (Run.capture (first station (.block name (next :: rest))))
            (Run.capture (second station (.block name (next :: rest)))) :=
          sound.capture fun inner catching =>
            follows inner station _ (others (by simp) inner catching)
        refine sound.bind parent fun text legible => ?_
        exact sound.renderOver follows (sound.bindableText legible) admitted

end Goals

section Pursuit

/-- The first definition of a block may be executed, and the others may be asked for. -/
structure ProvidesBlock (logic : Logic Circumstance) (circumstance : Circumstance)
    (station : Station) (name : String) (definitions : List Handle) : Prop where
  own : ∀ definition body, definitions.head? = some definition →
    definition.template.block? name = some body → ∀ inner, logic.opens circumstance inner →
      ∀ part ∈ body, logic.admits inner { station with handle := definition } part
  others : definitions.tail ≠ [] → ∀ inner, logic.catches circumstance inner →
    logic.asks inner station (.block name definitions.tail)

/-- The nodes of a tree are good, their body may be executed, and for the nodes below them a
tree may be asked for. -/
structure ProvidesTree (logic : Logic Circumstance) (circumstance : Circumstance)
    (station : Station) (nodes : List Value) (body : List Stmt) : Prop where
  good : ∀ node ∈ nodes, logic.good circumstance node
  inside : ∀ inner, logic.opens circumstance inner → ∀ part ∈ body,
    logic.admits inner station part
  children : ∀ node ∈ nodes, logic.keeps circumstance
    (fun value => ∀ inner, logic.catches circumstance inner →
      logic.asks inner station (.tree value.elements body)) node.children node.children

/-- What the pursuit of a goal comes to is as the logic expects it. -/
def Provides (logic : Logic Circumstance) (circumstance : Circumstance) (station : Station) :
    Goal → Prop
  | .whole => ∀ part ∈ station.template.executed, logic.admits circumstance station part
  | .reference name =>
    logic.ProvidesBlock circumstance station name (station.definitions name)
  | .block name definitions => logic.ProvidesBlock circumstance station name definitions
  | .tree nodes body => logic.ProvidesTree circumstance station nodes body

/-- Where nothing is expected, nothing has to be provided but the nodes below a node. -/
theorem Indifferent.provides (indifferent : logic.Indifferent) (goal : Goal)
    (children : ∀ {isGood : Value → Prop}, (∀ value, isGood value) → ∀ node : Value,
      logic.keeps circumstance isGood node.children node.children) :
    logic.Provides circumstance station goal := by
  have block : ∀ name definitions,
      logic.ProvidesBlock circumstance station name definitions := fun _ _ =>
    ⟨fun _ _ _ _ _ _ _ _ => indifferent.admits _ _ _, fun _ _ _ => indifferent.asks _ _ _⟩
  cases goal with
  | whole => exact fun _ _ => indifferent.admits _ _ _
  | reference name => exact block name _
  | block name definitions => exact block name definitions
  | tree nodes body =>
    exact ⟨fun _ _ => indifferent.good _ _, fun _ _ _ _ => indifferent.admits _ _ _,
      fun node _ => children (fun _ _ _ => indifferent.asks _ _ _) node⟩

variable (sound : logic.Sound)
include sound

/-- The pursuit of a goal respects the logic, if the goals that it comes to are expanded so. -/
theorem Sound.pursue (follows : logic.Follows first second) {goal : Goal}
    (provided : logic.Provides circumstance station goal) :
    logic.keeps circumstance (fun _ => True) (station.pursue first goal)
      (station.pursue second goal) := by
  cases goal with
  | whole => exact sound.executeAll follows _ circumstance station provided
  | reference name => exact sound.renderBlock follows provided.own provided.others
  | block name definitions => exact sound.renderBlock follows provided.own provided.others
  | tree nodes body =>
    exact sound.eachNode _
      (fun inner opened =>
        sound.executeAll follows body inner station (provided.inside inner opened))
      nodes provided.good provided.children
      fun _ _ _ asked inner caught => follows inner station _ (asked inner caught)

/-- Goals are expanded as the logic says, if each provides for those that it comes to and the
expansion may be exhausted. -/
theorem Sound.follows_expand
    (exhausted : ∀ circumstance, logic.keeps circumstance (fun _ => True)
      (throw .exhausted : Run Unit) (throw .exhausted))
    (provided : ∀ circumstance station goal, logic.asks circumstance station goal →
      logic.Provides circumstance station goal) (depth : Nat) :
    logic.Follows (expand depth) (expand depth) := by
  induction depth with
  | zero => exact fun circumstance _ _ _ => exhausted circumstance
  | succ depth inductionHypothesis =>
    exact fun circumstance station goal asked =>
      sound.pursue inductionHypothesis (provided circumstance station goal asked)

end Pursuit

end Stencil.Logic
