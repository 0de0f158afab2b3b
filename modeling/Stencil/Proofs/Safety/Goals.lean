import Mathlib
import Stencil.Proofs.Safety.Execution

/-!
# Goals with guards

Whole templates, named blocks and trees can be rendered with guards: a definition of a block is
looked for by its index, and the nodes below a node are asked for one by one. Where all templates
were compiled, a goal does the same with its guards as without.
-/

namespace Stencil

/-- The template was compiled from some source, with some filters. -/
def Template.Compiled (template : Template) : Prop :=
  ∃ arity? name source, Template.compile arity? name source = .ok template

/-- So it is well formed. -/
theorem Template.Compiled.wellFormed {template : Template} (compiled : template.Compiled) :
    template.WellFormed := by
  obtain ⟨_, _, _, made⟩ := compiled
  exact Template.wellFormed_of_compile made

open Run

section Definitions

variable (report : Mishap → Halt)

/-- Executes the body for each node of a tree. -/
def eachNodeGuarded (below : List Value → Run Unit) (body : Run Unit) : List Value → Run Unit
  | [] => pure ()
  | node :: rest => do
    let children ← node.children
    let nodes ← checked report children.elementsGuarded
    let text ← capture (below nodes)
    inScope (Named.ofPairs [("node", node), ("children", .rawText text)]) body
    eachNodeGuarded below body rest

variable (station : Station) (expand : Expansion)

/-- Renders the first definition of a block, with the next one rendered before it. -/
def Station.renderBlockGuarded (name : String) : List Handle → Run Unit
  | [] => pure ()
  | definition :: others => do
    match ← checked report (definition.template.blockGuarded name) with
    | none => pure ()
    | some body =>
      let parent ← match others with
        | [] => pure Value.none
        | _ => pure (Value.rawText (← capture (expand station (.block name others))))
      let block ← hosted (Host.fresh (Value.newRecord [("super", parent)]))
      inScope [("block", block)]
        (executeAllGuarded report expand { station with handle := definition } body)

/-- Does what a goal asks for. -/
def Station.pursueGuarded : Goal → Run Unit
  | .whole => executeAllGuarded report expand station station.template.executed
  | .reference name => do
    let definitions ← checked report (station.definitionsGuarded name)
    station.renderBlockGuarded report expand name definitions
  | .block name definitions => station.renderBlockGuarded report expand name definitions
  | .tree nodes body =>
    eachNodeGuarded report (fun nodes => expand station (.tree nodes body))
      (executeAllGuarded report expand station body) nodes

/-- Expands a goal, with at most so many goals inside one another. -/
def expandGuarded : Nat → Expansion
  | 0, _, _ => throw .exhausted
  | depth + 1, station, goal => station.pursueGuarded report (expandGuarded depth) goal

end Definitions

/-- The template that the rendering stands in was compiled, and so were those that extend it. -/
structure Station.Fits (station : Station) : Prop where
  own : station.template.Compiled
  derived : ∀ handle ∈ station.derived, handle.template.Compiled

/-- Whoever defines a block there was compiled. -/
theorem Station.Fits.definitions {station : Station} (fits : station.Fits) (name : String) :
    ∀ definition ∈ station.definitions name, definition.template.Compiled := by
  intro definition member
  rcases Station.mem_definitions member with derived | rfl
  · exact fits.derived definition derived
  · exact fits.own

/-- Definitions of a block belong to templates that were compiled, and the body for the nodes of a
tree belongs to the template. -/
def Goal.Fits (station : Station) : Goal → Prop
  | .whole => True
  | .reference _ => True
  | .block _ definitions => ∀ definition ∈ definitions, definition.template.Compiled
  | .tree _ body => partsAll body ⊆ station.template.parts

/-- The parts of statements are the statements and what is inside of them. -/
theorem mem_partsAll {part : Stmt} {statements : List Stmt} :
    part ∈ partsAll statements ↔
      ∃ statement ∈ statements, part ∈ statement :: statement.contained := by
  induction statements with
  | nil => simp [partsAll]
  | cons statement rest inductionHypothesis =>
    rw [partsAll, ← List.cons_append, List.mem_append, inductionHypothesis]
    simp

/-- What is executed of a template is among its parts. -/
theorem Template.parts_executed (template : Template) :
    partsAll template.executed ⊆ template.parts := by
  intro part member
  obtain ⟨statement, isExecuted, inside⟩ := mem_partsAll.mp member
  refine List.mem_append_left _ (mem_partsAll.mpr ⟨statement, ?_, inside⟩)
  rw [executed] at isExecuted
  split at isExecuted
  · exact (List.mem_filter.mp isExecuted).1
  · exact isExecuted

/-- So is the body of a block. -/
theorem Template.parts_block {template : Template} {name : String} {body : List Stmt}
    (defined : template.block? name = some body) : partsAll body ⊆ template.parts :=
  fun _ member => List.mem_append_right _
    (List.mem_flatMap.mpr ⟨(name, body), Template.mem_blocks defined, member⟩)

section Agreement

variable {report : Mishap → Halt} {station : Station} {expand : Expansion}

/-- The nodes of a tree do the same with guards. -/
theorem eachNodeGuarded_eq (below : List Value → Run Unit) (body : Run Unit) (nodes : List Value) :
    eachNodeGuarded report below body nodes = eachNode below body nodes := by
  induction nodes with
  | nil => rfl
  | cons node rest inductionHypothesis =>
    rw [eachNodeGuarded, eachNode_cons, inductionHypothesis]
    simp only [Value.elementsGuarded_eq, checked_ok, pure_bind]

/-- So do the definitions of a block. -/
theorem Station.renderBlockGuarded_eq (name : String) {definitions : List Handle}
    (compiled : ∀ definition ∈ definitions, definition.template.Compiled) :
    station.renderBlockGuarded report expand name definitions =
      station.renderBlock expand name definitions := by
  cases definitions with
  | nil => rfl
  | cons definition others =>
    have wellFormed := (compiled definition List.mem_cons_self).wellFormed
    rw [renderBlockGuarded, renderBlock, wellFormed.blockGuarded_eq, checked_ok, pure_bind]
    cases defined : definition.template.block? name with
    | none => rfl
    | some body =>
      have moved : ({ station with handle := definition } : Station).template.WellFormed :=
        wellFormed
      simp only [executeAllGuarded_eq moved body (Template.parts_block defined)]
      cases others <;> rfl

/-- So does every goal that fits. -/
theorem Station.pursueGuarded_eq {goal : Goal} (fits : station.Fits)
    (goalFits : goal.Fits station) :
    station.pursueGuarded report expand goal = station.pursue expand goal := by
  have wellFormed := fits.own.wellFormed
  cases goal with
  | whole => exact executeAllGuarded_eq wellFormed _ station.template.parts_executed
  | reference name =>
    rw [pursueGuarded, definitionsGuarded_eq name fun handle member =>
      (fits.derived handle member).wellFormed]
    exact renderBlockGuarded_eq name (fits.definitions name)
  | block name definitions => exact renderBlockGuarded_eq name goalFits
  | tree nodes body =>
    rw [pursueGuarded, eachNodeGuarded_eq, executeAllGuarded_eq wellFormed body goalFits]
    rfl

end Agreement

end Stencil
