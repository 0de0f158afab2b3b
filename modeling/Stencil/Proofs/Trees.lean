import Stencil.Proofs.Scoping.Renderings
import Stencil.Proofs.Termination.Measures
import Stencil.Proofs.Writing

/-!
# Trees are gone through upwards

A tag that goes through a tree executes its body once for each node, after the nodes below it
and before the nodes beside it. The body is told the node, and what was written for the nodes
below. However deep a node lies, it is told so in a scope right above the scopes of the tag, so
that nothing of the nodes above is in sight.
-/

namespace Stencil

/-- A node that had its turn: its value, what was written for it, and the nodes below it. -/
structure RenderedNode where
  value : Value
  text : String
  children : List RenderedNode

namespace RenderedNode

/-- What was written for some nodes, one after the other. -/
def written (nodes : List RenderedNode) : String := String.join (nodes.map text)

/-- The text of the first node comes first. -/
theorem written_cons (node : RenderedNode) (rest : List RenderedNode) :
    written (node :: rest) = node.text ++ written rest := String.join_cons

/-- The scope in which a node has its turn: the node, and the raw text of those below it. -/
def scope (value : Value) (below : String) : Named Value :=
  [("children", .rawText below), ("node", value)]

/-- Nodes have their turns one after the other, each after those below it. The body is then
executed in one scope above the given ones, and writes the text of the node. -/
inductive Folds (body : Nat → Run Unit) (scopes : List (Named Value)) :
    List RenderedNode → World → World → Prop
  | done (world : World) : Folds body scopes [] world world
  | next {node : RenderedNode} {rest : List RenderedNode} {below : Value} {depth : Nat}
    {before opened closed middle after : World} :
    node.value.children before = (.ok below, opened) →
      below.elements = node.children.map value →
      Folds body scopes node.children opened closed →
      closed.context.scopes = scopes →
      (Run.inScope (scope node.value (written node.children)) (body depth)).Writes closed
        node.text middle →
      Folds body scopes rest middle after →
      Folds body scopes (node :: rest) before after

end RenderedNode

namespace Value

/-- The nodes below a node come to an end, whenever they are asked for. -/
inductive Grounded : Value → Prop
  | above {node : Value} :
    (∀ before children after, node.children before = (.ok children, after) →
      ∀ child ∈ children.elements, child.Grounded) → node.Grounded

/-- The nodes below a node that is no higher than a bound are lower. -/
theorem Bounded.children {node below : Value} {bound : Nat} (bounded : node.Bounded bound)
    {before after : World} (found : node.children before = (.ok below, after)) :
    ∀ child ∈ below.elements, child.Bounded bound ∧ child.height < node.height := by
  have hereditary := Value.bounded_hereditary bound
  unfold Value.children at found
  cases field : node.field? "children" with
  | none =>
    rw [field] at found
    cases found
    exact fun child impossible => nomatch impossible
  | some inside =>
    have isBounded : inside.Bounded bound := hereditary.field bounded field
    simp only [field, hereditary.invoked isBounded] at found
    cases found
    intro child member
    refine ⟨hereditary.elements isBounded child member, ?_⟩
    rcases height_of_children field with lower | rfl
    · exact Nat.lt_of_le_of_lt (height_of_mem_elements member) lower
    · cases member

/-- In data the nodes below a node come to an end. -/
theorem Bounded.grounded {node : Value} {bound : Nat} (bounded : node.Bounded bound) :
    node.Grounded := by
  induction height : node.height using Nat.strongRecOn generalizing node with
  | ind height inductionHypothesis =>
    refine .above fun before children after found child member => ?_
    obtain ⟨isBounded, lower⟩ := bounded.children found child member
    exact inductionHypothesis child.height (height ▸ lower) isBounded rfl

end Value

section

variable {station : Station} {body : List Stmt} {depth : Nat}

/-- To ask for the nodes below a node does not touch the sink. -/
theorem silent_children (node : Value) : Run.Silent (fun _ => True) node.children := by
  unfold Value.children
  split
  · exact Run.silent_hosted _
  · exact .of_good (fun _ _ => rfl) fun _ => ⟨_, rfl, trivial⟩

/-- It always succeeds. -/
theorem children_eq_ok (node : Value) (world : World) :
    ∃ below, node.children world = (.ok below, (node.children world).2) := by
  unfold Value.children
  cases node.field? "children" <;> exact ⟨_, rfl⟩

/-- Nor does it touch the context. -/
theorem context_children (node : Value) (world : World) :
    (node.children world).2.context = world.context := by
  unfold Value.children
  cases node.field? "children" <;> rfl

/-- A tree is written the same to every sink. -/
theorem streams_tree (nodes : List Value) :
    Run.Streams (fun _ => True) (expand depth station (.tree nodes body)) :=
  streams_expand depth station (.tree nodes body)

/-- A context in which no name may be set has the scopes of the beginning. -/
theorem Scoping.Kept.scopes_eq {origin start context : Context}
    (kept : Kept origin (.of start fun _ => False) context) : context.scopes = start.scopes := by
  rw [Context.scopes, kept.inner.eq_start fun _ impossible => impossible, kept.outer]
  rfl

/-- A tree keeps the scopes. -/
theorem scopes_of_writes_tree {nodes : List Value} {before after : World} {text : String}
    (writes : (expand depth station (.tree nodes body)).Writes before text after) :
    after.context.scopes = before.context.scopes := by
  have kept := Scoping.follows_expand depth (.of before.context fun _ => False) station
    (.tree nodes body) (fun impossible => nomatch impossible)
    { before with sink := .buffer "" } (.refl before.context _)
  obtain ⟨-, rfl⟩ := Prod.mk.inj writes
  exact kept.1.scopes_eq

/-- A body in a scope of its own keeps the scopes. -/
theorem scopes_of_writes_inScope {scope : Named Value} {before after : World} {text : String}
    (writes : (Run.inScope scope (executeAll (expand depth) station body)).Writes before text
      after) : after.context.scopes = before.context.scopes := by
  have sound : (Scoping.contract before.context Scoping.Level.isFree).logic.Sound :=
    Scoping.honest_free.sound
  have keeps : (Scoping.contract before.context Scoping.Level.isFree).logic.keeps
      (.of before.context fun _ => False) (fun _ => True)
      (Run.inScope scope (executeAll (expand depth) station body))
      (Run.inScope scope (executeAll (expand depth) station body)) :=
    sound.scope scope (fun _ _ => trivial) fun inner opened =>
      sound.executeAll (Scoping.follows_expand depth) body inner station fun _ _ tag _ =>
        Scoping.allows_of_free (fun _ free => free) opened.1 tag
  have kept := keeps { before with sink := .buffer "" } (.refl before.context _)
  obtain ⟨-, rfl⟩ := Prod.mk.inj writes
  exact kept.1.scopes_eq

/-- The scope of a node holds the node and the text, and nothing else. -/
theorem ofPairs_node (value : Value) (below : String) :
    Named.ofPairs [("node", value), ("children", .rawText below)] =
      RenderedNode.scope value below := by
  have sorted : "children" < "node" := by decide
  simp only [Named.ofPairs, List.foldl_cons, List.foldl_nil, Named.put, sorted, if_true]
  rfl

/-- Nodes are written the same to every sink. -/
theorem streams_eachNode {below : List Value → Run Unit} {inside : Run Unit}
    (streams : Run.Streams (fun _ => True) inside)
    (streamsBelow : ∀ nodes, Run.Streams (fun _ => True) (below nodes)) (nodes : List Value) :
    Run.Streams (fun _ => True) (eachNode below inside nodes) := by
  have keeps : streaming.keeps () (fun _ => True) (eachNode below inside nodes)
      (eachNode below inside nodes) :=
    streaming_sound.eachNode (fun _ _ => True) (fun _ _ => streams) nodes (fun _ _ => trivial)
      (fun node _ => (silent_children node).streams)
      fun _ _ value _ _ _ => streamsBelow value.elements
  exact keeps

/-- The first node has its turn before the others, and those below it before that. -/
theorem writes_eachNode_iff {below : List Value → Run Unit} {inside : Run Unit}
    (streams : Run.Streams (fun _ => True) inside)
    (streamsBelow : ∀ nodes, Run.Streams (fun _ => True) (below nodes)) (node : Value)
    (rest : List Value) {before after : World} {text : String} :
    (eachNode below inside (node :: rest)).Writes before text after ↔
      ∃ children opened under closed begun middle later,
        node.children before = (.ok children, opened) ∧
        (below children.elements).Writes opened under closed ∧
        (Run.inScope (RenderedNode.scope node under) inside).Writes closed begun middle ∧
        (eachNode below inside rest).Writes middle later after ∧ text = begun ++ later := by
  rw [eachNode_cons, Run.writes_bind_iff (silent_children node)]
  simp only [ofPairs_node, Run.writes_bind_iff (streamsBelow _).capture,
    Run.writes_seq_iff (streams.inScope _) (streams_eachNode streams streamsBelow rest)]
  constructor
  · rintro ⟨children, opened, asked, under, closed, caught, begun, middle, later, written⟩
    exact ⟨children, opened, under, closed, begun, middle, later, asked, caught, written⟩
  · rintro ⟨children, opened, under, closed, begun, middle, later, asked, caught, written⟩
    exact ⟨children, opened, asked, under, closed, caught, begun, middle, later, written⟩

/-- More depth changes nothing for goals. -/
theorem deepens_expand (station : Station) (goal : Goal) :
    Run.Deepens fun depth => expand depth station goal :=
  fun _ _ more _ ends => expand_eq_of_le ends more

open RenderedNode

/-- What a tree writes is folded from its nodes. -/
theorem folds_of_writes_tree {nodes : List Value} {before after : World} {text : String}
    (writes : (expand depth station (.tree nodes body)).Writes before text after) :
    ∃ rendered, rendered.map value = nodes ∧
      Folds (fun depth => executeAll (expand depth) station body) before.context.scopes rendered
        before after ∧ text = written rendered := by
  induction depth generalizing nodes before text after with
  | zero => cases writes
  | succ depth deeper =>
    have streams := streams_executeAll depth station body
    have streamsBelow : ∀ nodes, Run.Streams (fun _ => True)
        (expand depth station (.tree nodes body)) := streams_tree
    induction nodes generalizing before text with
    | nil =>
      obtain ⟨rfl, rfl⟩ := Run.writes_pure_iff.mp writes
      exact ⟨[], rfl, .done _, rfl⟩
    | cons node rest beside =>
      obtain ⟨children, opened, under, closed, begun, middle, later, asked, caught, turn, onward,
        rfl⟩ := (writes_eachNode_iff streams streamsBelow node rest).mp writes
      have sameOpened : opened.context.scopes = before.context.scopes := by
        rw [← context_children node before, asked]
      have sameClosed : closed.context.scopes = before.context.scopes :=
        (scopes_of_writes_tree caught).trans sameOpened
      have sameMiddle : middle.context.scopes = before.context.scopes :=
        (scopes_of_writes_inScope turn).trans sameClosed
      obtain ⟨renderedBelow, sameBelow, folds, rfl⟩ := deeper caught
      obtain ⟨rendered, sameRest, foldsRest, rfl⟩ := beside onward
      rw [sameOpened] at folds
      rw [sameMiddle] at foldsRest
      refine ⟨⟨node, begun, renderedBelow⟩ :: rendered, by rw [List.map_cons, sameRest], ?_,
        (written_cons ⟨node, begun, renderedBelow⟩ rendered).symm⟩
      exact .next asked sameBelow.symm folds sameClosed turn foldsRest

/-- What is folded from the nodes is what a tree writes, with enough depth. -/
theorem writes_tree_of_folds {scopes : List (Named Value)} {rendered : List RenderedNode}
    {before after : World}
    (folds : Folds (fun depth => executeAll (expand depth) station body) scopes rendered before
      after) :
    ∃ depth, (expand depth station (.tree (rendered.map value) body)).Writes before
      (written rendered) after := by
  induction folds with
  | done world => exact ⟨1, Run.writes_pure_iff.mpr ⟨rfl, rfl⟩⟩
  | @next node rest below bodyDepth before opened closed middle after asked same _ _ turn _
      deeper beside =>
    obtain ⟨depthBelow, writesBelow⟩ := deeper
    obtain ⟨depthRest, writesRest⟩ := beside
    obtain ⟨depth, enoughBelow, enoughBody, enoughRest⟩ :
        ∃ depth, depthBelow ≤ depth ∧ bodyDepth ≤ depth ∧ depthRest ≤ depth + 1 :=
      ⟨max depthBelow (max bodyDepth depthRest), by omega, by omega, by omega⟩
    have caught := (deepens_expand station _).writes enoughBelow writesBelow
    rw [← same] at caught
    refine ⟨depth + 1, (writes_eachNode_iff (streams_executeAll depth station body)
      (fun nodes => streams_tree nodes) node.value (rest.map value)).mpr ?_⟩
    exact ⟨below, opened, _, closed, node.text, middle, written rest, asked, caught,
      ((deepens_executeAll station body).inScope _).writes enoughBody turn,
      (deepens_expand station _).writes enoughRest writesRest, written_cons ..⟩

section Success

variable {scopes : List (Named Value)}

/-- If each of some nodes can have its turn then so can all, one after the other. -/
theorem exists_folds {nodes : List Value}
    (each : ∀ node ∈ nodes, ∀ before : World, before.context.scopes = scopes →
      ∃ rendered after, rendered.value = node ∧ after.context.scopes = scopes ∧
        Folds (fun depth => executeAll (expand depth) station body) scopes [rendered] before after)
    {before : World} (atStart : before.context.scopes = scopes) :
    ∃ rendered after, rendered.map value = nodes ∧ after.context.scopes = scopes ∧
      Folds (fun depth => executeAll (expand depth) station body) scopes rendered before after := by
  induction nodes generalizing before with
  | nil => exact ⟨[], before, rfl, atStart, .done before⟩
  | cons node rest inductionHypothesis =>
    obtain ⟨rendered, middle, rfl, between, first⟩ := each node List.mem_cons_self before atStart
    obtain ⟨others, after, rfl, atEnd, onward⟩ := inductionHypothesis
      (fun other member => each other (List.mem_cons_of_mem _ member)) between
    cases first with
    | next asked same folds above turn done =>
      cases done
      exact ⟨rendered :: others, after, rfl, atEnd, .next asked same folds above turn onward⟩

/-- If the body succeeds then a node can have its turn if those below it come to an end. -/
theorem exists_folds_of_grounded
    (succeeds : ∀ scope world, ∃ depth text after,
      (Run.inScope scope (executeAll (expand depth) station body)).Writes world text after)
    {node : Value} (grounded : node.Grounded) (before : World)
    (atStart : before.context.scopes = scopes) :
    ∃ rendered after, rendered.value = node ∧ after.context.scopes = scopes ∧
      Folds (fun depth => executeAll (expand depth) station body) scopes [rendered] before
        after := by
  induction grounded generalizing before with
  | @above node _ deeper =>
    obtain ⟨below, asked⟩ := children_eq_ok node before
    have atChildren : (node.children before).2.context.scopes = scopes := by
      rw [context_children, atStart]
    obtain ⟨rendered, closed, same, above, folds⟩ :=
      exists_folds (deeper before below _ asked) atChildren
    obtain ⟨depth, text, after, turn⟩ := succeeds (scope node (written rendered)) closed
    have atEnd : after.context.scopes = scopes := (scopes_of_writes_inScope turn).trans above
    exact ⟨⟨node, text, rendered⟩, after, rfl, atEnd,
      .next asked same.symm folds above turn (.done after)⟩

end Success

/-- A tag that goes through a tree finds the nodes, and leaves the rest to a goal. -/
theorem writes_tree_iff {nodes : Expr} {before opened after : World} {forest : Value}
    {text : String} (found : Run.evaluate nodes before = (.ok forest, opened)) :
    ((Stmt.within (.tree nodes) body).execute (expand depth) station).Writes before text after ↔
      (expand depth station (.tree forest.elements body)).Writes opened text after :=
  Run.writes_bind_of_ok (Run.silent_evaluate nodes) found

end

open RenderedNode

/-- A tag that goes through a tree folds it upwards. What it writes, with some depth, are the
texts of the roots in order. Each node has its turn once, after those below it and before
those beside it, in one scope above the scopes of the tag, with the raw text of those below
it. With more depth the same is written. If the nodes come to an end, as those of data do, and
the body always succeeds, then so does the tag. -/
theorem trees_fold_upwards (station : Station) {nodes : Expr} (body : List Stmt)
    {before opened : World} {forest : Value}
    (found : Run.evaluate nodes before = (.ok forest, opened)) :
    let inside := fun depth => executeAll (expand depth) station body
    let tag := fun depth => (Stmt.within (.tree nodes) body).execute (expand depth) station
    (∀ text after, (∃ depth, (tag depth).Writes before text after) ↔
      ∃ rendered, rendered.map value = forest.elements ∧
        Folds inside before.context.scopes rendered opened after ∧ text = written rendered) ∧
    (∀ depth deeper text after, depth ≤ deeper → (tag depth).Writes before text after →
      (tag deeper).Writes before text after) ∧
    ((∀ node ∈ forest.elements, node.Grounded) →
      (∀ scope world, ∃ depth text after, (Run.inScope scope (inside depth)).Writes world text
        after) →
      ∃ depth text after, (tag depth).Writes before text after) ∧
    (forest.isData = true → ∀ node ∈ forest.elements, node.Grounded) := by
  intro inside tag
  have sameContext : opened.context = before.context := by
    have reached := congrArg (fun done => done.2.context) found
    exact reached.symm
  have folded : ∀ text after, (∃ depth, (tag depth).Writes before text after) ↔
      ∃ rendered, rendered.map value = forest.elements ∧
        Folds inside before.context.scopes rendered opened after ∧ text = written rendered := by
    intro text after
    rw [← sameContext]
    constructor
    · rintro ⟨depth, writes⟩
      exact folds_of_writes_tree ((writes_tree_iff found).mp writes)
    · rintro ⟨rendered, same, folds, rfl⟩
      obtain ⟨depth, writes⟩ := writes_tree_of_folds folds
      exact ⟨depth, (writes_tree_iff found).mpr (same ▸ writes)⟩
  refine ⟨folded, fun depth deeper text after more writes => ?_, fun grounded succeeds => ?_,
    fun isData node member => ?_⟩
  · have below := (writes_tree_iff found).mp writes
    exact (writes_tree_iff found).mpr ((deepens_expand station _).writes more below)
  · obtain ⟨rendered, after, same, -, folds⟩ := exists_folds
      (fun node member => exists_folds_of_grounded succeeds (grounded node member))
      (congrArg Context.scopes sameContext)
    obtain ⟨depth, writes⟩ := (folded (written rendered) after).mpr ⟨rendered, same, folds, rfl⟩
    exact ⟨depth, _, after, writes⟩
  · have bounded : forest.Bounded forest.height := ⟨isData, Nat.le_refl _⟩
    exact ((Value.bounded_hereditary _).elements bounded node member).grounded

namespace Treading

/-- A node with two nodes below it, one of them without nodes and one that is no record. -/
def root : Value :=
  .plain (.record 0 none [("children", .plain (.list 1
    [.plain (.record 2 none []), .integer 7]))])

/-- A world with the node. -/
def world : World :=
  { (⟨.empty, .ofEntries [("t", root)], .empty⟩ : Workshop) with
    turns := [], sink := .buffer "" }

/-- What is executed for each node puts brackets around the nodes below it. -/
def body : List Stmt := [.text "[", .output (.path ⟨"children", [], "children"⟩), .text "]"]

/-- A tag that goes through the tree. -/
def tag : Run Unit :=
  (Stmt.within (.tree (.path ⟨"t", [], "t"⟩)) body).execute (expand 3) (.start ⟨0, default⟩)

end Treading

/-- A node that is no list is the only root of its tree. -/
theorem trees_fold_root : ∃ rendered after, rendered.map value = [Treading.root] ∧
    Folds (fun depth => executeAll (expand depth) (.start ⟨0, default⟩) Treading.body)
      Treading.world.context.scopes rendered Treading.world after ∧
    written rendered = "[[][]]" := by
  have found : Run.evaluate (.path ⟨"t", [], "t"⟩) Treading.world =
      (.ok Treading.root, Treading.world) := rfl
  have caught : (Run.capture Treading.tag Treading.world).1 = .ok "[[][]]" := by decide +kernel
  have writes : Treading.tag.Writes Treading.world "[[][]]"
      (Run.capture Treading.tag Treading.world).2 := Prod.ext caught rfl
  obtain ⟨folded, -⟩ := trees_fold_upwards (.start ⟨0, default⟩) Treading.body found
  obtain ⟨rendered, same, folds, written⟩ := (folded _ _).mp ⟨3, writes⟩
  exact ⟨rendered, _, same, folds, written.symm⟩

end Stencil
