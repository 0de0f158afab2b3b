import Stencil.Proofs.Compiled
import Stencil.Proofs.Nests

/-!
# What was placed nests

While the pieces are placed, each open block has begun with pieces that the nesting grammar will
want when the block is closed: its tag, and the clauses of it that are finished. The pieces
after that, up to the tag of the next open block, are statements of its current clause. This is
the invariant of the stack; when nothing is open any more, it says that the pieces nest.
-/

namespace Stencil

/-- The named block that is added when an open block is closed. -/
def Gathered.named (gathered : Gathered) (body : List Stmt) : Bodies :=
  match gathered with
  | .block name => [(name, body)]
  | _ => []

/-- There is none for what has no name. -/
theorem Gathered.named_of_nameless {gathered : Gathered}
    (nameless : ∀ name, gathered ≠ .block name) (body : List Stmt) : gathered.named body = [] := by
  unfold named
  split
  · exact absurd rfl (nameless _)
  · rfl

/-- What a tag opens, if it opens a block. -/
def Tag.opens? : Tag → Option Gathered
  | .condition first => some (.condition [] first)
  | .loop head => some (.loop head)
  | .block name => some (.block name)
  | .region head => some (.region head)
  | _ => none

/-- The pieces of an open block up to its current clause, with what was gathered from them and
the named blocks closed among them. -/
inductive Begun : Nat → List Piece → Gathered → Bodies → Nat → Prop where
  | opened {cycles : Nat} {tag : Tag} {span : Span} {gathered : Gathered}
      (opens : tag.opens? = some gathered) : Begun cycles [.tag tag span] gathered [] cycles
  | otherwiseIf {first middle last : Nat} {condition current : Expr} {span : Span}
      {entry inner : List Piece} {clauses : List (Expr × List Stmt)} {body : List Stmt}
      {blocks within : Bodies} (begun : Begun first entry (.condition clauses current) blocks middle)
      (inside : Nests .statements middle inner body within last) :
      Begun first (entry ++ (inner ++ [.tag (.otherwiseIf condition) span]))
        (.condition ((current, body) :: clauses) condition) (blocks ++ within) last
  | otherwise {first middle last : Nat} {current : Expr} {span : Span} {entry inner : List Piece}
      {clauses : List (Expr × List Stmt)} {body : List Stmt} {blocks within : Bodies}
      (begun : Begun first entry (.condition clauses current) blocks middle)
      (inside : Nests .statements middle inner body within last) :
      Begun first (entry ++ (inner ++ [.tag .otherwise span]))
        (.otherwise ((current, body) :: clauses)) (blocks ++ within) last
  | fallback {first middle last : Nat} {loop : Loop} {span : Span} {entry inner : List Piece}
      {body : List Stmt} {blocks within : Bodies}
      (begun : Begun first entry (.loop loop) blocks middle)
      (inside : Nests .statements middle inner body within last) :
      Begun first (entry ++ (inner ++ [.tag .empty span])) (.empty loop body) (blocks ++ within) last

section

variable {first middle after last : Nat} {entry inner tail : List Piece} {gathered : Gathered}
  {body no : List Stmt} {blocks within further : Bodies}

/-- An `if` whose clauses have been read up to the current one nests with the clauses that
follow. The finished clauses lie around what follows, so the induction takes the latest of them
off and gives it to the clauses that follow. -/
theorem Begun.branches {clauses : List (Expr × List Stmt)} {current : Expr}
    (begun : Begun first entry (.condition clauses current) blocks middle)
    (inside : Nests .statements middle inner body within after)
    (otherwise : Nests .alternatives after tail no further last) (closes : Span) :
    Nests .statements first (entry ++ (inner ++ (tail ++ [.tag (.close .condition) closes])))
      (Nesting.branches ((current, body) :: clauses) no) (blocks ++ (within ++ further)) last := by
  generalize isCondition : Gathered.condition clauses current = gathered at begun
  induction begun generalizing clauses current inner body within after tail no further with
  | @opened tag span gathered opens =>
    subst isCondition
    cases tag <;> cases opens
    have whole : Nests .statements first
        (.tag (.condition current) span :: (inner ++ (tail ++ [.tag (.close .condition) closes])))
        [.branch current body no] (within ++ (further ++ [])) last :=
      .condition inside otherwise .nothing
    rwa [List.append_nil] at whole
  | @otherwiseIf _ _ condition _ span entry others _ _ _ _ begun finished inductionHypothesis =>
    cases isCondition
    have clause : Nests .alternatives _ (.tag (.otherwiseIf condition) span :: (inner ++ tail))
        [.branch condition body no] (within ++ further) last := .otherwiseIf inside otherwise
    have whole := inductionHypothesis finished clause rfl
    simpa [List.append_assoc, Nesting.branches] using whole
  | otherwise => cases isCondition
  | fallback => cases isCondition

/-- An open block nests when it is closed. -/
theorem Begun.close (begun : Begun first entry gathered blocks middle)
    (inside : Nests .statements middle inner body within last) (closes : Span) :
    Nests .statements first (entry ++ (inner ++ [.tag (.close gathered.kind) closes]))
      (Nesting.leave gathered body) (blocks ++ (within ++ gathered.named body)) last := by
  cases begun with
  | @opened tag span gathered opens =>
    cases tag with
    | condition condition =>
      cases opens
      exact Begun.branches (.opened rfl) inside .noAlternative closes
    | loop loop =>
      cases opens
      have whole : Nests .statements first
          (.tag (.loop loop) span :: (inner ++ ([] ++ [.tag (.close .loop) closes])))
          [.each loop body []] (within ++ ([] ++ [])) last := .loop inside .noFallback .nothing
      exact whole
    | block name =>
      cases opens
      exact .block inside .nothing
    | region region =>
      cases opens
      have whole : Nests .statements first
          (.tag (.region region) span :: (inner ++ [.tag (.close region.kind) closes]))
          [.within region body] (within ++ []) last := .region inside .nothing
      exact whole
    | otherwiseIf | otherwise | empty | close | inherit | insert | create | cycle | assign =>
      cases opens
  | otherwiseIf begun finished =>
    exact Begun.branches (.otherwiseIf begun finished) inside .noAlternative closes
  | @otherwise _ _ current span entry others clauses body blocks within begun finished =>
    have clause : Nests .alternatives _ (.tag .otherwise span :: inner) _ _ last :=
      .otherwise inside
    have whole := begun.branches finished clause closes
    simpa [List.append_assoc, Gathered.named, Gathered.kind, Nesting.leave] using whole
  | @fallback _ _ loop span entry others body blocks within begun finished =>
    cases begun with
    | @opened tag opening gathered opens =>
      cases tag <;> cases opens
      have clause : Nests .fallback _ (.tag .empty span :: inner) _ _ last := .fallback inside
      have whole : Nests .statements first
          (.tag (.loop loop) opening ::
            (others ++ (.tag .empty span :: inner ++ [.tag (.close .loop) closes]))) _ _ last :=
        .loop finished clause .nothing
      simpa [List.append_assoc, Gathered.named, Gathered.kind, Nesting.leave] using whole

end

namespace Nesting

/-- Adding statements one by one adds them to the innermost open block, or outside of all. -/
theorem addAll_eq (nesting : Nesting) (statements : List Stmt) :
    statements.foldl add nesting = match nesting.opened with
      | [] => { nesting with body := statements.reverse ++ nesting.body }
      | inner :: outer =>
        { nesting with opened := { inner with body := statements.reverse ++ inner.body } :: outer } := by
  induction statements generalizing nesting with
  | nil =>
    obtain ⟨opened, body, blocks, inherits, cycles⟩ := nesting
    cases opened <;> rfl
  | cons statement rest inductionHypothesis =>
    rw [List.foldl_cons, inductionHypothesis]
    cases opened : nesting.opened with
    | nil => simp [add, opened]
    | cons inner outer => simp [add, opened]

/-- Adding statements names no parent. -/
@[simp] theorem inherits_addAll (nesting : Nesting) (statements : List Stmt) :
    (statements.foldl add nesting).inherits = nesting.inherits := by
  rw [addAll_eq]
  split <;> rfl

/-- What was placed with more blocks, with cycle tags up to a number, and with a parent if one
is named. -/
def gain (nesting : Nesting) (blocks : Bodies) (last : Nat) (inherits : Bool) : Nesting :=
  { nesting with
    blocks := nesting.blocks ++ blocks
    cycles := last
    inherits := nesting.inherits || inherits }

/-- A piece that is a statement by itself is placed, unless it names a second parent. -/
theorem place_alone {nesting : Nesting} {piece : Piece} {statement : Stmt}
    (stands : piece.alone? nesting.cycles = some statement) :
    (nesting.inherits && piece.inherits) = false ∧ nesting.place piece =
        .ok ((nesting.gain [] (nesting.cycles + piece.turns) piece.inherits).add statement) ∨
      (nesting.inherits && piece.inherits) = true ∧ ∃ flaw, nesting.place piece = .error flaw := by
  cases piece with
  | text content =>
    cases stands
    left
    simp [place, gain, Piece.turns, Piece.inherits]
  | output value =>
    cases stands
    left
    simp [place, gain, Piece.turns, Piece.inherits]
  | tag tag span =>
    cases tag with
    | inherit target =>
      cases stands
      cases named : nesting.inherits with
      | false =>
        left
        simp [place, placeTag, gain, Piece.turns, Piece.inherits, named]
      | true =>
        right
        exact ⟨rfl, _, by simp only [place, placeTag, named]; rfl⟩
    | insert | create | cycle | assign =>
      cases stands
      left
      simp [place, placeTag, gain, Piece.turns, Piece.inherits]
    | condition | otherwiseIf | otherwise | loop | empty | block | region | close => cases stands

/-- Only a block can be closed that is open, of the kind, and with a name of its own if it has
one. What it leaves is added where it stands. -/
theorem close_eq_ok {nesting after : Nesting} {kind : BlockKind} {span : Span}
    (closed : nesting.close kind span = .ok after) :
    ∃ inner outer, nesting.opened = inner :: outer ∧ inner.gathered.kind = kind ∧
      (∀ name, inner.gathered = .block name → name ∉ nesting.blocks.map Prod.fst) ∧
      after = (leave inner.gathered inner.body.reverse).foldl add
        { nesting with
          opened := outer
          blocks := nesting.blocks ++ inner.gathered.named inner.body.reverse } := by
  unfold close at closed
  split at closed
  · cases closed
  · rename_i inner outer opened
    refine ⟨inner, outer, opened, ?_⟩
    split at closed
    · cases closed
    · rename_i sameKind
      refine ⟨by simpa using sameKind, ?_⟩
      dsimp only at closed
      split at closed
      · rename_i name gathered
        split at closed
        · cases closed
        · rename_i fresh
          cases closed
          rw [gathered]
          refine ⟨?_, rfl⟩
          intro other same
          cases same
          simpa using fresh
      · rename_i gathered unnamed
        cases closed
        rw [Gathered.named_of_nameless unnamed, List.append_nil]
        exact ⟨fun name same => absurd same (unnamed name), rfl⟩

/-- Only a block can go on with another clause that is open and says how. -/
theorem advance_eq_ok {nesting after : Nesting} {word : String} {span : Span}
    {onward : Gathered → List Stmt → Option Gathered}
    (advanced : nesting.advance word span onward = .ok after) :
    ∃ inner outer gathered, nesting.opened = inner :: outer ∧
      onward inner.gathered inner.body.reverse = some gathered ∧
      after = { nesting with opened := ⟨gathered, inner.span, []⟩ :: outer } := by
  unfold advance at advanced
  split at advanced
  · cases advanced
  · rename_i inner outer opened
    split at advanced
    · rename_i gathered found
      cases advanced
      exact ⟨inner, outer, gathered, opened, found, rfl⟩
    · cases advanced

end Nesting

/-- The pieces placed so far: outside of all blocks they nest, and so do those of each open
block in its current clause, behind those that it has begun with. -/
inductive Stacked : List Piece → List OpenBlock → List Stmt → Bodies → Nat → Prop where
  | outside {pieces : List Piece} {body : List Stmt} {blocks : Bodies} {last : Nat}
      (nests : Nests .statements 0 pieces body blocks last) :
      Stacked pieces [] body.reverse blocks last
  | within {first middle last : Nat} {before entry inner : List Piece} {gathered : Gathered}
      {span : Span} {opened : List OpenBlock} {base body : List Stmt}
      {blocks closed within : Bodies} (outer : Stacked before opened base blocks first)
      (begun : Begun first entry gathered closed middle)
      (inside : Nests .statements middle inner body within last) :
      Stacked (before ++ (entry ++ inner)) (⟨gathered, span, body.reverse⟩ :: opened) base
        (blocks ++ (closed ++ within)) last

/-- What was placed is what the stack says. No two named blocks that were closed have one name,
and at most one parent was named. -/
structure Placed (pieces : List Piece) (nesting : Nesting) : Prop where
  stacked : Stacked pieces nesting.opened nesting.body nesting.blocks nesting.cycles
  distinct : (nesting.blocks.map Prod.fst).Nodup
  parents : Piece.parents pieces = if nesting.inherits then 1 else 0

section

variable {pieces more : List Piece} {nesting after : Nesting} {statements : List Stmt}
  {blocks : Bodies} {last : Nat}

/-- Statements are added where the last pieces stand. -/
theorem Stacked.add (nesting : Nesting)
    (stacked : Stacked pieces nesting.opened nesting.body nesting.blocks nesting.cycles)
    (nests : Nests .statements nesting.cycles more statements blocks last) (inherits : Bool)
    (isAfter : after = statements.foldl Nesting.add (nesting.gain blocks last inherits)) :
    Stacked (pieces ++ more) after.opened after.body after.blocks after.cycles := by
  subst isAfter
  rw [Nesting.addAll_eq]
  obtain ⟨opened, body, closed, _, cycles⟩ := nesting
  cases stacked with
  | outside before =>
    have whole := Stacked.outside (before.append nests)
    rwa [List.reverse_append] at whole
  | @within _ _ _ _ _ _ _ span _ _ _ _ _ _ outer begun inside =>
    have whole : Stacked _ (⟨_, span, _⟩ :: _) _ _ _ := .within outer begun (inside.append nests)
    simpa [Nesting.gain, List.append_assoc] using whole

/-- A block may be opened. -/
theorem Stacked.enter
    (stacked : Stacked pieces nesting.opened nesting.body nesting.blocks nesting.cycles)
    {tag : Tag} {gathered : Gathered} (opens : tag.opens? = some gathered) (span : Span) :
    Stacked (pieces ++ [.tag tag span]) (⟨gathered, span, []⟩ :: nesting.opened) nesting.body
      nesting.blocks nesting.cycles := by
  have whole : Stacked (pieces ++ ([.tag tag span] ++ [])) (⟨gathered, span, [].reverse⟩ :: _)
      nesting.body (nesting.blocks ++ ([] ++ [])) nesting.cycles :=
    .within stacked (.opened opens) .nothing
  simpa using whole

/-- Pieces without parents among them add none. -/
theorem parents_single {piece : Piece} (other : piece.inherits = false)
    (counted : Piece.parents pieces = if nesting.inherits then 1 else 0) :
    Piece.parents (pieces ++ [piece]) = if nesting.inherits then 1 else 0 := by
  rw [Piece.parents_append, counted]
  simp [Piece.parents, other]

/-- A piece that is a statement by itself may be placed. -/
theorem Placed.alone {piece : Piece} {statement : Stmt} (placed : Placed pieces nesting)
    (stands : piece.alone? nesting.cycles = some statement)
    (next : nesting.place piece = .ok after) : Placed (pieces ++ [piece]) after := by
  rcases Nesting.place_alone stands with ⟨allowed, same⟩ | ⟨_, flaw, flawed⟩
  · rw [same] at next
    cases next
    have nests : Nests .statements nesting.cycles [piece] [statement] []
        (nesting.cycles + piece.turns) := .alone stands .nothing
    refine ⟨Stacked.add nesting placed.stacked nests piece.inherits rfl, ?_, ?_⟩
    · rw [Nesting.blocks_add, Nesting.gain, List.append_nil]
      exact placed.distinct
    · have same : (Nesting.add (nesting.gain [] (nesting.cycles + piece.turns) piece.inherits)
          statement).inherits = (nesting.inherits || piece.inherits) :=
        Nesting.inherits_addAll _ [statement]
      rw [same, Piece.parents_append, placed.parents]
      cases named : nesting.inherits <;> cases names : piece.inherits
      · simp [Piece.parents, names]
      · simp [Piece.parents, names]
      · simp [Piece.parents, names]
      · simp [named, names] at allowed
  · rw [flawed] at next
    cases next

/-- The innermost open block may be closed by its end tag. -/
theorem Placed.close {kind : BlockKind} {span : Span} (placed : Placed pieces nesting)
    (next : nesting.close kind span = .ok after) :
    Placed (pieces ++ [.tag (.close kind) span]) after := by
  obtain ⟨inner, outer, opened, rfl, fresh, isAfter⟩ := Nesting.close_eq_ok next
  obtain ⟨stacked, distinct, parents⟩ := placed
  refine ⟨?_, ?_, ?_⟩
  · obtain ⟨_, base, blocks, inherits, last⟩ := nesting
    cases opened
    cases stacked with
    | @within first _ _ _ _ _ _ _ _ _ body blocks _ _ stacked begun inside =>
      rw [List.reverse_reverse] at isAfter
      have whole : Stacked _ after.opened after.body after.blocks after.cycles :=
        Stacked.add ⟨outer, base, blocks, inherits, first⟩ stacked (begun.close inside span) false
          (isAfter.trans (by simp [Nesting.gain, List.append_assoc]))
      simpa [List.append_assoc] using whole
  · rw [isAfter, Nesting.blocks_addAll, List.map_append]
    unfold Gathered.named
    split
    · rename_i name named
      apply List.nodup_append.mpr
      refine ⟨distinct, List.pairwise_singleton _ _, ?_⟩
      intro found member other isName
      rw [List.mem_singleton.mp isName]
      rintro rfl
      exact fresh _ named member
    · rwa [List.map_nil, List.append_nil]
  · rw [isAfter, Nesting.inherits_addAll]
    exact parents_single rfl parents

/-- The innermost open block may go on with another clause. -/
theorem Placed.advance {tag : Tag} {word : String} {span : Span}
    {onward : Gathered → List Stmt → Option Gathered} (placed : Placed pieces nesting)
    (begins : ∀ {first middle last : Nat} {entry inner : List Piece} {gathered next : Gathered}
      {body : List Stmt} {closed within : Bodies}, Begun first entry gathered closed middle →
        Nests .statements middle inner body within last → onward gathered body = some next →
          Begun first (entry ++ (inner ++ [.tag tag span])) next (closed ++ within) last)
    (other : (Piece.tag tag span).inherits = false)
    (next : nesting.advance word span onward = .ok after) :
    Placed (pieces ++ [.tag tag span]) after := by
  obtain ⟨inner, outer, gathered, opened, found, rfl⟩ := Nesting.advance_eq_ok next
  obtain ⟨stacked, distinct, parents⟩ := placed
  refine ⟨?_, distinct, parents_single other parents⟩
  obtain ⟨_, base, blocks, inherits, last⟩ := nesting
  cases opened
  cases stacked with
  | @within _ _ _ _ _ _ _ opening _ _ _ _ _ _ stacked begun inside =>
    rw [List.reverse_reverse] at found
    have whole : Stacked _ (⟨gathered, opening, [].reverse⟩ :: _) _ _ _ :=
      .within stacked (begins begun inside found) .nothing
    simpa [List.append_assoc] using whole

/-- Whatever piece is placed, what the stack says goes on. -/
theorem Placed.place {piece : Piece} (placed : Placed pieces nesting)
    (next : nesting.place piece = .ok after) : Placed (pieces ++ [piece]) after := by
  cases stands : piece.alone? nesting.cycles with
  | some statement => exact placed.alone stands next
  | none =>
    cases piece with
    | text | output => cases stands
    | tag tag span =>
      cases tag with
      | condition | loop | block | region =>
        cases next
        exact ⟨placed.stacked.enter rfl span, placed.distinct, parents_single rfl placed.parents⟩
      | otherwiseIf condition =>
        simp only [Nesting.place, Nesting.placeTag] at next
        refine placed.advance ?_ rfl next
        intro _ _ _ _ _ gathered _ _ _ _ begun inside found
        cases gathered <;> cases found
        exact .otherwiseIf begun inside
      | otherwise =>
        simp only [Nesting.place, Nesting.placeTag] at next
        refine placed.advance ?_ rfl next
        intro _ _ _ _ _ gathered _ _ _ _ begun inside found
        cases gathered <;> cases found
        exact .otherwise begun inside
      | empty =>
        simp only [Nesting.place, Nesting.placeTag] at next
        refine placed.advance ?_ rfl next
        intro _ _ _ _ _ gathered _ _ _ _ begun inside found
        cases gathered <;> cases found
        exact .fallback begun inside
      | close kind => exact placed.close next
      | inherit | insert | create | cycle | assign => cases stands

/-- So it does however many pieces are placed. -/
theorem Placed.placeAll (placed : Placed pieces nesting)
    (next : more.foldlM Nesting.place nesting = .ok after) : Placed (pieces ++ more) after := by
  induction more generalizing pieces nesting with
  | nil =>
    cases next
    rwa [List.append_nil]
  | cons piece rest inductionHypothesis =>
    rw [List.foldlM_cons] at next
    cases taken : nesting.place piece with
    | error flaw =>
      rw [taken] at next
      cases next
    | ok middle =>
      rw [taken] at next
      have whole := inductionHypothesis (placed.place taken) next
      rwa [List.append_assoc, List.singleton_append] at whole

end

/-- If no block is open, the pieces nest. -/
theorem Stacked.nests {pieces : List Piece} {base : List Stmt} {blocks : Bodies} {last : Nat}
    (stacked : Stacked pieces [] base blocks last) :
    Nests .statements 0 pieces base.reverse blocks last := by
  cases stacked with
  | outside nests => rwa [List.reverse_reverse]

/-- Before anything is placed the stack says nothing. -/
theorem placed_empty : Placed [] Nesting.empty where
  stacked := Stacked.outside .nothing
  distinct := .nil
  parents := rfl

/-- Pieces that are nested without a flaw nest, the names of their blocks differ, and they name
one parent at most. -/
theorem Nests.of_ofPieces {pieces : List Piece} {nesting : Nesting}
    (nested : Nesting.ofPieces pieces none = .ok nesting) :
    Nests .statements 0 pieces nesting.body.reverse nesting.blocks nesting.cycles ∧
      (Piece.blockNames pieces).Nodup ∧
      Piece.parents pieces = if nesting.inherits then 1 else 0 := by
  unfold Nesting.ofPieces at nested
  cases placing : pieces.foldlM Nesting.place .empty with
  | error flaw =>
    rw [placing] at nested
    cases nested
  | ok last =>
    rw [placing] at nested
    have placed : Placed pieces last := placed_empty.placeAll placing
    have finished : last.finish = .ok nesting := nested
    unfold Nesting.finish at finished
    split at finished
    · cases finished
    · rename_i outermost
      cases finished
      obtain ⟨stacked, distinct, parents⟩ := placed
      rw [List.getLast?_eq_none_iff.mp outermost] at stacked
      have nests := stacked.nests
      exact ⟨nests, nests.blockNames_perm.nodup_iff.mp distinct, parents⟩

end Stencil
