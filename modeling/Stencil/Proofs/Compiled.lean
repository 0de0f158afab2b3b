import Stencil.Proofs.Wording
import Stencil.Template.Compile

/-!
# Compiled templates are closed

A template is closed if every reference to a block in it is to a block that it
defines. The references that were placed while pieces are nested are to blocks
whose end tags were placed, or are added together with the block; so at the end
there is no other reference, and what is compiled is closed.
-/

namespace Stencil

/-- A wording that restricts nothing but the blocks that are referred to. -/
def Wording.referring (defines : String → Bool) : Wording where
  text := fun _ => true
  value := fun _ => true
  pattern := fun _ => true
  block := defines
  inherit := true

/-- Every reference to a block is to one that the template defines. -/
def Template.Closed (template : Template) : Prop :=
  template.obeys (Wording.referring fun name => (template.block? name).isSome) = true

variable {defines more : String → Bool}

/-- All expressions may stand in such a wording. -/
@[simp] theorem Wording.referring_value (expression : Expr) :
    (Wording.referring defines).value expression = true := rfl

/-- So may all patterns. -/
@[simp] theorem Wording.referring_pattern (expression : Expr) :
    (Wording.referring defines).pattern expression = true := rfl

/-- The head of a region refers to no block. -/
@[simp] theorem Region.obeys_referring (region : Region) :
    region.obeys (Wording.referring defines) = true := by
  cases region with
  | range name first last down step => cases step <;> simp [Region.obeys]
  | _ => simp [Region.obeys]

mutual

/-- What refers to some blocks only refers to no others if there are more. -/
theorem Stmt.obeys_referring_weaken (larger : ∀ name, defines name = true → more name = true)
    (statement : Stmt) (obeyed : statement.obeys (Wording.referring defines) = true) :
    statement.obeys (Wording.referring more) = true := by
  cases statement with
  | branch condition yes no =>
    simp only [Stmt.obeys, Bool.and_eq_true] at obeyed ⊢
    obtain ⟨⟨_, yesObeyed⟩, noObeyed⟩ := obeyed
    exact ⟨⟨rfl, allObey_referring_weaken larger yes yesObeyed⟩,
      allObey_referring_weaken larger no noObeyed⟩
  | each loop body empty =>
    simp only [Stmt.obeys, Bool.and_eq_true] at obeyed ⊢
    obtain ⟨⟨_, bodyObeyed⟩, emptyObeyed⟩ := obeyed
    exact ⟨⟨rfl, allObey_referring_weaken larger body bodyObeyed⟩,
      allObey_referring_weaken larger empty emptyObeyed⟩
  | within region body =>
    simp only [Stmt.obeys, Bool.and_eq_true] at obeyed ⊢
    exact ⟨Region.obeys_referring region, allObey_referring_weaken larger body obeyed.2⟩
  | block name => exact larger name obeyed
  | text content => rfl
  | output value => rfl
  | inherit target span => rfl
  | insert target bindings span => simp [Stmt.obeys]
  | create target template span => rfl
  | cycle number first others => simp [Stmt.obeys]
  | assign binding => rfl
termination_by structural statement

/-- The same for all statements of a list. -/
theorem allObey_referring_weaken (larger : ∀ name, defines name = true → more name = true)
    (statements : List Stmt) (obeyed : allObey (Wording.referring defines) statements = true) :
    allObey (Wording.referring more) statements = true := by
  cases statements with
  | nil => rfl
  | cons statement rest =>
    obtain ⟨headObeyed, restObeyed⟩ := Bool.and_eq_true_iff.mp obeyed
    exact Bool.and_eq_true_iff.mpr ⟨Stmt.obeys_referring_weaken larger statement headObeyed,
      allObey_referring_weaken larger rest restObeyed⟩
termination_by structural statements

end

/-- The order of statements does not matter. -/
@[simp] theorem allObey_reverse (wording : Wording) (statements : List Stmt) :
    allObey wording statements.reverse = allObey wording statements := by
  rw [Bool.eq_iff_iff, allObey_iff, allObey_iff]
  constructor
  · intro all statement member
    exact all statement (List.mem_reverse.mpr member)
  · intro all statement member
    exact all statement (List.mem_reverse.mp member)

/-- What an open block has gathered refers to the given blocks only. -/
def Gathered.Refers (defines : String → Bool) : Gathered → Prop
  | condition clauses _ => ∀ clause ∈ clauses, allObey (Wording.referring defines) clause.2 = true
  | otherwise clauses => ∀ clause ∈ clauses, allObey (Wording.referring defines) clause.2 = true
  | loop _ => True
  | empty _ body => allObey (Wording.referring defines) body = true
  | block _ => True
  | region _ => True

namespace Nesting

/-- All that was built so far refers to the given blocks only. -/
structure Refers (defines : String → Bool) (nesting : Nesting) : Prop where
  body : allObey (Wording.referring defines) nesting.body = true
  blocks : ∀ block ∈ nesting.blocks, allObey (Wording.referring defines) block.2 = true
  gathered : ∀ inner ∈ nesting.opened, inner.gathered.Refers defines
  current : ∀ inner ∈ nesting.opened, allObey (Wording.referring defines) inner.body = true

/-- A block of the name was closed. -/
def hasClosed (nesting : Nesting) (name : String) : Bool := (nesting.blocks.lookup name).isSome

/-- All that was built so far refers only to blocks that were closed. -/
def Closed (nesting : Nesting) : Prop := nesting.Refers nesting.hasClosed

/-- With more blocks to refer to nothing gets wrong. -/
theorem Refers.weaken {nesting : Nesting} (refers : nesting.Refers defines)
    (larger : ∀ name, defines name = true → more name = true) : nesting.Refers more where
  body := allObey_referring_weaken larger _ refers.body
  blocks := fun block member => allObey_referring_weaken larger _ (refers.blocks block member)
  gathered := by
    intro inner member
    have before := refers.gathered inner member
    cases gathered : inner.gathered with
    | condition clauses current =>
      rw [gathered] at before
      exact fun clause among => allObey_referring_weaken larger _ (before clause among)
    | otherwise clauses =>
      rw [gathered] at before
      exact fun clause among => allObey_referring_weaken larger _ (before clause among)
    | empty loop body =>
      rw [gathered] at before
      exact allObey_referring_weaken larger _ before
    | loop loop => trivial
    | block name => trivial
    | region region => trivial
  current := fun inner member => allObey_referring_weaken larger _ (refers.current inner member)

variable {nesting next : Nesting}

/-- A statement may be added that refers to such blocks only. -/
theorem Refers.add (refers : nesting.Refers defines) {statement : Stmt}
    (obeyed : statement.obeys (Wording.referring defines) = true) :
    (nesting.add statement).Refers defines := by
  rw [Nesting.add]
  split
  · refine ⟨?_, refers.blocks, refers.gathered, refers.current⟩
    exact Bool.and_eq_true_iff.mpr ⟨obeyed, refers.body⟩
  · rename_i inner outer opened
    refine ⟨refers.body, refers.blocks, ?_, ?_⟩
    · intro other member
      rcases List.mem_cons.mp member with rfl | among
      · exact refers.gathered inner (by simp [opened])
      · exact refers.gathered other (by simp [opened, among])
    · intro other member
      rcases List.mem_cons.mp member with rfl | among
      · exact Bool.and_eq_true_iff.mpr ⟨obeyed, refers.current inner (by simp [opened])⟩
      · exact refers.current other (by simp [opened, among])

/-- So may several. -/
theorem Refers.addAll (refers : nesting.Refers defines) (statements : List Stmt)
    (obeyed : allObey (Wording.referring defines) statements = true) :
    (statements.foldl Nesting.add nesting).Refers defines := by
  induction statements generalizing nesting with
  | nil => exact refers
  | cons statement rest inductionHypothesis =>
    obtain ⟨headObeyed, restObeyed⟩ := Bool.and_eq_true_iff.mp obeyed
    exact inductionHypothesis (refers.add headObeyed) restObeyed

/-- A block may be opened with nothing in it. -/
theorem Refers.enter (refers : nesting.Refers defines) {gathered : Gathered}
    (isFine : gathered.Refers defines) (span : Span) :
    (nesting.enter gathered span).Refers defines := by
  refine ⟨refers.body, refers.blocks, ?_, ?_⟩
  · intro other member
    rcases List.mem_cons.mp member with rfl | among
    · exact isFine
    · exact refers.gathered other among
  · intro other member
    rcases List.mem_cons.mp member with rfl | among
    · rfl
    · exact refers.current other among

/-- Clauses around a last alternative refer to what they referred to. -/
theorem branches_refers (clauses : List (Expr × List Stmt)) (last : List Stmt)
    (all : ∀ clause ∈ clauses, allObey (Wording.referring defines) clause.2 = true)
    (obeyed : allObey (Wording.referring defines) last = true) :
    allObey (Wording.referring defines) (branches clauses last) = true := by
  induction clauses generalizing last with
  | nil => exact obeyed
  | cons clause rest inductionHypothesis =>
    have branch : allObey (Wording.referring defines) [.branch clause.1 clause.2 last] = true := by
      have own := all clause (by simp)
      simp [allObey, Stmt.obeys, own, obeyed]
    exact inductionHypothesis _ (fun other member => all other (by simp [member])) branch

/-- What a closed block leaves refers to what the block referred to, if that is not a
name of its own. -/
theorem leave_refers {gathered : Gathered} {body : List Stmt} (isFine : gathered.Refers defines)
    (obeyed : allObey (Wording.referring defines) body = true)
    (unnamed : ∀ name, gathered ≠ .block name) :
    allObey (Wording.referring defines) (leave gathered body) = true := by
  cases gathered with
  | condition clauses current =>
    refine branches_refers _ [] ?_ rfl
    intro clause member
    rcases List.mem_cons.mp member with rfl | among
    · exact obeyed
    · exact isFine clause among
  | otherwise clauses => exact branches_refers clauses body isFine obeyed
  | loop loop => simp [leave, allObey, Stmt.obeys, obeyed]
  | empty loop main =>
    have mainObeyed : allObey (Wording.referring defines) main = true := isFine
    simp [leave, allObey, Stmt.obeys, obeyed, mainObeyed]
  | block name => exact absurd rfl (unnamed name)
  | region region => simp [leave, allObey, Stmt.obeys, obeyed]

/-- Adding a statement closes no named block. -/
@[simp] theorem blocks_add (statement : Stmt) :
    (nesting.add statement).blocks = nesting.blocks := by
  rw [Nesting.add]
  split <;> rfl

/-- Nor does adding several. -/
@[simp] theorem blocks_addAll (statements : List Stmt) :
    (statements.foldl Nesting.add nesting).blocks = nesting.blocks := by
  induction statements generalizing nesting with
  | nil => rfl
  | cons statement rest inductionHypothesis =>
    rw [List.foldl_cons, inductionHypothesis, blocks_add]

/-- Statements that refer to closed blocks may be added. -/
theorem Closed.addAll (closed : nesting.Closed) (statements : List Stmt)
    (obeyed : allObey (Wording.referring nesting.hasClosed) statements = true) :
    (statements.foldl Nesting.add nesting).Closed := by
  unfold Closed hasClosed
  rw [blocks_addAll]
  exact Refers.addAll closed statements obeyed

/-- A statement without blocks may be added. -/
theorem Closed.add (closed : nesting.Closed) {statement : Stmt}
    (obeyed : statement.obeys (Wording.referring nesting.hasClosed) = true) :
    (nesting.add statement).Closed :=
  closed.addAll [statement] (by simp [allObey, obeyed])

/-- A block may be opened. -/
theorem Closed.enter (closed : nesting.Closed) {gathered : Gathered}
    (isFine : gathered.Refers nesting.hasClosed) (span : Span) :
    (nesting.enter gathered span).Closed :=
  Refers.enter closed isFine span

/-- The end of a named block defines it, and refers to it. -/
theorem Closed.name (closed : nesting.Closed) (name : String) (body : List Stmt)
    (obeyed : allObey (Wording.referring nesting.hasClosed) body = true) :
    ({ nesting with blocks := nesting.blocks ++ [(name, body)] }.add (.block name)).Closed := by
  have larger : ∀ other, nesting.hasClosed other = true →
      ((nesting.blocks ++ [(name, body)]).lookup other).isSome = true := by
    intro other defined
    have before : (nesting.blocks.lookup other).isSome = true := defined
    rw [List.lookup_append, Option.isSome_or, before, Bool.true_or]
  have defined : ((nesting.blocks ++ [(name, body)]).lookup name).isSome = true := by
    rw [List.lookup_append, Option.isSome_or]
    simp
  have defining :
      ({ nesting with blocks := nesting.blocks ++ [(name, body)] } : Nesting).Closed := by
    have earlier := Refers.weaken closed larger
    refine ⟨earlier.body, ?_, earlier.gathered, earlier.current⟩
    intro block member
    rcases List.mem_append.mp member with before | isNew
    · exact earlier.blocks block before
    · have same : block = (name, body) := by simpa using isNew
      subst same
      exact allObey_referring_weaken larger _ obeyed
  exact Closed.add defining defined

/-- So are what was gathered in the innermost tag, and the statements of its clause. -/
theorem Closed.innermost (closed : nesting.Closed) {inner : OpenBlock} {outer : List OpenBlock}
    (opened : nesting.opened = inner :: outer) :
    inner.gathered.Refers nesting.hasClosed ∧
      allObey (Wording.referring nesting.hasClosed) inner.body.reverse = true := by
  have isOpen : inner ∈ nesting.opened := opened ▸ List.mem_cons_self
  refine ⟨closed.gathered inner isOpen, ?_⟩
  rw [allObey_reverse]
  exact closed.current inner isOpen

/-- The end of a block keeps what was built closed. -/
theorem Closed.close (closed : nesting.Closed) {kind : BlockKind} {span : Span}
    (placed : nesting.close kind span = .ok next) : next.Closed := by
  unfold Nesting.close at placed
  cases opened : nesting.opened with
  | nil =>
    rw [opened] at placed
    cases placed
  | cons inner outer =>
    obtain ⟨isFine, current⟩ := closed.innermost opened
    have left : ({ nesting with opened := outer } : Nesting).Closed :=
      ⟨closed.body, closed.blocks,
        fun other member => closed.gathered other (by simp [opened, member]),
        fun other member => closed.current other (by simp [opened, member])⟩
    rw [opened] at placed
    simp only [] at placed
    split at placed
    · cases placed
    · split at placed
      · rename_i name named
        split at placed
        · cases placed
        · cases placed
          exact left.name name inner.body.reverse current
      · rename_i unnamed
        cases placed
        exact left.addAll _ (leave_refers isFine current fun name same => unnamed name same)

/-- A new clause keeps what was built closed, if it holds what was there before. -/
theorem Closed.advance (closed : nesting.Closed) {word : String} {span : Span}
    {onward : Gathered → List Stmt → Option Gathered}
    (keeps : ∀ gathered body more, onward gathered body = some more →
      gathered.Refers nesting.hasClosed →
      allObey (Wording.referring nesting.hasClosed) body = true →
      more.Refers nesting.hasClosed)
    (placed : nesting.advance word span onward = .ok next) : next.Closed := by
  unfold Nesting.advance at placed
  cases opened : nesting.opened with
  | nil =>
    rw [opened] at placed
    cases placed
  | cons inner outer =>
    obtain ⟨isFine, current⟩ := closed.innermost opened
    rw [opened] at placed
    simp only [] at placed
    split at placed
    · rename_i gathered going
      cases placed
      refine ⟨closed.body, closed.blocks, ?_, ?_⟩
      · intro other member
        rcases List.mem_cons.mp member with rfl | among
        · exact keeps inner.gathered _ gathered going isFine current
        · exact closed.gathered other (by simp [opened, among])
      · intro other member
        rcases List.mem_cons.mp member with rfl | among
        · rfl
        · exact closed.current other (by simp [opened, among])
    · cases placed

/-- A tag keeps what was built closed. -/
theorem Closed.placeTag (closed : nesting.Closed) {tag : Tag} {span : Span}
    (placed : nesting.placeTag tag span = .ok next) : next.Closed := by
  cases tag with
  | condition condition =>
    cases placed
    refine closed.enter ?_ span
    exact fun clause impossible => nomatch impossible
  | loop loop =>
    cases placed
    refine closed.enter ?_ span
    trivial
  | block name =>
    cases placed
    refine closed.enter ?_ span
    trivial
  | region region =>
    cases placed
    refine closed.enter ?_ span
    trivial
  | otherwiseIf condition =>
    simp only [Nesting.placeTag] at placed
    refine closed.advance ?_ placed
    intro gathered body more going isFine current
    split at going
    · cases going
      intro clause member
      rcases List.mem_cons.mp member with rfl | among
      · exact current
      · exact isFine clause among
    · cases going
  | otherwise =>
    simp only [Nesting.placeTag] at placed
    refine closed.advance ?_ placed
    intro gathered body more going isFine current
    split at going
    · cases going
      intro clause member
      rcases List.mem_cons.mp member with rfl | among
      · exact current
      · exact isFine clause among
    · cases going
  | empty =>
    simp only [Nesting.placeTag] at placed
    refine closed.advance ?_ placed
    intro gathered body more going _ current
    split at going
    · cases going
      exact current
    · cases going
  | close kind => exact closed.close placed
  | inherit target =>
    simp only [Nesting.placeTag] at placed
    split at placed
    · cases placed
    · cases placed
      have inheriting : ({ nesting with inherits := true } : Nesting).Closed :=
        ⟨closed.body, closed.blocks, closed.gathered, closed.current⟩
      exact inheriting.add rfl
  | insert target bindings =>
    cases placed
    exact closed.add (by simp [Stmt.obeys])
  | create target template =>
    cases placed
    exact closed.add rfl
  | cycle first others =>
    cases placed
    have counted : ({ nesting with cycles := nesting.cycles + 1 } : Nesting).Closed :=
      ⟨closed.body, closed.blocks, closed.gathered, closed.current⟩
    exact counted.add (by simp [Stmt.obeys])
  | assign binding =>
    cases placed
    exact closed.add rfl

/-- So does every piece. -/
theorem Closed.place (closed : nesting.Closed) {piece : Piece}
    (placed : nesting.place piece = .ok next) : next.Closed := by
  cases piece with
  | text content =>
    cases placed
    exact closed.add rfl
  | output value =>
    cases placed
    exact closed.add rfl
  | tag tag span => exact closed.placeTag placed

/-- All pieces together do. -/
theorem Closed.placeAll (closed : nesting.Closed) (pieces : List Piece)
    (placed : pieces.foldlM Nesting.place nesting = .ok next) : next.Closed := by
  induction pieces generalizing nesting with
  | nil =>
    cases placed
    exact closed
  | cons piece rest inductionHypothesis =>
    rw [List.foldlM_cons] at placed
    cases first : nesting.place piece with
    | error flaw =>
      rw [first] at placed
      cases placed
    | ok middle =>
      rw [first] at placed
      exact inductionHypothesis (closed.place first) placed

/-- What is nested refers only to blocks that were closed. -/
theorem closed_of_ofPieces {pieces : List Piece} {flaw : Option Flaw}
    (nested : ofPieces pieces flaw = .ok next) : next.Closed := by
  have empty : Nesting.empty.Closed :=
    ⟨rfl, fun _ impossible => (nomatch impossible), fun _ impossible => (nomatch impossible),
      fun _ impossible => (nomatch impossible)⟩
  unfold ofPieces at nested
  cases placed : pieces.foldlM Nesting.place Nesting.empty with
  | error found =>
    rw [placed] at nested
    cases nested
  | ok nesting =>
    rw [placed] at nested
    cases flaw with
    | some found => cases nested
    | none =>
      have finished : nesting.finish = .ok next := nested
      unfold finish at finished
      split at finished
      · cases finished
      · cases finished
        exact empty.placeAll pieces placed

end Nesting

/-- A template that was compiled is closed. -/
theorem Template.closed_of_compile {arity? : String → Option Arity} {name : Option String}
    {source : String} {template : Template}
    (compiled : Template.compile arity? name source = .ok template) : template.Closed := by
  obtain ⟨nesting, nested, rfl⟩ := nesting_of_compile compiled
  have closed := Nesting.closed_of_ofPieces nested
  refine Bool.and_eq_true_iff.mpr ⟨?_, List.all_eq_true.mpr closed.blocks⟩
  rw [allObey_reverse]
  exact closed.body

end Stencil
