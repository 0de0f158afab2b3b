import Mathlib
import Stencil.Proofs.Nests.Completeness
import Stencil.Proofs.Sessions
import Stencil.Proofs.Spelt.Pieces

/-!
# Walking a compiled template

A walk goes through the statements in order, and into the body of a named block where the block
stands. It meets what the pieces of the template say, each once and in the order of the source:
its texts, its expressions, and the tags that are not merely ends of clauses.
-/

namespace Stencil

/-- What a walk meets. -/
inductive Content where
  | text (content : String)
  | output (value : Expr)
  | tag (tag : Tag)
  deriving Repr

/-- What a piece says. The clause of an `elif` is an `if` inside of the one before it. The tags
that only end a clause say nothing. -/
def Piece.content? : Piece → Option Content
  | .text content => some (.text content)
  | .output value => some (.output value)
  | .tag (.otherwiseIf condition) _ => some (.tag (.condition condition))
  | .tag .otherwise _ => none
  | .tag .empty _ => none
  | .tag (.close _) _ => none
  | .tag other _ => some (.tag other)

/-- What the pieces say. -/
def Piece.contents (pieces : List Piece) : List Content := pieces.filterMap content?

/-- What one piece says comes before what the others say. -/
@[simp] theorem Piece.contents_cons (piece : Piece) (rest : List Piece) :
    contents (piece :: rest) = piece.content?.toList ++ contents rest := by
  rw [contents, List.filterMap_cons]
  cases piece.content? <;> rfl

/-- What both parts say. -/
@[simp] theorem Piece.contents_append (first second : List Piece) :
    contents (first ++ second) = contents first ++ contents second :=
  List.filterMap_append

mutual

/-- What a walk meets in a statement, given what it meets in named blocks. -/
def Stmt.contents (enter : String → List Content) : Stmt → List Content
  | .text content => [.text content]
  | .output value => [.output value]
  | .branch condition yes no =>
    .tag (.condition condition) :: (allContents enter yes ++ allContents enter no)
  | .each loop body empty =>
    .tag (.loop loop) :: (allContents enter body ++ allContents enter empty)
  | .within region body => .tag (.region region) :: allContents enter body
  | .block name => .tag (.block name) :: enter name
  | .inherit target _ => [.tag (.inherit target)]
  | .insert target bindings _ => [.tag (.insert target bindings)]
  | .create target template _ => [.tag (.create target template)]
  | .cycle _ first others => [.tag (.cycle first others)]
  | .assign binding => [.tag (.assign binding)]
termination_by structural statement => statement

/-- What it meets in statements one after the other. -/
def allContents (enter : String → List Content) : List Stmt → List Content
  | [] => []
  | statement :: rest => statement.contents enter ++ allContents enter rest
termination_by structural statements => statements

end

/-- What a walk meets in a named block, and in the blocks that stand in it, down to a depth. -/
def Bodies.walk (bodies : Bodies) : Nat → String → List Content
  | 0, _ => []
  | depth + 1, name => allContents (walk bodies depth) ((bodies.lookup name).getD [])

/-- What a walk of the template meets that goes into blocks down to a depth. -/
def Template.walk (depth : Nat) (template : Template) : List Content :=
  allContents (Bodies.walk template.blocks depth) template.body

/-- A piece that is a statement by itself says what a walk meets in it. -/
theorem contents_of_alone {piece : Piece} {cycles : Nat} {statement : Stmt}
    {enter : String → List Content} (stands : piece.alone? cycles = some statement) :
    statement.contents enter = piece.content?.toList := by
  unfold Piece.alone? at stands
  split at stands <;> cases stands <;> rfl

/-- A walk of what nests meets what the pieces say. A block holds fewer blocks than those that are
closed up to its own end, so there is always depth left to go into it. -/
theorem Nests.contents_eq {bodies : Bodies} {phrase : Phrase} {first last : Nat}
    {pieces : List Piece} {statements : List Stmt} {blocks : Bodies}
    (nests : Nests phrase first pieces statements blocks last)
    (found : ∀ block ∈ blocks, bodies.lookup block.1 = some block.2) (depth : Nat)
    (enough : blocks.length ≤ depth) :
    allContents (bodies.walk depth) statements = Piece.contents pieces := by
  induction nests generalizing depth with
  | nothing | noFallback | noAlternative => rfl
  | alone stands rest inductionHypothesis =>
    rw [allContents, contents_of_alone stands, inductionHypothesis found depth enough,
      Piece.contents_cons]
  | region inside rest insideMeets restMeets =>
    rw [List.forall_mem_append] at found
    rw [List.length_append] at enough
    simp [allContents, Stmt.contents, Piece.content?, insideMeets found.1 depth (by omega),
      restMeets found.2 depth (by omega)]
  | @block _ _ _ name _ _ inner _ _ _ _ _ inside rest insideMeets restMeets =>
    rw [List.forall_mem_append, List.forall_mem_cons] at found
    rw [List.length_append, List.length_cons] at enough
    obtain ⟨depth, rfl⟩ : ∃ fewer, depth = fewer + 1 := ⟨depth - 1, by omega⟩
    have entered : bodies.walk (depth + 1) name = Piece.contents inner := by
      rw [Bodies.walk, found.2.1, Option.getD_some]
      exact insideMeets found.1 depth (by omega)
    simp [allContents, Stmt.contents, Piece.content?, entered,
      restMeets found.2.2 (depth + 1) (by omega)]
  | loop inside otherwise rest insideMeets otherwiseMeets restMeets
  | condition inside otherwise rest insideMeets otherwiseMeets restMeets =>
    rw [List.forall_mem_append, List.forall_mem_append] at found
    rw [List.length_append, List.length_append] at enough
    simp [allContents, Stmt.contents, Piece.content?, insideMeets found.1 depth (by omega),
      otherwiseMeets found.2.1 depth (by omega), restMeets found.2.2 depth (by omega)]
  | fallback inside insideMeets | otherwise inside insideMeets =>
    simp [Piece.content?, insideMeets found depth enough]
  | otherwiseIf inside otherwise insideMeets otherwiseMeets =>
    rw [List.forall_mem_append] at found
    rw [List.length_append] at enough
    simp [allContents, Stmt.contents, Piece.content?, insideMeets found.1 depth (by omega),
      otherwiseMeets found.2 depth (by omega)]

/-- The pieces are well nested, their named blocks have names of their own, and one parent is
named at most. The nesting gives the statements and the bodies of the named blocks. -/
structure Piece.WellNested (pieces : List Piece) (body : List Stmt) (blocks : Bodies) : Prop where
  nests : ∃ cycles, Nests .statements 0 pieces body blocks cycles
  distinct : (blockNames pieces).Nodup
  parents : parents pieces ≤ 1

/-- A block of its own name is found under it. -/
theorem lookup_of_nodup {blocks : Bodies} (distinct : (blocks.map Prod.fst).Nodup)
    {block : String × List Stmt} (member : block ∈ blocks) :
    blocks.lookup block.1 = some block.2 := by
  obtain ⟨before, after, rfl⟩ := List.append_of_mem member
  apply List.lookup_eq_some_iff.mpr
  refine ⟨before, after, rfl, ?_⟩
  intro other earlier
  rw [List.map_append, List.map_cons] at distinct
  have apart := (List.nodup_append.mp distinct).2.2 other.1 (List.mem_map_of_mem earlier) block.1
    List.mem_cons_self
  exact bne_iff_ne.mpr (Ne.symm apart)

/-- A walk of well nested pieces that goes deep enough meets what they say. -/
theorem Piece.WellNested.walk_eq {pieces : List Piece} {template : Template}
    (nested : WellNested pieces template.body template.blocks) {depth : Nat}
    (enough : template.blocks.length ≤ depth) : template.walk depth = contents pieces := by
  obtain ⟨⟨cycles, nests⟩, distinct, _⟩ := nested
  have names := nests.blockNames_perm.nodup_iff.mpr distinct
  exact nests.contents_eq (fun _ member => lookup_of_nodup names member) depth enough

namespace Template

variable {arity? : String → Option Arity} {name : Option String} {source : String}
  {pieces : List Piece} {template : Template}

/-- The lexemes of a source that the parser sees. -/
def visible (source : String) : List Lexeme :=
  (Lexer.lexemes source.toList).1.filter fun lexeme => lexeme.token ≠ .blank

/-- What a source is compiled to depends on how its pieces nest. -/
theorem compile_of_pieces (read : Template.pieces arity? source = (pieces, none)) :
    compile arity? name source = (Nesting.ofPieces pieces none).map fun nesting =>
      ⟨name, source, nesting.body.reverse, nesting.blocks, nesting.inherits⟩ := by
  rw [compile_eq, read]

/-- A source that spells pieces is read as those. -/
theorem pieces_of_spelt (lexed : (Lexer.lexemes source.toList).2 = none)
    (spelt : Piece.Spelt (setting arity? source none) (visible source) pieces) :
    Template.pieces arity? source = (pieces, none) := by
  rw [Template.pieces, lexed]
  exact Piece.parseAll_eq_iff.mpr ⟨rfl, spelt⟩

/-- What is compiled from pieces is what they nest to. -/
theorem wellNested_of_compile (read : Template.pieces arity? source = (pieces, none))
    (compiled : compile arity? name source = .ok template) :
    Piece.WellNested pieces template.body template.blocks ∧
      Piece.parents pieces = if template.inherits then 1 else 0 := by
  obtain ⟨nesting, nested, rfl⟩ := nesting_of_compile compiled
  rw [read] at nested
  obtain ⟨nests, distinct, parents⟩ := Nests.of_ofPieces nested
  refine ⟨⟨⟨_, nests⟩, distinct, ?_⟩, parents⟩
  rw [parents]
  split <;> omega

/-- Pieces that nest are compiled. -/
theorem compile_of_wellNested (read : Template.pieces arity? source = (pieces, none))
    {body : List Stmt} {blocks : Bodies} (nested : Piece.WellNested pieces body blocks) :
    ∃ template, compile arity? name source = .ok template := by
  obtain ⟨⟨cycles, nests⟩, distinct, parents⟩ := nested
  rw [compile_of_pieces read, Nesting.ofPieces_of_nests nests distinct parents]
  exact ⟨_, rfl⟩

/-- A source whose tags and expressions can be read each by itself is compiled exactly if its
pieces are well nested. It is compiled to what the nesting grammar says, and a walk of that meets
everything the pieces say, once and in the order of the source. -/
theorem compile_iff_wellNested (lexed : (Lexer.lexemes source.toList).2 = none)
    (spelt : Piece.Spelt (setting arity? source none) (visible source) pieces) :
    ((∃ template, compile arity? name source = .ok template) ↔
      ∃ body blocks, Piece.WellNested pieces body blocks) ∧
    ∀ template, compile arity? name source = .ok template →
      Piece.WellNested pieces template.body template.blocks ∧
      (template.inherits = true ↔ Piece.parents pieces = 1) ∧
      ∀ depth, template.blocks.length ≤ depth →
        template.walk depth = Piece.contents pieces := by
  have read := pieces_of_spelt lexed spelt
  constructor
  · constructor
    · rintro ⟨template, compiled⟩
      exact ⟨_, _, (wellNested_of_compile read compiled).1⟩
    · rintro ⟨body, blocks, nested⟩
      exact compile_of_wellNested read nested
  · intro template compiled
    obtain ⟨nested, parents⟩ := wellNested_of_compile read compiled
    refine ⟨nested, ?_, fun depth enough => nested.walk_eq enough⟩
    rw [parents]
    cases template.inherits <;> simp

namespace Sample

/-- A template with an `if` of two clauses, the second one around a named block. -/
def clauses : String :=
  Source.tag "if a" ++ "x" ++ Source.tag "elif b" ++ Source.block "c" "y" ++ Source.tag "endif"

/-- Its pieces. -/
def clausePieces : List Piece := (Template.pieces (fun _ => none) clauses).1

/-- A variable. -/
def lookedUp (name : String) : Expr := .path ⟨name, [], name⟩

/-- It is compiled, and a walk that goes into its one block meets all that it says. -/
theorem walk_clauses :
    (Lexer.lexemes clauses.toList).2 = none ∧
      Piece.Spelt (setting (fun _ => none) clauses none) (visible clauses) clausePieces ∧
      ∃ template, compile (fun _ => none) none clauses = .ok template ∧ template.walk 1 =
        [.tag (.condition (lookedUp "a")), .text "x", .tag (.condition (lookedUp "b")),
          .tag (.block "c"), .text "y"] := by
  have lexed : (Lexer.lexemes clauses.toList).2 = none := by decide +kernel
  have read : Template.pieces (fun _ => none) clauses = (clausePieces, none) := by
    have unflawed : (Template.pieces (fun _ => none) clauses).2 = none := by
      decide +kernel
    rw [clausePieces, ← unflawed]
  have spelt : Piece.Spelt (setting (fun _ => none) clauses none) (visible clauses)
      clausePieces := by
    rw [Template.pieces, lexed] at read
    exact (Piece.parseAll_eq_iff.mp read).2
  have blocks : (compile (fun _ => none) none clauses).toOption.map (·.blocks.length) = some 1 := by
    decide +kernel
  cases compiled : compile (fun _ => none) none clauses with
  | error flaw =>
    rw [compiled] at blocks
    cases blocks
  | ok template =>
    rw [compiled] at blocks
    have single : template.blocks.length = 1 := by simpa [Except.toOption] using blocks
    have walked := (compile_iff_wellNested lexed spelt).2 template compiled
    refine ⟨lexed, spelt, template, rfl, ?_⟩
    rw [walked.2.2 1 (Nat.le_of_eq single)]
    cbv

end Sample

end Template

end Stencil
