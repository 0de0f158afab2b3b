import Stencil.Template.Nesting

/-!
# The nesting grammar

Which sequences of pieces are well nested, and the statements that they stand for. An `if` has
any number of `elif` clauses and after them at most one `else` clause, a loop has at most one
`empty` clause, and every block is closed by its own end tag, the innermost one first. A named
block leaves its name where it stands, and its body among the blocks, which come in the order of
their end tags. Cycle tags are numbered in order.

The grammar is one relation: of statements, of the further clauses of an `if`, and of the
`empty` clause of a loop.
-/

namespace Stencil

/-- The parts of the grammar: statements, the clauses of an `if` after its first, and the
`empty` clause that a loop may have. -/
inductive Phrase where
  | statements
  | alternatives
  | fallback
  deriving DecidableEq

/-- The named blocks of a template with their bodies. -/
abbrev Bodies := List (String × List Stmt)

namespace Piece

/-- The statement that a piece is by itself, given the number of earlier cycle tags. -/
def alone? (cycles : Nat) : Piece → Option Stmt
  | text content => some (.text content)
  | output value => some (.output value)
  | tag (.inherit target) span => some (.inherit target span)
  | tag (.insert target bindings) span => some (.insert target bindings span)
  | tag (.create target template) span => some (.create target template span)
  | tag (.cycle first others) _ => some (.cycle cycles first others)
  | tag (.assign binding) _ => some (.assign binding)
  | _ => none

/-- How many cycle tags a piece is. -/
def turns : Piece → Nat
  | tag (.cycle ..) _ => 1
  | _ => 0

/-- Whether a piece names the parent of the template. -/
def inherits : Piece → Bool
  | tag (.inherit _) _ => true
  | _ => false

/-- The name of the block that a piece opens. -/
def blockName? : Piece → Option String
  | tag (.block name) _ => some name
  | _ => none

/-- The names of the blocks that the pieces open. -/
def blockNames (pieces : List Piece) : List String := pieces.filterMap blockName?

/-- How often the pieces name a parent. -/
def parents (pieces : List Piece) : Nat := pieces.countP inherits

/-- The name of the block that the first piece opens comes first. -/
@[simp] theorem blockNames_cons (piece : Piece) (rest : List Piece) :
    blockNames (piece :: rest) = piece.blockName?.toList ++ blockNames rest := by
  rw [blockNames, List.filterMap_cons]
  cases piece.blockName? <;> rfl

/-- The names of the blocks of both parts. -/
@[simp] theorem blockNames_append (first second : List Piece) :
    blockNames (first ++ second) = blockNames first ++ blockNames second :=
  List.filterMap_append

/-- The parents of both parts. -/
@[simp] theorem parents_append (first second : List Piece) :
    parents (first ++ second) = parents first + parents second :=
  List.countP_append

end Piece

/-- The pieces are well nested and stand for the statements and the named blocks; the cycle tags
among them are numbered from one number up to another. -/
inductive Nests : Phrase → Nat → List Piece → List Stmt → Bodies → Nat → Prop where
  | nothing {cycles : Nat} : Nests .statements cycles [] [] [] cycles
  | alone {first last : Nat} {piece : Piece} {statement : Stmt} {pieces : List Piece}
      {statements : List Stmt} {blocks : Bodies}
      (stands : piece.alone? first = some statement)
      (rest : Nests .statements (first + piece.turns) pieces statements blocks last) :
      Nests .statements first (piece :: pieces) (statement :: statements) blocks last
  | region {first middle last : Nat} {region : Region} {opens closes : Span}
      {inner pieces : List Piece} {body statements : List Stmt} {within blocks : Bodies}
      (inside : Nests .statements first inner body within middle)
      (rest : Nests .statements middle pieces statements blocks last) :
      Nests .statements first
        (.tag (.region region) opens :: (inner ++ .tag (.close region.kind) closes :: pieces))
        (.within region body :: statements) (within ++ blocks) last
  | block {first middle last : Nat} {name : String} {opens closes : Span}
      {inner pieces : List Piece} {body statements : List Stmt} {within blocks : Bodies}
      (inside : Nests .statements first inner body within middle)
      (rest : Nests .statements middle pieces statements blocks last) :
      Nests .statements first
        (.tag (.block name) opens :: (inner ++ .tag (.close .block) closes :: pieces))
        (.block name :: statements) (within ++ (name, body) :: blocks) last
  | loop {first middle after last : Nat} {loop : Loop} {opens closes : Span}
      {inner clause pieces : List Piece} {body empty statements : List Stmt}
      {within further blocks : Bodies}
      (inside : Nests .statements first inner body within middle)
      (otherwise : Nests .fallback middle clause empty further after)
      (rest : Nests .statements after pieces statements blocks last) :
      Nests .statements first
        (.tag (.loop loop) opens :: (inner ++ (clause ++ .tag (.close .loop) closes :: pieces)))
        (.each loop body empty :: statements) (within ++ (further ++ blocks)) last
  | condition {first middle after last : Nat} {condition : Expr} {opens closes : Span}
      {inner clauses pieces : List Piece} {body no statements : List Stmt}
      {within further blocks : Bodies}
      (inside : Nests .statements first inner body within middle)
      (otherwise : Nests .alternatives middle clauses no further after)
      (rest : Nests .statements after pieces statements blocks last) :
      Nests .statements first
        (.tag (.condition condition) opens ::
          (inner ++ (clauses ++ .tag (.close .condition) closes :: pieces)))
        (.branch condition body no :: statements) (within ++ (further ++ blocks)) last
  | noFallback {cycles : Nat} : Nests .fallback cycles [] [] [] cycles
  | fallback {first last : Nat} {opens : Span} {inner : List Piece} {body : List Stmt}
      {within : Bodies} (inside : Nests .statements first inner body within last) :
      Nests .fallback first (.tag .empty opens :: inner) body within last
  | noAlternative {cycles : Nat} : Nests .alternatives cycles [] [] [] cycles
  | otherwise {first last : Nat} {opens : Span} {inner : List Piece} {body : List Stmt}
      {within : Bodies} (inside : Nests .statements first inner body within last) :
      Nests .alternatives first (.tag .otherwise opens :: inner) body within last
  | otherwiseIf {first middle last : Nat} {condition : Expr} {opens : Span}
      {inner clauses : List Piece} {body no : List Stmt} {within further : Bodies}
      (inside : Nests .statements first inner body within middle)
      (otherwise : Nests .alternatives middle clauses no further last) :
      Nests .alternatives first (.tag (.otherwiseIf condition) opens :: (inner ++ clauses))
        [.branch condition body no] (within ++ further) last

namespace Nests

variable {first middle last : Nat} {pieces more : List Piece} {statements others : List Stmt}
  {blocks further : Bodies} {phrase : Phrase}

/-- Statements one after the other. -/
theorem append (nests : Nests .statements first pieces statements blocks middle)
    (next : Nests .statements middle more others further last) :
    Nests .statements first (pieces ++ more) (statements ++ others) (blocks ++ further) last := by
  generalize isSequence : Phrase.statements = phrase at nests
  induction nests with
  | nothing => exact next
  | alone stands rest inductionHypothesis =>
    exact .alone stands (inductionHypothesis next isSequence)
  | region inside rest _ inductionHypothesis =>
    simp only [List.cons_append, List.append_assoc]
    exact .region inside (inductionHypothesis next isSequence)
  | block inside rest _ inductionHypothesis =>
    simp only [List.cons_append, List.append_assoc]
    exact .block inside (inductionHypothesis next isSequence)
  | loop inside otherwise rest _ _ inductionHypothesis =>
    simp only [List.cons_append, List.append_assoc]
    exact .loop inside otherwise (inductionHypothesis next isSequence)
  | condition inside otherwise rest _ _ inductionHypothesis =>
    simp only [List.cons_append, List.append_assoc]
    exact .condition inside otherwise (inductionHypothesis next isSequence)
  | noFallback | fallback | noAlternative | otherwise | otherwiseIf => cases isSequence

/-- The blocks are those that the pieces open, in another order. -/
theorem blockNames_perm (nests : Nests phrase first pieces statements blocks last) :
    (blocks.map Prod.fst).Perm (Piece.blockNames pieces) := by
  induction nests with
  | nothing | noFallback | noAlternative => exact .nil
  | @alone _ _ piece _ _ _ _ stands rest inductionHypothesis =>
    have unnamed : piece.blockName? = none := by
      unfold Piece.alone? at stands
      split at stands <;> first | rfl | cases stands
    simpa [unnamed] using inductionHypothesis
  | region inside rest insideNames restNames =>
    have both := insideNames.append restNames
    simpa [Piece.blockName?] using both
  | @block _ _ _ name _ _ _ _ _ _ _ _ inside rest insideNames restNames =>
    have moved := List.perm_middle.trans ((insideNames.append restNames).cons name)
    simpa [Piece.blockName?] using moved
  | loop inside otherwise rest insideNames otherwiseNames restNames =>
    have all := insideNames.append (otherwiseNames.append restNames)
    simpa [Piece.blockName?] using all
  | condition inside otherwise rest insideNames otherwiseNames restNames =>
    have all := insideNames.append (otherwiseNames.append restNames)
    simpa [Piece.blockName?] using all
  | fallback inside insideNames =>
    simpa [Piece.blockName?] using insideNames
  | otherwise inside insideNames =>
    simpa [Piece.blockName?] using insideNames
  | otherwiseIf inside otherwise insideNames otherwiseNames =>
    have both := insideNames.append otherwiseNames
    simpa [Piece.blockName?] using both

end Nests

end Stencil
