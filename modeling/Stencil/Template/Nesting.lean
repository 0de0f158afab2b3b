import Stencil.Template.Piece

/-!
# Nesting the pieces

Pieces are placed one after the other. A stack holds the blocks that are open,
innermost first, each with what it has gathered so far. A piece that may not
stand where it stands is a flaw; so is a block that is still open at the end.
-/

namespace Stencil

/-- What an open block holds besides the statements of its current clause. An
`if` holds its finished clauses, latest first, and the condition of the current
one, which an `else` clause does not have; a loop in its `empty` clause holds
its finished body. -/
inductive Gathered where
  | condition (clauses : List (Expr × List Stmt)) (current : Expr)
  | otherwise (clauses : List (Expr × List Stmt))
  | loop (loop : Loop)
  | empty (loop : Loop) (body : List Stmt)
  | block (name : String)
  | region (region : Region)
  deriving Repr

/-- The kind of block that is open. -/
def Gathered.kind : Gathered → BlockKind
  | condition .. => .condition
  | otherwise _ => .condition
  | loop _ => .loop
  | empty .. => .loop
  | block _ => .block
  | region r => r.kind

/-- An open block: what it holds, where its tag stands, and the statements of its
current clause, latest first. -/
structure OpenBlock where
  gathered : Gathered
  span : Span
  body : List Stmt
  deriving Repr

/-- What was built from the pieces placed so far: the open blocks, innermost
first; the statements outside of them, latest first; the named blocks that were
closed, in the order of their end tags; whether a parent was named; and the
number of cycle tags. -/
structure Nesting where
  opened : List OpenBlock
  body : List Stmt
  blocks : List (String × List Stmt)
  inherits : Bool
  cycles : Nat
  deriving Repr

namespace Nesting

/-- Nothing placed yet. -/
def empty : Nesting := ⟨[], [], [], false, 0⟩

/-- Adds a statement to the current clause of the innermost open block. -/
def add (nesting : Nesting) (stmt : Stmt) : Nesting :=
  match nesting.opened with
  | [] => { nesting with body := stmt :: nesting.body }
  | inner :: outer =>
    { nesting with opened := { inner with body := stmt :: inner.body } :: outer }

/-- Opens a block. -/
def enter (nesting : Nesting) (gathered : Gathered) (span : Span) : Nesting :=
  { nesting with opened := ⟨gathered, span, []⟩ :: nesting.opened }

/-- The clauses of an `if`, latest first, around what its last alternative
holds. -/
def branches (clauses : List (Expr × List Stmt)) (last : List Stmt) : List Stmt :=
  clauses.foldl (fun no clause => [.branch clause.1 clause.2 no]) last

/-- The statement that a closed block leaves, its body in order; a named block
leaves its name. -/
def leave (gathered : Gathered) (body : List Stmt) : List Stmt :=
  match gathered with
  | .condition clauses current => branches ((current, body) :: clauses) []
  | .otherwise clauses => branches clauses body
  | .loop loop => [.each loop body []]
  | .empty loop main => [.each loop main body]
  | .block name => [.block name]
  | .region region => [.within region body]

/-- Closes the innermost block, which has to be of the given kind. A named block
has to have a name of its own. -/
def close (nesting : Nesting) (kind : BlockKind) (span : Span) : Except Flaw Nesting :=
  match nesting.opened with
  | [] => .error ⟨.misplacedTag kind.endWord, span⟩
  | inner :: outer =>
    if inner.gathered.kind ≠ kind then .error ⟨.misplacedTag kind.endWord, span⟩
    else
      let body := inner.body.reverse
      let closed := { nesting with opened := outer }
      match inner.gathered with
      | .block name =>
        if (nesting.blocks.lookup name).isSome then .error ⟨.repeatedBlock name, inner.span⟩
        else .ok ({ closed with blocks := nesting.blocks ++ [(name, body)] }.add (.block name))
      | gathered => .ok ((leave gathered body).foldl add closed)

/-- Starts another clause of the innermost block, if the given function says how
it goes on. -/
def advance (nesting : Nesting) (word : String) (span : Span)
    (onward : Gathered → List Stmt → Option Gathered) : Except Flaw Nesting :=
  match nesting.opened with
  | [] => .error ⟨.misplacedTag word, span⟩
  | inner :: outer =>
    match onward inner.gathered inner.body.reverse with
    | some gathered => .ok { nesting with opened := ⟨gathered, inner.span, []⟩ :: outer }
    | none => .error ⟨.misplacedTag word, span⟩

/-- Places a tag. -/
def placeTag (nesting : Nesting) (tag : Tag) (span : Span) : Except Flaw Nesting :=
  match tag with
  | .condition condition => .ok (nesting.enter (.condition [] condition) span)
  | .loop loop => .ok (nesting.enter (.loop loop) span)
  | .block name => .ok (nesting.enter (.block name) span)
  | .region region => .ok (nesting.enter (.region region) span)
  | .otherwiseIf condition => nesting.advance "elif" span fun gathered body =>
    match gathered with
    | .condition clauses current => some (.condition ((current, body) :: clauses) condition)
    | _ => none
  | .otherwise => nesting.advance "else" span fun gathered body =>
    match gathered with
    | .condition clauses current => some (.otherwise ((current, body) :: clauses))
    | _ => none
  | .empty => nesting.advance "empty" span fun gathered body =>
    match gathered with
    | .loop loop => some (.empty loop body)
    | _ => none
  | .close kind => nesting.close kind span
  | .inherit target =>
    if nesting.inherits then .error ⟨.secondExtend, span⟩
    else .ok ({ nesting with inherits := true }.add (.inherit target span))
  | .insert target bindings => .ok (nesting.add (.insert target bindings span))
  | .create target template => .ok (nesting.add (.create target template span))
  | .cycle first others =>
    .ok ({ nesting with cycles := nesting.cycles + 1 }.add (.cycle nesting.cycles first others))
  | .assign binding => .ok (nesting.add (.assign binding))

/-- Places a piece. -/
def place (nesting : Nesting) : Piece → Except Flaw Nesting
  | .text content => .ok (nesting.add (.text content))
  | .output value => .ok (nesting.add (.output value))
  | .tag tag span => nesting.placeTag tag span

/-- Nothing may be open at the end; the outermost open block is reported. -/
def finish (nesting : Nesting) : Except Flaw Nesting :=
  match nesting.opened.getLast? with
  | some outermost => .error ⟨.unclosedTag outermost.gathered.kind.word, outermost.span⟩
  | none => .ok nesting

/-- Nests all pieces. A flaw that ended the pieces counts after those of the
pieces before it. -/
def ofPieces (pieces : List Piece) (flaw : Option Flaw) : Except Flaw Nesting := do
  let nesting ← pieces.foldlM place empty
  match flaw with
  | some flaw => .error flaw
  | none => nesting.finish

end Nesting

end Stencil
