import Mathlib.Algebra.GroupWithZero.Nat
import Stencil.Proofs.Nests.Soundness

/-!
# The two stacks

Pieces can be nested with two stacks instead of one: the heads of the open blocks, and the scopes
that gather statements, one for each clause that has begun. An `if` owns a scope for each
condition and one for its `else` clause, a loop one for its body and one for its `empty` clause,
and any other block one. Closing a block takes its scopes off the stack.

Every operation on the scopes is guarded: where a scope is missing it crashes. The two stacks
hold what the one stack holds, so they do the same, and no guard ever fails.
-/

namespace Stencil

/-- What compiling takes for granted. Where it is not so, compiling crashes. -/
inductive Crash where
  | slice (span : Span)
  | keyword (word : String)
  | quotes (text : String)
  | digits (text : String)
  | stray (token : Token)
  | noScope
  | scopesLeft
  | endless
  deriving DecidableEq, Repr

/-- Compiling fails at a flaw of the source, or it crashes. -/
inductive Failure where
  | flaw (flaw : Flaw)
  | crash (crash : Crash)
  deriving DecidableEq, Repr

/-- What the tags of an open block have said: the conditions of an `if` in order, or the head of
another block, and whether its last clause has begun. -/
inductive Head where
  | condition (conditions : List Expr) (hasElse : Bool)
  | loop (loop : Loop) (hasEmpty : Bool)
  | block (name : String)
  | region (region : Region)
  deriving Repr

namespace Head

/-- The kind of block. -/
def kind : Head → BlockKind
  | condition .. => .condition
  | loop .. => .loop
  | block _ => .block
  | region head => head.kind

/-- How many scopes a block owns. -/
def height : Head → Nat
  | condition conditions hasElse => conditions.length + if hasElse then 1 else 0
  | loop _ hasEmpty => 1 + if hasEmpty then 1 else 0
  | block _ => 1
  | region _ => 1

end Head

/-- The heads of the open blocks, each with where its tag stands, and the scopes, innermost
first; the statements of a scope are in order. The rest is as in a nesting. -/
structure Stacks where
  heads : List (Head × Span)
  scopes : List (List Stmt)
  blocks : List (String × List Stmt)
  inherits : Bool
  cycles : Nat
  deriving Repr

namespace Stacks

/-- No block is open, and there is one scope. -/
def start : Stacks := ⟨[], [[]], [], false, 0⟩

/-- Adds statements to the innermost scope. -/
def push (piles : Stacks) (statements : List Stmt) : Except Failure Stacks :=
  match piles.scopes with
  | [] => .error (.crash .noScope)
  | inner :: outer => .ok { piles with scopes := (inner ++ statements) :: outer }

/-- Takes off so many scopes, the innermost last. -/
def split (piles : Stacks) (count : Nat) : Except Failure (List (List Stmt) × Stacks) :=
  if count ≤ piles.scopes.length then
    .ok ((piles.scopes.take count).reverse,
      { piles with scopes := piles.scopes.drop count })
  else .error (.crash .noScope)

/-- Takes off the innermost scope. -/
def pop (piles : Stacks) : Except Failure (List Stmt × Stacks) :=
  match piles.scopes with
  | [] => .error (.crash .noScope)
  | inner :: outer => .ok (inner, { piles with scopes := outer })

/-- Takes off the innermost scope if there is one for the last clause. -/
def popIf (piles : Stacks) (has : Bool) : Except Failure (List Stmt × Stacks) :=
  if has then piles.pop else .ok ([], piles)

/-- Opens a block with a scope. -/
def enter (piles : Stacks) (head : Head) (span : Span) : Stacks :=
  { piles with heads := (head, span) :: piles.heads, scopes := [] :: piles.scopes }

/-- Starts another clause of the innermost block with a scope, if the given function says how the
head goes on. -/
def advance (piles : Stacks) (word : String) (span : Span) (onward : Head → Option Head) :
    Except Failure Stacks :=
  match piles.heads with
  | [] => .error (.flaw ⟨.misplacedTag word, span⟩)
  | (head, opened) :: outer =>
    match onward head with
    | some next =>
      .ok { piles with heads := (next, opened) :: outer, scopes := [] :: piles.scopes }
    | none => .error (.flaw ⟨.misplacedTag word, span⟩)

/-- The branches of an `if`, each condition with its scope. -/
def branches (conditions : List Expr) (bodies : List (List Stmt)) (last : List Stmt) :
    List Stmt :=
  (conditions.zip bodies).foldr (fun clause no => [.branch clause.1 clause.2 no]) last

/-- Closes the innermost block, which has to be of the given kind, and takes its scopes off. -/
def close (piles : Stacks) (kind : BlockKind) (span : Span) : Except Failure Stacks := do
  match piles.heads with
  | [] => .error (.flaw ⟨.misplacedTag kind.endWord, span⟩)
  | (head, opened) :: outer =>
    if head.kind ≠ kind then .error (.flaw ⟨.misplacedTag kind.endWord, span⟩)
    else
      let closed := { piles with heads := outer }
      match head with
      | .condition conditions hasElse =>
        let (last, closed) ← closed.popIf hasElse
        let (bodies, closed) ← closed.split conditions.length
        closed.push (branches conditions bodies last)
      | .loop loop hasEmpty =>
        let (empty, closed) ← closed.popIf hasEmpty
        let (body, closed) ← closed.pop
        closed.push [.each loop body empty]
      | .block name =>
        if (piles.blocks.lookup name).isSome then .error (.flaw ⟨.repeatedBlock name, opened⟩)
        else
          let (body, closed) ← closed.pop
          { closed with blocks := closed.blocks ++ [(name, body)] }.push [.block name]
      | .region region =>
        let (body, closed) ← closed.pop
        closed.push [.within region body]

/-- Places a tag. -/
def placeTag (piles : Stacks) (tag : Tag) (span : Span) : Except Failure Stacks :=
  match tag with
  | .condition condition => .ok (piles.enter (.condition [condition] false) span)
  | .loop loop => .ok (piles.enter (.loop loop false) span)
  | .block name => .ok (piles.enter (.block name) span)
  | .region region => .ok (piles.enter (.region region) span)
  | .otherwiseIf condition => piles.advance "elif" span fun
    | .condition conditions false => some (.condition (conditions ++ [condition]) false)
    | _ => none
  | .otherwise => piles.advance "else" span fun
    | .condition conditions false => some (.condition conditions true)
    | _ => none
  | .empty => piles.advance "empty" span fun
    | .loop loop false => some (.loop loop true)
    | _ => none
  | .close kind => piles.close kind span
  | .inherit target =>
    if piles.inherits then .error (.flaw ⟨.secondExtend, span⟩)
    else { piles with inherits := true }.push [.inherit target span]
  | .insert target bindings => piles.push [.insert target bindings span]
  | .create target template => piles.push [.create target template span]
  | .cycle first others =>
    { piles with cycles := piles.cycles + 1 }.push [.cycle piles.cycles first others]
  | .assign binding => piles.push [.assign binding]

/-- Places a piece. -/
def place (piles : Stacks) : Piece → Except Failure Stacks
  | .text content => piles.push [.text content]
  | .output value => piles.push [.output value]
  | .tag tag span => piles.placeTag tag span

/-- The statements of the one scope that is left when no block is open; the outermost open block
is reported. -/
def finish (piles : Stacks) : Except Failure (List Stmt) :=
  match piles.heads.getLast?, piles.scopes with
  | some (head, span), _ => .error (.flaw ⟨.unclosedTag head.kind.word, span⟩)
  | none, [body] => .ok body
  | none, _ => .error (.crash .scopesLeft)

end Stacks

/-- What the tags of a block have said. -/
def Gathered.head : Gathered → Head
  | condition clauses current => .condition ((current :: clauses.map Prod.fst).reverse) false
  | otherwise clauses => .condition (clauses.map Prod.fst).reverse true
  | loop head => .loop head false
  | empty head _ => .loop head true
  | block name => .block name
  | region head => .region head

/-- It is a head of the same kind. -/
@[simp] theorem Gathered.kind_head (gathered : Gathered) : gathered.head.kind = gathered.kind := by
  cases gathered <;> rfl

/-- The scopes of the clauses that are finished, the latest first. -/
def Gathered.scopes : Gathered → List (List Stmt)
  | condition clauses _ => clauses.map Prod.snd
  | otherwise clauses => clauses.map Prod.snd
  | empty _ body => [body]
  | _ => []

/-- The scopes of an open block. -/
def OpenBlock.scopes (inner : OpenBlock) : List (List Stmt) :=
  inner.body.reverse :: inner.gathered.scopes

/-- The two stacks that hold what a nesting holds. -/
def Nesting.stacks (nesting : Nesting) : Stacks where
  heads := nesting.opened.map fun inner => (inner.gathered.head, inner.span)
  scopes := nesting.opened.flatMap OpenBlock.scopes ++ [nesting.body.reverse]
  blocks := nesting.blocks
  inherits := nesting.inherits
  cycles := nesting.cycles

/-- What fails at a flaw at most. -/
def flawing {α : Type} (result : Except Flaw α) : Except Failure α := result.mapError .flaw

@[simp] theorem flawing_ok {α : Type} (value : α) : flawing (.ok value) = .ok value := rfl

namespace Stacks

variable {piles : Stacks} {scope : List Stmt} {rest : List (List Stmt)}

/-- Where there is a scope statements can be added to it. -/
theorem push_of_cons (found : piles.scopes = scope :: rest) (statements : List Stmt) :
    piles.push statements = .ok { piles with scopes := (scope ++ statements) :: rest } := by
  rw [push, found]

/-- The conditions and the scopes of clauses make the branches that the clauses make. -/
theorem branches_eq (clauses : List (Expr × List Stmt)) (last : List Stmt) :
    branches (clauses.map Prod.fst).reverse (clauses.map Prod.snd).reverse last =
      Nesting.branches clauses last := by
  have zipped : (clauses.map Prod.fst).reverse.zip (clauses.map Prod.snd).reverse =
      clauses.reverse := by
    rw [← List.map_reverse, ← List.map_reverse, List.zip_map']
    simp
  rw [branches, zipped, List.foldr_reverse, Nesting.branches]

end Stacks

namespace Nesting

variable (nesting : Nesting)

/-- The scopes are never without one. -/
theorem push_stacks (statements : List Stmt) :
    nesting.stacks.push statements = .ok (statements.foldl add nesting).stacks := by
  obtain ⟨opened, body, blocks, inherits, cycles⟩ := nesting
  rw [addAll_eq]
  cases opened with
  | nil =>
    rw [Stacks.push_of_cons rfl]
    simp [Nesting.stacks]
  | cons inner outer =>
    rw [Stacks.push_of_cons rfl]
    simp [Nesting.stacks, OpenBlock.scopes, List.flatMap_def]

/-- A block is opened with a head and a scope. -/
theorem enter_stacks {gathered : Gathered} (first : gathered.scopes = []) (span : Span) :
    (nesting.enter gathered span).stacks = nesting.stacks.enter gathered.head span := by
  simp [enter, Nesting.stacks, Stacks.enter, OpenBlock.scopes, first]

/-- A clause is started in a scope of its own, where the heads and what was gathered go on alike. -/
theorem advance_stacks {word : String} {span : Span}
    {onward : Gathered → List Stmt → Option Gathered} {next : Head → Option Head}
    (alike : ∀ gathered body, next gathered.head = (onward gathered body).map Gathered.head)
    (scopes : ∀ gathered body further, onward gathered body = some further →
      further.scopes = body :: gathered.scopes) :
    nesting.stacks.advance word span next =
      flawing ((nesting.advance word span onward).map Nesting.stacks) := by
  obtain ⟨opened, body, blocks, inherits, cycles⟩ := nesting
  cases opened with
  | nil => rfl
  | cons inner outer =>
    have heads := alike inner.gathered inner.body.reverse
    simp only [Stacks.advance, advance, Nesting.stacks, List.map_cons, heads]
    cases going : onward inner.gathered inner.body.reverse with
    | none => rfl
    | some further =>
      have more := scopes _ _ _ going
      simp [Except.map, Nesting.stacks, OpenBlock.scopes, more]

/-- Closing a block takes off its own scopes, and no others. -/
theorem close_stacks (kind : BlockKind) (span : Span) :
    nesting.stacks.close kind span = flawing ((nesting.close kind span).map Nesting.stacks) := by
  obtain ⟨opened, body, blocks, inherits, cycles⟩ := nesting
  cases opened with
  | nil => rfl
  | cons inner outer =>
    obtain ⟨gathered, opening, statements⟩ := inner
    simp only [Stacks.close, close, Nesting.stacks, List.map_cons, Gathered.kind_head]
    split
    · rfl
    · have closed : ∀ (blocks : List (String × List Stmt)) (found : List Stmt), Stacks.push
          ⟨outer.map fun inner => (inner.gathered.head, inner.span),
            outer.flatMap OpenBlock.scopes ++ [body.reverse], blocks, inherits, cycles⟩ found =
          .ok (found.foldl add ⟨outer, body, blocks, inherits, cycles⟩).stacks :=
        fun blocks => push_stacks ⟨outer, body, blocks, inherits, cycles⟩
      generalize outer.map (fun inner => (inner.gathered.head, inner.span)) = heads at closed ⊢
      cases gathered
      all_goals simp [Gathered.head, OpenBlock.scopes, Gathered.scopes, Stacks.popIf, Stacks.pop,
        Stacks.split, bind, Except.bind]
      case condition clauses current _ =>
        have same := Stacks.branches_eq ((current, statements.reverse) :: clauses) []
        simp only [List.map_cons, List.reverse_cons] at same
        rw [same]
        exact closed _ _
      case otherwise clauses _ =>
        rw [Stacks.branches_eq]
        exact closed _ _
      case loop | empty | region => exact closed _ _
      case block name _ =>
        split
        · rfl
        · exact closed _ [.block name]

/-- Placing a tag does the same to the two stacks as to the one. -/
theorem placeTag_stacks (tag : Tag) (span : Span) :
    nesting.stacks.placeTag tag span =
      flawing ((nesting.placeTag tag span).map Nesting.stacks) := by
  have entered (gathered : Gathered) (first : gathered.scopes = []) :
      (.ok (nesting.stacks.enter gathered.head span) : Except Failure Stacks) =
        .ok (nesting.enter gathered span).stacks := by
    rw [nesting.enter_stacks first]
  cases tag with
  | condition test => exact entered (.condition [] test) rfl
  | loop head => exact entered (.loop head) rfl
  | block name => exact entered (.block name) rfl
  | region head => exact entered (.region head) rfl
  | otherwiseIf | otherwise | empty =>
    simp only [Stacks.placeTag, placeTag]
    apply nesting.advance_stacks
    · intro gathered body
      cases gathered <;> simp [Gathered.head]
    · intro gathered body further going
      cases gathered <;> cases going
      rfl
  | close kind => exact nesting.close_stacks kind span
  | inherit target =>
    simp only [Stacks.placeTag, placeTag]
    have same : nesting.stacks.inherits = nesting.inherits := rfl
    rw [same]
    split
    · rfl
    · exact push_stacks { nesting with inherits := true } [.inherit target span]
  | insert | create | assign => exact nesting.push_stacks [_]
  | cycle first others =>
    exact push_stacks { nesting with cycles := nesting.cycles + 1 }
      [.cycle nesting.cycles first others]

/-- So does placing a piece. -/
theorem place_stacks (piece : Piece) :
    nesting.stacks.place piece = flawing ((nesting.place piece).map Nesting.stacks) := by
  cases piece with
  | text | output => exact nesting.push_stacks [_]
  | tag tag span => exact nesting.placeTag_stacks tag span

/-- So does placing all pieces. -/
theorem placeAll_stacks (pieces : List Piece) :
    pieces.foldlM Stacks.place nesting.stacks =
      flawing ((pieces.foldlM place nesting).map Nesting.stacks) := by
  induction pieces generalizing nesting with
  | nil => rfl
  | cons piece rest inductionHypothesis =>
    rw [List.foldlM_cons, List.foldlM_cons, place_stacks]
    cases nesting.place piece with
    | error flaw => rfl
    | ok next => exact inductionHypothesis next

/-- In the end there is one scope if no block is open. -/
theorem finish_stacks :
    nesting.stacks.finish = flawing (nesting.finish.map fun done => done.body.reverse) := by
  have heads : nesting.stacks.heads.getLast? =
      nesting.opened.getLast?.map fun inner => (inner.gathered.head, inner.span) :=
    List.getLast?_map
  rw [Stacks.finish, finish, heads]
  cases outermost : nesting.opened.getLast? with
  | some inner =>
    simp only [Option.map_some, Gathered.kind_head]
    rfl
  | none =>
    have closed : nesting.opened = [] := List.getLast?_eq_none_iff.mp outermost
    have single : nesting.stacks.scopes = [nesting.body.reverse] := by simp [Nesting.stacks, closed]
    rw [single]
    rfl

end Nesting

/-- The scopes of an open block are as many as its head says. -/
theorem OpenBlock.length_scopes (inner : OpenBlock) :
    inner.scopes.length = inner.gathered.head.height := by
  obtain ⟨gathered, span, body⟩ := inner
  cases gathered <;> simp [scopes, Gathered.scopes, Gathered.head, Head.height]

/-- There is one scope more than those that the open blocks own. -/
theorem Nesting.height_stacks (nesting : Nesting) :
    nesting.stacks.scopes.length =
      1 + (nesting.stacks.heads.map fun head => head.1.height).sum := by
  simp [Nesting.stacks, List.length_flatMap, OpenBlock.length_scopes, Function.comp_def,
    Nat.add_comm]

end Stencil
