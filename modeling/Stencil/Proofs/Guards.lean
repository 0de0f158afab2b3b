import Stencil.Proofs.Guards.Boundaries
import Stencil.Proofs.Guards.Lexemes
import Stencil.Proofs.Guards.Reports

/-!
# Compiling never crashes

Compiling can be done with all that it takes for granted guarded: the lexer reads at a cursor and
its lexemes are looked into, every piece has to begin with text or an opening delimiter, and the
pieces are placed on two stacks, whose scopes have to be there when they are taken off. The
guarded compiler does what the compiler does, so no guard ever fails, whatever the source is.
-/

namespace Stencil

namespace Stacks

/-- Reads pieces and places them one after the other. Each has to begin with text or an opening
delimiter. -/
def readAll : Nat → Setting → Stacks → List Lexeme → Except Failure Stacks
  | 0, _, _, _ => .error (.crash .endless)
  | bound + 1, setting, piles, ahead =>
    match ahead.head?.filter fun first => !first.token.begins with
    | some first => .error (.crash (.stray first.token))
    | none =>
      match Piece.parse setting ahead with
      | .error flaw => .error (.flaw flaw)
      | .ok (none, _) => .ok piles
      | .ok (some none, rest) => readAll bound setting piles rest
      | .ok (some (some piece), rest) => do
        let piles ← piles.place piece
        readAll bound setting piles rest

/-- The flaw that ended the pieces comes after those of the pieces before it. -/
def endedBy (flaw : Option Flaw) (piles : Stacks) : Except Failure Stacks :=
  match flaw with
  | some flaw => .error (.flaw flaw)
  | none => .ok piles

variable {setting : Setting} {mode : Mode} {ahead : List Lexeme}

/-- Where the lexemes lead somewhere from outside, the first one begins a piece. -/
theorem not_stray (leads : Mode.through none ahead = some mode) :
    (ahead.head?.filter fun first => !first.token.begins) = none := by
  cases ahead with
  | nil => rfl
  | cons first rest => simp [Mode.begins_of_through leads]

/-- Reading and placing pieces in turn is reading them all and then placing them. -/
theorem readAll_eq {bound : Nat} (nesting : Nesting)
    (leads : Mode.through none ahead = some mode) (enough : ahead.length < bound) :
    readAll bound setting nesting.stacks ahead =
      (flawing (((Piece.parseUpTo bound setting ahead).1.foldlM Nesting.place nesting).map
        Nesting.stacks)).bind (endedBy (Piece.parseUpTo bound setting ahead).2) := by
  induction bound generalizing ahead nesting with
  | zero => omega
  | succ bound inductionHypothesis =>
    rw [readAll, not_stray leads, Piece.parseUpTo]
    cases found : Piece.parse setting ahead with
    | error flaw => rfl
    | ok read =>
      obtain ⟨taken, rest⟩ := read
      cases taken with
      | none => rfl
      | some taken =>
        have begins := Piece.parse_some.mp found
        have later := begins.through leads
        have shorter := begins.length_lt
        cases taken with
        | none => exact inductionHypothesis nesting later (by omega)
        | some piece =>
          dsimp only [Option.toList_some, List.singleton_append]
          rw [List.foldlM_cons, nesting.place_stacks]
          cases nesting.place piece with
          | error flaw => rfl
          | ok next => exact inductionHypothesis next later (by omega)

end Stacks

namespace Template

/-- Compiles a source with all that is taken for granted guarded. -/
def compileGuarded (arity? : String → Option Arity) (name : Option String) (source : String) :
    Except Failure Template := do
  let found ← Lexer.guarded source.toList (source.toList.length + 1) (.outside true false) 0
  let visible := found.1.filter fun lexeme => lexeme.token ≠ .blank
  let piles ← Stacks.readAll (visible.length + 1) (setting arity? source found.2) .start visible
  let body ← piles.finish
  return ⟨name, source, body, piles.blocks, piles.inherits⟩

/-- The guarded compiler does what the compiler does. -/
theorem compileGuarded_eq (arity? : String → Option Arity) (name : Option String)
    (source : String) :
    compileGuarded arity? name source = flawing (compile arity? name source) := by
  obtain ⟨mode, leads⟩ := Lexer.leads_lexemes source.toList
  have read : Stacks.readAll _ (setting arity? source (Lexer.lexemes source.toList).2)
      Nesting.empty.stacks _ = _ :=
    Stacks.readAll_eq Nesting.empty (Mode.through_filter leads) (Nat.lt_succ_self _)
  let packed : Stacks → Except Failure Template := fun piles =>
    piles.finish.bind fun body => .ok ⟨name, source, body, piles.blocks, piles.inherits⟩
  have guarded : compileGuarded arity? name source =
      ((flawing (((pieces arity? source).1.foldlM Nesting.place .empty).map
        Nesting.stacks)).bind (Stacks.endedBy (pieces arity? source).2)).bind packed := by
    rw [compileGuarded, Lexer.guarded_lexemes]
    exact congrArg (fun result => Except.bind result packed) read
  rw [guarded, compile_eq, Nesting.ofPieces]
  cases (pieces arity? source).1.foldlM Nesting.place .empty with
  | error flaw => rfl
  | ok nesting =>
    cases (pieces arity? source).2 with
    | some flaw => rfl
    | none =>
      have packs : packed nesting.stacks = flawing (nesting.finish.map fun done =>
          ⟨name, source, done.body.reverse, done.blocks, done.inherits⟩) := by
        simp only [packed, nesting.finish_stacks, Nesting.finish]
        split <;> rfl
      exact packs

/-- Compiling never crashes. With every guard in place it does the same, so it gives a template
or reports a flaw, and the flaw points into the source. While the pieces are placed, the scopes
are always one more than those that the open blocks own: one for each condition of an `if` and
one for its `else` clause, one for a loop and one for its `empty` clause, and one for any other
block. -/
theorem compile_never_crashes (arity? : String → Option Arity) (name : Option String)
    (source : String) :
    compileGuarded arity? name source = flawing (compile arity? name source) ∧
      (∀ crash, compileGuarded arity? name source ≠ .error (.crash crash)) ∧
      (∀ flaw, compile arity? name source = .error flaw → flaw.span.InBounds source.toList) ∧
      ∀ (pieces : List Piece) (piles : Stacks),
        pieces.foldlM Stacks.place .start = .ok piles →
          piles.scopes.length = 1 + (piles.heads.map fun head => head.1.height).sum := by
  have same := compileGuarded_eq arity? name source
  refine ⟨same, ?_, fun _ => inBounds_of_compile, ?_⟩
  · intro crash crashed
    rw [same] at crashed
    cases compiled : compile arity? name source with
    | error flaw => rw [compiled] at crashed; cases crashed
    | ok template => rw [compiled] at crashed; cases crashed
  · intro pieces piles placed
    have started : Nesting.empty.stacks = Stacks.start := rfl
    rw [← started, Nesting.placeAll_stacks] at placed
    cases nested : pieces.foldlM Nesting.place .empty with
    | error flaw =>
      rw [nested] at placed
      cases placed
    | ok nesting =>
      rw [nested] at placed
      cases placed
      exact nesting.height_stacks

end Template

end Stencil
