import Stencil.Template.Nesting
import Stencil.Token.Lexer

/-!
# Compiling a template

The source is split into lexemes, the lexemes without blanks are read as pieces,
and the pieces are nested. The first flaw in the order of the source is the one
that is reported.
-/

namespace Stencil.Template

/-- The setting in which the lexemes of a source are read. -/
def setting (arity? : String → Option Arity) (source : String) (flaw : Option Flaw) : Setting :=
  ⟨source.toList, arity?, flaw⟩

/-- The pieces of a source up to its first flaw. -/
def pieces (arity? : String → Option Arity) (source : String) : List Piece × Option Flaw :=
  let found := Lexer.lexemes source.toList
  Piece.parseAll (setting arity? source found.2) (found.1.filter fun l => l.token ≠ .blank)

/-- Compiles a source under a name, given which filters there are. -/
def compile (arity? : String → Option Arity) (name : Option String) (source : String) :
    Except Flaw Template := do
  let found := pieces arity? source
  let nesting ← Nesting.ofPieces found.1 found.2
  return ⟨name, source, nesting.body.reverse, nesting.blocks, nesting.inherits⟩

/-- What a source is compiled to is what its pieces are nested to. -/
theorem compile_eq (arity? : String → Option Arity) (name : Option String) (source : String) :
    compile arity? name source =
      (Nesting.ofPieces (pieces arity? source).1 (pieces arity? source).2).map fun nesting =>
        ⟨name, source, nesting.body.reverse, nesting.blocks, nesting.inherits⟩ := by
  rw [compile]
  cases Nesting.ofPieces (pieces arity? source).1 (pieces arity? source).2 <;> rfl

/-- A template that was compiled is made of what the pieces of its source were nested to. -/
theorem nesting_of_compile {arity? : String → Option Arity} {name : Option String}
    {source : String} {template : Template}
    (compiled : compile arity? name source = .ok template) :
    ∃ nesting,
      Nesting.ofPieces (pieces arity? source).1 (pieces arity? source).2 = .ok nesting ∧
        template = ⟨name, source, nesting.body.reverse, nesting.blocks, nesting.inherits⟩ := by
  rw [compile_eq] at compiled
  cases nested : Nesting.ofPieces (pieces arity? source).1 (pieces arity? source).2 with
  | error flaw =>
    rw [nested] at compiled
    cases compiled
  | ok nesting =>
    rw [nested] at compiled
    cases compiled
    exact ⟨nesting, rfl, rfl⟩

end Stencil.Template
