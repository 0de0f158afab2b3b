import Stencil.Catalogue
import Stencil.Session
import Stencil.Data
import Stencil.Value.Editing
import Stencil.Rendering
import Stencil.Context
import Stencil.Filter.Further
import Stencil.Policy.Stock
import Stencil.Files.Basic
import Stencil.Journal
import Stencil.Value.Reading
import Stencil.Fault.Drawing
import Stencil.Template.Compile
import Stencil.Expr.Parser
import Stencil.Token.Lexer
import Stencil.Fault.Syntax
import Stencil.Named
import Stencil.Number.Shortest
import Stencil.Text.Casing
import Stencil.Text.Columns
import Stencil.Text.Identifier
import Stencil.Text.Quoted
import Stencil.Text.Utf8
import Stencil.Proofs.Escaping.Completeness
import Stencil.Proofs.Lineage.Definitions
import Stencil.Proofs.Overriding
import Stencil.Proofs.Stateful.Agreement
import Stencil.Proofs.Streaming
import Stencil.Proofs.Termination
import Stencil.Proofs.Shelf.Sources
import Stencil.Proofs.Shelf.Sessions
import Stencil.Proofs.Shelf.Reading
import Stencil.Proofs.Fitting
import Stencil.Proofs.Fitting.Pieces
import Stencil.Proofs.Fitting.Templates
import Stencil.Proofs.Shelf.Renewal
import Stencil.Proofs.Grammar
import Stencil.Proofs.Grammar.Soundness
import Stencil.Proofs.Grammar.Completeness
import Stencil.Proofs.Printing
import Stencil.Proofs.Printing.Spelling
import Stencil.Proofs.Printing.Lexing
import Stencil.Proofs.Printing.RoundTrip
import Stencil.Proofs.Printing.Image
import Stencil.Proofs.Lexing
import Stencil.Proofs.Nests.Soundness
import Stencil.Proofs.Nests.Completeness
import Stencil.Proofs.Spelt
import Stencil.Proofs.Spelt.Pieces
import Stencil.Proofs.Nests.Walk
import Stencil.Proofs.Guards
import Stencil.Proofs.Safety
import Stencil.Proofs.Lexing.Margins
import Stencil.Proofs.Tabbing
import Stencil.Proofs.Chronicle.Depth
import Stencil.Proofs.Chronicle.Cycling
import Stencil.Proofs.Chronicle.Tabbed
import Stencil.Proofs.Extending
import Stencil.Proofs.Filing
import Stencil.Proofs.Addressing.Fields
import Stencil.Proofs.Chronicle.Places
import Stencil.Proofs.Quoting.Literals
import Stencil.Proofs.Writing
import Stencil.Proofs.Ranging
import Stencil.Proofs.Markers
import Stencil.Proofs.Trees
import Stencil.Proofs.Numerals
import Stencil.Proofs.Numerals.Literals
import Stencil.Proofs.Growing
import Stencil.Proofs.Comparing
import Stencil.Proofs.Naming.Aliases
import Stencil.Proofs.Converting
import Stencil.Proofs.Pointing
