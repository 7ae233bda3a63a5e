import Stencil.Code.Basic
import Stencil.Code.Check
import Stencil.Code.Fuse
import Stencil.Code.Generate
import Stencil.Code.Listing
import Stencil.Code.Varint
import Stencil.Code.Wire
import Stencil.CommandLine
import Stencil.Compile
import Stencil.Decimal.Binary
import Stencil.Decimal.Reader
import Stencil.Decimal.Shortest
import Stencil.Decimal.Style
import Stencil.Dictionary
import Stencil.Engine
import Stencil.Failure
import Stencil.Fault
import Stencil.Files.Disk
import Stencil.Files.Path
import Stencil.Library
import Stencil.Machine.Run
import Stencil.Machine.State
import Stencil.Machine.Step
import Stencil.Place
import Stencil.Pool
import Stencil.Store.Basic
import Stencil.Store.Cache
import Stencil.Store.Load
import Stencil.Store.Sources
import Stencil.Template.Grammar
import Stencil.Template.Node
import Stencil.Template.Outline
import Stencil.Template.Parse
import Stencil.Template.Scope
import Stencil.Text.Bytes
import Stencil.Text.Html
import Stencil.Text.Percent
import Stencil.Text.Quoted
import Stencil.Text.Search
import Stencil.Text.Trim
import Stencil.Token.Basic
import Stencil.Token.Listing
import Stencil.Token.Scan
import Stencil.Token.Stream
import Stencil.Token.Symbols
import Stencil.Unicode.Blank
import Stencil.Unicode.Boundaries
import Stencil.Unicode.Case
import Stencil.Unicode.CaseTable
import Stencil.Unicode.Printable
import Stencil.Unicode.Word
import Stencil.Value.Basic
import Stencil.Value.Function
import Stencil.Value.Number
import Stencil.Value.Object
import Stencil.Value.Order
import Stencil.Main
import Stencil.Proofs.Machine.Scene
import Stencil.Proofs.Meaning.Basic
import Stencil.Proofs.Machine.Instructions
import Stencil.Proofs.Compilation.Schemes
import Stencil.Proofs.Compilation.Blocks
import Stencil.Proofs.Compilation.Built
import Stencil.Proofs.Compilation.Calls
import Stencil.Proofs.Compilation.Expressions
import Stencil.Proofs.Compilation.Statements
import Stencil.Proofs.Compilation.Runs
import Stencil.Proofs.Template.Expressions
import Stencil.Proofs.Template.Blocks
import Stencil.Proofs.Compilation.Templates
import Stencil.Proofs.Compilation.Correctness
import Stencil.Proofs.Machine.Moves
import Stencil.Proofs.Compilation.Reachable
import Stencil.Proofs.Compilation.Discipline
import Stencil.Proofs.Meaning.Total
import Stencil.Proofs.Compilation.Halting
import Stencil.Proofs.Code.Torn
import Stencil.Proofs.Template.Hygiene
import Stencil.Proofs.Compilation.Escaping
import Stencil.Proofs.Text.Search
import Stencil.Proofs.Token.Segments
import Stencil.Proofs.Text.Words
import Stencil.Proofs.Token.Lexemes
import Stencil.Proofs.Template.Again
import Stencil.Proofs.Template.Literals
import Stencil.Proofs.Template.Printed
import Stencil.Proofs.Template.RoundTrip
import Stencil.Proofs.Template.Derivable
import Stencil.Proofs.Template.LoopNames
import Stencil.Proofs.Template.Structure
import Stencil.Proofs.Text.Percent
import Stencil.Proofs.Code.Faithful
import Stencil.Proofs.Store.Caches
import Stencil.Proofs.Compilation.Undated
import Stencil.Proofs.Store.Loading
import Stencil.Proofs.Store.Histories
import Stencil.Proofs.Files.Disk
import Stencil.Proofs.Store.Searches
import Stencil.Proofs.Machine.Bare
import Stencil.Proofs.Engine.Pasts
import Stencil.Proofs.Machine.Straying
import Stencil.Proofs.Machine.SlotStack
import Stencil.Proofs.Store.Damaged
import Stencil.Proofs.Compilation.Variables
import Stencil.Proofs.Value.Exact
import Stencil.Proofs.Token.Ending
import Stencil.Proofs.Template.Positions
import Stencil.Proofs.Compilation.Refusals
import Stencil.Proofs.Value.LoopState
import Stencil.Proofs.Template.LoopReads
import Stencil.Proofs.Compilation.Rounds
import Stencil.Proofs.Compilation.Iterations
import Stencil.Proofs.Value.Unary
import Stencil.Proofs.Machine.Ranges
import Stencil.Proofs.Machine.Limits
import Stencil.Proofs.Compilation.Handed
import Stencil.Proofs.Compilation.Pairs
import Stencil.Proofs.Machine.CallStack
import Stencil.Proofs.Compilation.Integers
import Stencil.Proofs.Compilation.Forms
import Stencil.Proofs.Text.Pieces
import Stencil.Proofs.Store.Confined
import Stencil.Proofs.Compilation.Joined
import Stencil.Proofs.Token.Cursors
import Stencil.Proofs.Decimal.Counts
import Stencil.Proofs.Token.Tables
import Stencil.Proofs.Store.FileNames
