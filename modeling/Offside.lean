import Offside.CommandLine.Arguments
import Offside.CommandLine.Execution
import Offside.Export
import Offside.Formatted
import Offside.Lexed
import Offside.Main
import Offside.Parsed
import Offside.Proofs.Format.Apart
import Offside.Proofs.Format.NormalForm
import Offside.Proofs.Lexing.Alone
import Offside.Proofs.Lexing.Balance
import Offside.Proofs.Lexing.Bookkeeping
import Offside.Proofs.Lexing.Columns
import Offside.Proofs.Lexing.LineBreaks
import Offside.Proofs.Lexing.Marks
import Offside.Proofs.Lexing.Splices
import Offside.Proofs.Lexing.Stack
import Offside.Proofs.Lexing.Statements
import Offside.Proofs.Lexing.Tabs
import Offside.Proofs.Lexing.WithinLines
import Offside.Proofs.Parsing.CarriageReturns
import Offside.Proofs.Parsing.Circles
import Offside.Proofs.Parsing.Closers
import Offside.Proofs.Parsing.Composition
import Offside.Proofs.Parsing.Height
import Offside.Proofs.Parsing.InPlace
import Offside.Proofs.Parsing.Limit
import Offside.Proofs.Parsing.Locality
import Offside.Proofs.Parsing.Naming
import Offside.Proofs.Parsing.Opening
import Offside.Proofs.Parsing.Order
import Offside.Proofs.Parsing.Productions
import Offside.Proofs.Parsing.Reports
import Offside.Proofs.Parsing.Restriction
import Offside.Proofs.Parsing.Shape
import Offside.Proofs.Parsing.Spacing
import Offside.Proofs.Parsing.Spans
import Offside.Proofs.Parsing.TypePaths
import Offside.Proofs.Tree.Export
import Offside.Proofs.Tree.Inlining
import Offside.Proofs.Tree.Walk
