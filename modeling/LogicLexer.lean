import LogicLexer.Main
import LogicLexer.FileTree
import LogicLexer.Proofs.Scanner.MaximalMunch
import LogicLexer.Proofs.Layout.Extension
import LogicLexer.Proofs.Layout.Spacing
import LogicLexer.Proofs.Layout.Isolation
import LogicLexer.Proofs.SymbolTable.FirstOccurrence
import LogicLexer.Proofs.SymbolTable.Interning
import LogicLexer.Proofs.Session.Pass
import LogicLexer.Proofs.Line.Place
import LogicLexer.Proofs.Diagnostic
import LogicLexer.Proofs.Report.Caret
import LogicLexer.Proofs.Report.Failure
import LogicLexer.Proofs.Scanner.Cursor
import LogicLexer.Proofs.CommandLine.Batch
import LogicLexer.Proofs.Number.Nearest
import LogicLexer.Proofs.Number.Positional
import LogicLexer.Proofs.Layout.Numbers
import LogicLexer.Proofs.Number.Decimal
import LogicLexer.Proofs.Token.Kind
import LogicLexer.Proofs.Token.Line
import LogicLexer.Proofs.Token.Float
import LogicLexer.Proofs.Token.Payload
import LogicLexer.Proofs.CommandLine.FileSource
import LogicLexer.Proofs.CommandLine.Output
