import PegCheck.Json.Parser
import PegCheck.Json.Printer
import PegCheck.Grammar.Codec
import PegCheck.SymbolTable.Dump
import PegCheck.Analysis.Analyzer
import PegCheck.Host.Words
import PegCheck.Host.Front
import PegCheck.Report.Printer
import PegCheck.Proofs.Analysis.Rerun
import PegCheck.Proofs.Analysis.Rearrangement
import PegCheck.Proofs.Grammar.RoundTrip
import PegCheck.Proofs.Text.Lines
import PegCheck.Proofs.Host.Tokens
import PegCheck.Proofs.Host.Comments
import PegCheck.Proofs.Analysis.Passes
import PegCheck.Proofs.Analysis.Limit
import PegCheck.Proofs.Analysis.Annotations
import PegCheck.Proofs.Analysis.Parameters
import PegCheck.Proofs.Analysis.Movement
import PegCheck.Proofs.Host.Relocation
import PegCheck.Proofs.Analysis.Wrapping
import PegCheck.Proofs.Host.Identifiers
import PegCheck.Proofs.Host.Frugal
import PegCheck.Proofs.Host.Closing
import PegCheck.Proofs.Host.Phrase.Types
import PegCheck.Proofs.Host.Phrase.Expressions
import PegCheck.Proofs.Host.Phrase.Items
import PegCheck.Proofs.Host.Phrase.Statements
import PegCheck.Proofs.Host.Terminator
import PegCheck.Proofs.Host.Print
import PegCheck.Proofs.Host.Semicolons
import PegCheck.Proofs.SymbolTable.Queries
import PegCheck.Proofs.Report.Spans
import PegCheck.Proofs.Host.Lexemes
import PegCheck.Proofs.Report.Coverage
import PegCheck.Proofs.Text.Snippets
import PegCheck.Proofs.SymbolTable.Ordering
import PegCheck.Proofs.Grammar.Edited
import PegCheck.Proofs.Host.CommentBytes
import PegCheck.Proofs.SymbolTable.Merging
import PegCheck.Proofs.Host.WordComments
import PegCheck.Proofs.SymbolTable.Dump
import PegCheck.Proofs.Host.Brackets
import PegCheck.Proofs.Host.WordOffsets
