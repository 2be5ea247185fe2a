import ScriptTokenizer.Text.RangeSet
import ScriptTokenizer.Text.Alphabetic
import ScriptTokenizer.Text.Blank
import ScriptTokenizer.Text.Unprintable
import ScriptTokenizer.Text.Quoted
import ScriptTokenizer.Text.Width
import ScriptTokenizer.Fault
import ScriptTokenizer.LineColumn
import ScriptTokenizer.Source
import ScriptTokenizer.Lexeme
import ScriptTokenizer.Cursor
import ScriptTokenizer.Lexeme.Grammar
import ScriptTokenizer.Lexeme.Reading
import ScriptTokenizer.Kind
import ScriptTokenizer.Table
import ScriptTokenizer.Scan.Error
import ScriptTokenizer.Scan
import ScriptTokenizer.Navigator
import ScriptTokenizer.Input
import ScriptTokenizer.CommandLine.Operands
import ScriptTokenizer.CommandLine.Listing
import ScriptTokenizer.CommandLine.Diagnostic
import ScriptTokenizer.CommandLine.Trace
import ScriptTokenizer.CommandLine.Files
import ScriptTokenizer.CommandLine.Run
import ScriptTokenizer.Main
import ScriptTokenizer.Proofs.Columns
import ScriptTokenizer.Proofs.Seeking
import ScriptTokenizer.Proofs.LexemeReading
import ScriptTokenizer.Proofs.CharClasses
import ScriptTokenizer.Proofs.GrammarRules
import ScriptTokenizer.Proofs.LexemeRuns
import ScriptTokenizer.Proofs.Places
import ScriptTokenizer.Proofs.ScanRuns
import ScriptTokenizer.Proofs.Totality
import ScriptTokenizer.Proofs.TokenRows
import ScriptTokenizer.Proofs.GrammarLocality
import ScriptTokenizer.Proofs.Juxtaposition
import ScriptTokenizer.Proofs.Outcomes
import ScriptTokenizer.Proofs.PolicyComparison
import ScriptTokenizer.Proofs.LineByLine
import ScriptTokenizer.Proofs.Layout
import ScriptTokenizer.Proofs.Blanking
import ScriptTokenizer.Proofs.Respacing
import ScriptTokenizer.Proofs.Fragments
import ScriptTokenizer.Proofs.Appending
import ScriptTokenizer.Proofs.Likeness
import ScriptTokenizer.Proofs.ErrorPlaces
import ScriptTokenizer.Proofs.TableGrowth
import ScriptTokenizer.Proofs.Walking
import ScriptTokenizer.Proofs.CurrentToken
import ScriptTokenizer.Proofs.Arrivals
import ScriptTokenizer.Proofs.OperandOutcomes
import ScriptTokenizer.Proofs.SeparateRuns
import ScriptTokenizer.Proofs.Deliveries
import ScriptTokenizer.Proofs.Addressing
import ScriptTokenizer.Proofs.LineFeeds
import ScriptTokenizer.Proofs.Offers
import ScriptTokenizer.Proofs.Listings
import ScriptTokenizer.Proofs.SearchEnds
import ScriptTokenizer.Proofs.Accounting
import ScriptTokenizer.Proofs.OperandGrammar
import ScriptTokenizer.Proofs.DisplayLines
