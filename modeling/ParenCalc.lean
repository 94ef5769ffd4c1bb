import ParenCalc.Fixture
import ParenCalc.Main
import ParenCalc.Proofs.Command.Agreement
import ParenCalc.Proofs.Command.Asking
import ParenCalc.Proofs.Command.Digits
import ParenCalc.Proofs.Command.Options
import ParenCalc.Proofs.Command.Tokens
import ParenCalc.Proofs.Command.Verbose
import ParenCalc.Proofs.Expr.Magnitude
import ParenCalc.Proofs.Fixture.Suite
import ParenCalc.Proofs.Fixture.Verdict
import ParenCalc.Proofs.Lexer.Listing
import ParenCalc.Proofs.Lexer.Placement
import ParenCalc.Proofs.Lexer.Uses
import ParenCalc.Proofs.Parser.Errors
import ParenCalc.Proofs.Parser.Limit
import ParenCalc.Proofs.Parser.Operations
import ParenCalc.Proofs.Parser.Spelling
import ParenCalc.Proofs.Run.Fault
import ParenCalc.Proofs.Run.File
import ParenCalc.Proofs.Run.Repeated
import ParenCalc.Proofs.Session.Fold
import ParenCalc.Proofs.Session.Programs
import ParenCalc.Proofs.Session.Survival
import ParenCalc.Proofs.Text.Blank
import ParenCalc.Proofs.Text.Lines
import ParenCalc.Proofs.Tree.Machine
import ParenCalc.Proofs.Tree.Reading
import ParenCalc.Proofs.Tree.Showing
