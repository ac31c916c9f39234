import Rulebook.Main
import Rulebook.Proofs.Program.Spans
import Rulebook.Proofs.Run.Simulation
import Rulebook.Proofs.Run.Firings
import Rulebook.Proofs.Value.Fields
import Rulebook.Proofs.Run.Exchange
import Rulebook.Proofs.Run.Frame
import Rulebook.Proofs.Run.Independence
import Rulebook.Proofs.Run.Errors
import Rulebook.Proofs.Run.Meaning
import Rulebook.Proofs.Value.Sameness
import Rulebook.Proofs.Value.Writes
import Rulebook.Proofs.Run.Failures
import Rulebook.Proofs.Given.Culprits
import Rulebook.Proofs.Run.Division
import Rulebook.Proofs.Expr.Printing
import Rulebook.Proofs.Value.Order
import Rulebook.Proofs.Foresight
import Rulebook.Proofs.Token.Lines
import Rulebook.Proofs.Program.Foresight
import Rulebook.Proofs.Expr.Foresight
import Rulebook.Proofs.Program.Lines
import Rulebook.Proofs.Token.Faults
import Rulebook.Proofs.Token.Attempts
import Rulebook.Proofs.Calls
import Rulebook.Proofs.Memo.Requests
import Rulebook.Proofs.Number.Decimals
import Rulebook.Proofs.Number.Literals
import Rulebook.Proofs.Json.Documents
import Rulebook.Proofs.Number.Exponents
import Rulebook.Proofs.Program.Outline
import Rulebook.Proofs.Text.Order
