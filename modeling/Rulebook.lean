import Rulebook.Document.Invoice
import Rulebook.Proofs.Document.Axes
import Rulebook.Proofs.Evaluation.Literal
import Rulebook.Proofs.Evaluation.Recursion
import Rulebook.Proofs.Evaluation.Simple
import Rulebook.Proofs.Execution.Cut
import Rulebook.Proofs.Execution.FailFast
import Rulebook.Proofs.Execution.Filtering
import Rulebook.Proofs.Execution.Phases
import Rulebook.Proofs.Execution.Selection
import Rulebook.Proofs.Execution.Tokens
import Rulebook.Proofs.Expr.Constructs
import Rulebook.Proofs.Expr.RoundTrip
import Rulebook.Proofs.Expr.Spacing
import Rulebook.Proofs.Schema.CompactForm
import Rulebook.Proofs.Schema.Simulation
import Rulebook.Regex.Cache
import Rulebook.Schema.Cancellation
import Rulebook.Schema.Validate
import Rulebook.Scope.Forest
import Rulebook.Proofs.Scope.Resolution
import Rulebook.Proofs.Document.Visit
import Rulebook.Proofs.Text.Entities
import Rulebook.Proofs.Text.Mirrors
import Rulebook.Proofs.Expr.Escaping
import Rulebook.Proofs.Document.Directions
import Rulebook.Proofs.Evaluation.Quantifiers
import Rulebook.Proofs.Execution.Assertions
import Rulebook.Proofs.Safety.Range
import Rulebook.Proofs.Value.Converse
import Rulebook.Proofs.Evaluation.Anywhere
import Rulebook.Proofs.Evaluation.Continuation
import Rulebook.Proofs.Expr.Termination
import Rulebook.Proofs.Evaluation.Texts
import Rulebook.Proofs.Evaluation.Prefixes
import Rulebook.Proofs.Evaluation.Substrings
import Rulebook.Proofs.Regex.Caching
