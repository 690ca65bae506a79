import BranchingTime.Formula.Basic
import BranchingTime.Formula.Core
import BranchingTime.Region
import BranchingTime.Fault
import BranchingTime.Bounds
import BranchingTime.Fixpoint
import BranchingTime.System.Basic
import BranchingTime.Duration
import BranchingTime.Event
import BranchingTime.Checking.Access
import BranchingTime.Checking.Operators
import BranchingTime.Checking.Evaluate
import BranchingTime.Checking.Session
import BranchingTime.System.Build
import BranchingTime.Text.Blank
import BranchingTime.Text.Split
import BranchingTime.Text.Letter
import BranchingTime.Text.Identifier
import BranchingTime.Text.Printable
import BranchingTime.Text.Integer
import BranchingTime.FormulaFile.Token
import BranchingTime.FormulaFile.Parser
import BranchingTime.FormulaFile.Basic
import BranchingTime.Renaming
import BranchingTime.Files
import BranchingTime.System.Reading
import BranchingTime.System.Writing
import BranchingTime.Batch
import BranchingTime.Random.Stream
import BranchingTime.Random.Draws
import BranchingTime.Random.Shape
import BranchingTime.Expression.Tree
import BranchingTime.Expression.Literal
import BranchingTime.Expression.Token
import BranchingTime.Expression.Joint
import BranchingTime.Expression.Grammar
import BranchingTime.Expression.Types
import BranchingTime.Expression.Patterns
import BranchingTime.Expression.Generics
import BranchingTime.Expression.Declarations
import BranchingTime.Expression.Operands
import BranchingTime.Expression.Joined
import BranchingTime.Expression.Statements
import BranchingTime.Expression.Parser
import BranchingTime.System.Loading
import BranchingTime.CommandLine.Arguments
import BranchingTime.CommandLine.Run
import BranchingTime.Main
import BranchingTime.Proofs.Fixpoint
import BranchingTime.Proofs.Kripke
import BranchingTime.Proofs.Evaluation
import BranchingTime.Proofs.Interleaving
import BranchingTime.Proofs.Checker
import BranchingTime.Proofs.Soundness
import BranchingTime.Proofs.Exactness
import BranchingTime.Proofs.Pool
import BranchingTime.Proofs.Agreement
import BranchingTime.Proofs.Transparency
import BranchingTime.Proofs.Building
import BranchingTime.Proofs.Grammar
import BranchingTime.Proofs.Refinement
import BranchingTime.Proofs.Parsing
import BranchingTime.Proofs.Lexing
import BranchingTime.Proofs.Entries
import BranchingTime.Proofs.Rendering
import BranchingTime.Proofs.Expressible
import BranchingTime.Proofs.RoundTrip
import BranchingTime.Proofs.Orderly
import BranchingTime.Proofs.Removal
import BranchingTime.Proofs.Document
import BranchingTime.Proofs.Format
import BranchingTime.Proofs.Validity
import BranchingTime.Proofs.Locality
import BranchingTime.Proofs.Ledger
import BranchingTime.Proofs.Saving
import BranchingTime.Proofs.Congruence
import BranchingTime.Proofs.Expansion
import BranchingTime.Proofs.KnownPaths
import BranchingTime.Proofs.Columns
import BranchingTime.Proofs.Verdicts
import BranchingTime.Proofs.Prefixes
import BranchingTime.Proofs.Items
import BranchingTime.Proofs.Violations
import BranchingTime.Proofs.CoreForm
import BranchingTime.Proofs.Assembly
import BranchingTime.Proofs.Generation
import BranchingTime.Proofs.OperatorTable
import BranchingTime.Proofs.Extremal
