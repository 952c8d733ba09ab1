import Declarations.Arena.Builtin
import Declarations.Arena.Copy
import Declarations.Arena.Lemmas
import Declarations.Diagnostic.Queue
import Declarations.Error.Report
import Declarations.Inference.Purity
import Declarations.Inference.Verification
import Declarations.Jump
import Declarations.Layout
import Declarations.Nesting.Capture
import Declarations.Overload.Call
import Declarations.Overload.Chain
import Declarations.Overload.ConversionTable
import Declarations.Proofs.Answer
import Declarations.Proofs.AttributeList
import Declarations.Proofs.Interning
import Declarations.Proofs.Diagnostic.Distinct
import Declarations.Proofs.Diagnostic.Order
import Declarations.Proofs.Layout.Sharing
import Declarations.Proofs.Layout.Overlap
import Declarations.Proofs.Layout.Exact
import Declarations.Proofs.Layout.Union
import Declarations.Proofs.Arena.Closed
import Declarations.Proofs.Arena.CopyEnds
import Declarations.Proofs.Arena.AliasChain
import Declarations.Proofs.Inference.Record
import Declarations.Proofs.Inference.Entitlement
import Declarations.Proofs.Inference.Settlement
import Declarations.Proofs.Inference.Traversal
import Declarations.Proofs.Inference.Operation
import Declarations.Proofs.Inference.Withdrawal
import Declarations.Proofs.Inference.Retreat
import Declarations.Proofs.Inference.LateEffect
import Declarations.Proofs.Inference.Alike
import Declarations.Proofs.Inference.Tracking
import Declarations.Proofs.Inference.Incremental
import Declarations.Proofs.Inference.Interleaving
import Declarations.Proofs.Inference.Evolution
import Declarations.Proofs.Inference.Rejection
import Declarations.Proofs.Inference.Grounded
import Declarations.Proofs.Inference.Written
import Declarations.Proofs.Inference.Violation
import Declarations.Proofs.Inference.Independence
import Declarations.Proofs.Inference.Reliance
import Declarations.Proofs.Inference.Visited
import Declarations.Proofs.Inference.Together
import Declarations.Proofs.Inference.Purity
import Declarations.Proofs.Inference.BodyCheck
import Declarations.Proofs.Inference.Allocation
import Declarations.Proofs.Jump.Scope
import Declarations.Proofs.Jump.Body
import Declarations.Proofs.Jump.Blocks
import Declarations.Proofs.Jump.Check
import Declarations.Proofs.Jump.Schedule
import Declarations.Proofs.Jump.Verdicts
import Declarations.Proofs.Overload.Resolution
import Declarations.Proofs.Overload.Inferred
import Declarations.Proofs.Overload.Duel
import Declarations.Proofs.Overload.Queries
import Declarations.Proofs.Overload.Candidates
import Declarations.Proofs.Overload.Winner
import Declarations.Proofs.Overload.Chain
import Declarations.Proofs.Overload.Standing
import Declarations.Proofs.Overload.Call
import Declarations.Proofs.Overload.Report
import Declarations.Proofs.Nesting.Outlive
import Declarations.Proofs.Nesting.Marking
import Declarations.Proofs.Nesting.Alike
import Declarations.Proofs.Nesting.References
import Declarations.Proofs.Nesting.Visibility
import Declarations.Proofs.Overload.Sharing
import Declarations.Proofs.Overload.Insertion
import Declarations.Proofs.Overload.Forwarding
import Declarations.Proofs.Overload.BestFit
import Declarations.Proofs.Overload.Visit
import Declarations.Proofs.StorageWord
