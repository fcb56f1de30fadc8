import StepWeaver.Fragment.Json
import StepWeaver.Model.Json
import StepWeaver.Weaver
import StepWeaver.Proofs.Allocation
import StepWeaver.Proofs.CallText
import StepWeaver.Proofs.Dispatch
import StepWeaver.Proofs.Operand
import StepWeaver.Proofs.Composition
import StepWeaver.Proofs.ExportExactness
import StepWeaver.Proofs.Execution
import StepWeaver.Proofs.Meaning
import StepWeaver.Proofs.Refusal
import StepWeaver.Proofs.LeastNumber
import StepWeaver.Proofs.PoolHistory
import StepWeaver.Proofs.RoundTrip
import StepWeaver.Proofs.NonInterference
import StepWeaver.Proofs.Initialisation
import StepWeaver.Proofs.SkipList
import StepWeaver.Proofs.Dependencies
import StepWeaver.Proofs.Schema
import StepWeaver.Proofs.Documents
import StepWeaver.Proofs.Conservation
import StepWeaver.Proofs.Merging
import StepWeaver.Proofs.StepSequence
import StepWeaver.Proofs.Bindings
import StepWeaver.Proofs.Sessions
import StepWeaver.Proofs.LookupRoles
import StepWeaver.Proofs.LocatorReading
import StepWeaver.Proofs.ScopeDiscipline
import StepWeaver.Proofs.PresenceAgreement
import StepWeaver.Proofs.AssignmentRendering
import StepWeaver.Proofs.Scanning
import StepWeaver.Proofs.Closure
import StepWeaver.Proofs.TokenCollisions
import StepWeaver.Proofs.BookHistory
import StepWeaver.Proofs.Descriptions
import StepWeaver.Proofs.RuleOrder
