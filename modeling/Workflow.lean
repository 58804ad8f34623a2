import Workflow.Handle.Script
import Workflow.Hook.Script
import Workflow.Main
import Workflow.Proofs.Exit
import Workflow.Proofs.Merging
import Workflow.Signup
import Workflow.Suspension.Command
import Workflow.ValueMap.Command
import Workflow.Proofs.Completion
import Workflow.Proofs.Sound
import Workflow.Proofs.Passage
import Workflow.Proofs.Reachable
import Workflow.Proofs.Stack
import Workflow.Proofs.WellFormed
import Workflow.Proofs.Cascade
import Workflow.Proofs.Account
import Workflow.Proofs.Ledger
import Workflow.Proofs.Listening
import Workflow.Proofs.Lasting
import Workflow.Proofs.Growth
import Workflow.Proofs.Supply
import Workflow.Proofs.Prompt
import Workflow.Proofs.Continuation
import Workflow.Proofs.Parting
import Workflow.Proofs.Decision
import Workflow.Proofs.Apartness
import Workflow.Proofs.Absence
import Workflow.Proofs.Stranding
import Workflow.Proofs.Evolution
import Workflow.Proofs.Discipline
import Workflow.Proofs.Delivery
import Workflow.Proofs.FollowUp
import Workflow.Proofs.Conversation
import Workflow.Proofs.Legible
import Workflow.Proofs.Layout
import Workflow.Proofs.Admission
import Workflow.Proofs.Accumulation
import Workflow.Proofs.Refusal
import Workflow.Proofs.Misdirection
import Workflow.Proofs.Wording
import Workflow.Proofs.Notification
import Workflow.Proofs.Concatenation
import Workflow.Proofs.Staging
import Workflow.Proofs.Loading
import Workflow.Proofs.Halting
import Workflow.Proofs.Comparison
import Workflow.Proofs.Resolution
import Workflow.Proofs.ReadingBack
import Workflow.Proofs.Access
import Workflow.Proofs.Naming
import Workflow.Proofs.Nameless
