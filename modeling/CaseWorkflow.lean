import CaseWorkflow.Text.Quoted
import CaseWorkflow.Text.LowerCase
import CaseWorkflow.Text.Blank
import CaseWorkflow.Text.Digit
import CaseWorkflow.Text.WordChar
import CaseWorkflow.Number.Order
import CaseWorkflow.Number.Decimal
import CaseWorkflow.Number.Reader
import CaseWorkflow.Calendar.Iso
import CaseWorkflow.Json.Reader
import CaseWorkflow.Json.Writer
import CaseWorkflow.Template.Render
import CaseWorkflow.Condition.Evaluation
import CaseWorkflow.Definition.Validation
import CaseWorkflow.Definition.Showing
import CaseWorkflow.Event
import CaseWorkflow.Instance.Basic
import CaseWorkflow.Handler.Failure
import CaseWorkflow.Dispatch
import CaseWorkflow.Registry.Desk
import CaseWorkflow.Queue.Basic
import CaseWorkflow.Worker.Loop
import CaseWorkflow.Site
import CaseWorkflow.Main
import CaseWorkflow.Proofs.Number.Order
import CaseWorkflow.Proofs.Number.Rounding
import CaseWorkflow.Proofs.Number.Shortest
import CaseWorkflow.Proofs.Number.Digits
import CaseWorkflow.Proofs.Json.Number
import CaseWorkflow.Proofs.Json.Text
import CaseWorkflow.Proofs.Json.RoundTrip
import CaseWorkflow.Proofs.Json.Ascii
import CaseWorkflow.Proofs.Attempt
import CaseWorkflow.Proofs.Rows
import CaseWorkflow.Proofs.Queue.Message
import CaseWorkflow.Proofs.Queue.Board
import CaseWorkflow.Proofs.Queue.Store
import CaseWorkflow.Proofs.Queue.Operations
import CaseWorkflow.Proofs.Queue.Ledger
import CaseWorkflow.Proofs.Queue.Scene
import CaseWorkflow.Proofs.Queue.Loss
import CaseWorkflow.Proofs.Queue.Copies
import CaseWorkflow.Proofs.Queue.View
import CaseWorkflow.Proofs.Queue.Situation
import CaseWorkflow.Proofs.Worker.Processing
import CaseWorkflow.Proofs.Worker.Delivery
import CaseWorkflow.Proofs.Settings
import CaseWorkflow.Proofs.Registry.Reaction
import CaseWorkflow.Proofs.Condition.Ordering
import CaseWorkflow.Proofs.Registry.Handling
import CaseWorkflow.Proofs.Registry.Steps
import CaseWorkflow.Proofs.Registry.Isolation
import CaseWorkflow.Proofs.Queue.Guard
import CaseWorkflow.Proofs.Registry.Matching
import CaseWorkflow.Proofs.Calendar.Iso
import CaseWorkflow.Proofs.Registry.History
import CaseWorkflow.Proofs.Registry.Reading
import CaseWorkflow.Proofs.Queue.RoundTrip
import CaseWorkflow.Proofs.Condition.Dates
import CaseWorkflow.Proofs.Json.Reading
import CaseWorkflow.Proofs.Queue.Passage
import CaseWorkflow.Proofs.Service.Posting
import CaseWorkflow.Proofs.Service.Paths
import CaseWorkflow.Proofs.Number.Magnitude
import CaseWorkflow.Proofs.Number.Sum
import CaseWorkflow.Proofs.Queue.MarkEnd
import CaseWorkflow.Proofs.Dispatch.Chain
import CaseWorkflow.Proofs.Queue.Frame
import CaseWorkflow.Proofs.Queue.Claiming
import CaseWorkflow.Proofs.Queue.Window
import CaseWorkflow.Proofs.Worker.Stranding
import CaseWorkflow.Proofs.Queue.Bare
import CaseWorkflow.Proofs.Queue.Recovery
import CaseWorkflow.Proofs.Queue.Schedule
import CaseWorkflow.Proofs.Queue.Traffic
import CaseWorkflow.Proofs.Queue.Order
import CaseWorkflow.Proofs.Registry.Offering
import CaseWorkflow.Proofs.Service.Showing
import CaseWorkflow.Proofs.Service.Activation
import CaseWorkflow.Proofs.Queue.Standing
import CaseWorkflow.Proofs.Service.Standing
import CaseWorkflow.Proofs.Service.Duplicate
import CaseWorkflow.Proofs.Queue.Settling
import CaseWorkflow.Proofs.Queue.Expiry
import CaseWorkflow.Proofs.Worker.Exhaustion
import CaseWorkflow.Proofs.Condition.Meaning
import CaseWorkflow.Proofs.Registry.Reordering
import CaseWorkflow.Proofs.Condition.Containment
import CaseWorkflow.Proofs.Template.Meaning
import CaseWorkflow.Proofs.Template.Unknown
import CaseWorkflow.Proofs.Definition.Rules
import CaseWorkflow.Proofs.Dispatch.Logging
import CaseWorkflow.Proofs.Template.Substitution
import CaseWorkflow.Proofs.Definition.Reading
import CaseWorkflow.Proofs.Definition.RoundTrip
import CaseWorkflow.Proofs.Registry.Refusal
import CaseWorkflow.Proofs.Registry.Overrides
import CaseWorkflow.Proofs.Registry.Shadowing
