import StepGraph.Main
import StepGraph.Session.Basic
import StepGraph.Proofs.Graph.Endings
import StepGraph.Proofs.Graph.WellFormed
import StepGraph.Proofs.Run.Move
import StepGraph.Proofs.Graph.Registration
import StepGraph.Proofs.Run.Course
import StepGraph.Proofs.Run.Progress
import StepGraph.Proofs.Orchestrator.Change
import StepGraph.Proofs.Orchestrator.Shift
import StepGraph.Proofs.Orchestrator.Reach
import StepGraph.Proofs.Orchestrator.Balance
import StepGraph.Proofs.Orchestrator.Statistics
import StepGraph.Proofs.Orchestrator.Cancellation
import StepGraph.Proofs.Run.Itinerary
import StepGraph.Proofs.Run.Budget
import StepGraph.Proofs.Run.Assurance
import StepGraph.Proofs.Orchestrator.Line
import StepGraph.Proofs.Orchestrator.Happening
import StepGraph.Proofs.Orchestrator.Fate
import StepGraph.Proofs.Orchestrator.Store
import StepGraph.Proofs.Orchestrator.Charge
import StepGraph.Proofs.Orchestrator.Failure
import StepGraph.Proofs.Orchestrator.Crowd
import StepGraph.Proofs.Orchestrator.Turns
import StepGraph.Proofs.Orchestrator.Isolation
import StepGraph.Proofs.Graph.Walks
import StepGraph.Proofs.Graph.Rehearsal
import StepGraph.Proofs.Run.Dialogue
import StepGraph.Proofs.Run.Journey
import StepGraph.Proofs.Run.Liveness
import StepGraph.Proofs.Run.Ledger
import StepGraph.Proofs.Orchestrator.Submission
import StepGraph.Proofs.Orchestrator.Keeping
import StepGraph.Proofs.Orchestrator.Recall
import StepGraph.Proofs.Orchestrator.Discard
import StepGraph.Proofs.Orchestrator.Dismissal
import StepGraph.Proofs.Policy.Graph
import StepGraph.Proofs.Policy.Steps
import StepGraph.Proofs.Policy.Course
import StepGraph.Proofs.Policy.Verdict
import StepGraph.Proofs.Policy.Refinement
import StepGraph.Proofs.Policy.Document
import StepGraph.Proofs.Policy.Standard
import StepGraph.Proofs.Compliance.Graph
import StepGraph.Proofs.Threat.Graph
import StepGraph.Proofs.Threat.Steps
import StepGraph.Proofs.Workflow.Routing
import StepGraph.Proofs.Workflow.Chart
import StepGraph.Proofs.Workflow.Completion
import StepGraph.Proofs.Compliance.Steps
import StepGraph.Proofs.Compliance.Account
import StepGraph.Proofs.Threat.Response
import StepGraph.Proofs.Policy.Resumption
import StepGraph.Proofs.Service.Knowledge
import StepGraph.Proofs.Graph.Closing
import StepGraph.Proofs.Payload.Settled
import StepGraph.Proofs.Json.Token
import StepGraph.Proofs.Json.RoundTrip
import StepGraph.Proofs.Payload.Document
import StepGraph.Proofs.Orchestrator.Release
import StepGraph.Proofs.Orchestrator.Refusal
import StepGraph.Proofs.Run.Withdrawal
import StepGraph.Proofs.Graph.View
import StepGraph.Proofs.Policy.Lockstep
import StepGraph.Proofs.Policy.Context
import StepGraph.Proofs.Policy.Prompt
