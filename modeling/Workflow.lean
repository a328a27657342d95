import Workflow.Json.Basic
import Workflow.Document.Record
import Workflow.Proofs.Graph.Paths
import Workflow.Graph.Compile
import Workflow.Graph.Stepwise
import Workflow.Task.Check
import Workflow.Template
import Workflow.Process.Transition
import Workflow.Process.Launch
import Workflow.Process.Progress
import Workflow.Document.Event
import Workflow.Document.Run
import Workflow.Document.Answer
import Workflow.Store.Basic
import Workflow.Store.Tables
import Workflow.Engine.Call
import Workflow.Engine.Interleaving
import Workflow.Http.Service
import Workflow.Main
import Workflow.Proofs.Graph.CycleSearch
import Workflow.Proofs.Graph.Descent
import Workflow.Proofs.Graph.Reachability
import Workflow.Proofs.Task.WellFormed
import Workflow.Proofs.Process.Moves
import Workflow.Proofs.Process.Release
import Workflow.Proofs.Process.Settling
import Workflow.Proofs.Process.Readiness
import Workflow.Proofs.Process.Launch
import Workflow.Proofs.Process.Completion
import Workflow.Proofs.Graph.Violations
import Workflow.Proofs.Graph.WellDrawn
import Workflow.Proofs.Graph.BackwardWalk
import Workflow.Proofs.Graph.Predecessors
import Workflow.Proofs.Graph.VisitOrder
import Workflow.Proofs.Graph.Compiled
import Workflow.Proofs.Graph.Ordering
import Workflow.Proofs.Process.DiagramOrder
import Workflow.Proofs.Engine.Sessions
import Workflow.Proofs.Process.Log
import Workflow.Proofs.Process.Logged
import Workflow.Proofs.Engine.Outcome
import Workflow.Proofs.Engine.Preview
import Workflow.Proofs.Engine.Local
import Workflow.Proofs.Http.Service
import Workflow.Proofs.Engine.Lifecycle
import Workflow.Proofs.Engine.Serial
import Workflow.Proofs.Engine.Origin
import Workflow.Proofs.Engine.Columns
import Workflow.Proofs.Graph.Traversal
import Workflow.Proofs.Graph.Topological
import Workflow.Proofs.Process.Life
import Workflow.Proofs.Process.Clock
import Workflow.Proofs.Process.Commute
import Workflow.Proofs.Engine.FanOut
import Workflow.Proofs.Engine.Deadlines
import Workflow.Proofs.Graph.Chained
import Workflow.Proofs.Process.Deadlines
import Workflow.Proofs.Graph.Relisted
import Workflow.Proofs.Task.Verdict
import Workflow.Proofs.Engine.HandEdits
import Workflow.Proofs.Engine.Shelved
import Workflow.Proofs.Engine.Resave
import Workflow.Proofs.Process.Report
import Workflow.Proofs.Process.Summary
import Workflow.Proofs.Engine.Summary
import Workflow.Proofs.Process.Recalled
import Workflow.Proofs.Engine.Pauses
