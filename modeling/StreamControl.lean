import StreamControl.Proofs.Agreement
import StreamControl.Proofs.Coherence
import StreamControl.Proofs.ControllerNames
import StreamControl.Proofs.Endings
import StreamControl.Proofs.Enduring
import StreamControl.Proofs.Courses
import StreamControl.Proofs.Deliveries
import StreamControl.Proofs.PhaseCoherence
import StreamControl.Proofs.QueryFates
import StreamControl.Proofs.Queue
import StreamControl.Proofs.Refusals
import StreamControl.Proofs.Retelling
import StreamControl.Proofs.Waiting
import StreamControl.Proofs.Unloading
import StreamControl.Proofs.HookSequences
import StreamControl.Proofs.HookProtocol
import StreamControl.Proofs.HookOrder
import StreamControl.Proofs.History
import StreamControl.Proofs.Leaving
import StreamControl.Proofs.Ledger
import StreamControl.Proofs.Claims
import StreamControl.Proofs.Lifetimes
import StreamControl.Proofs.Marks
import StreamControl.Proofs.Operations
import StreamControl.Proofs.Outline
import StreamControl.Proofs.Silence
import StreamControl.Proofs.StartAndStop
import StreamControl.Proofs.Subscriptions
import StreamControl.Proofs.Visits
import StreamControl.Proofs.TreeShape
import StreamControl.Proofs.UserCodeFrame
import StreamControl.Rehearsal.Contexts
import StreamControl.Rehearsal.Dispatches
import StreamControl.Rehearsal.Graphs
import StreamControl.Rehearsal.Run
import StreamControl.Proofs.Changes
import StreamControl.Proofs.Typing
import StreamControl.Proofs.Tenure
import StreamControl.Proofs.Accounts
import StreamControl.Proofs.Isolation
import StreamControl.Proofs.Views
import StreamControl.Proofs.FirstShutdown
import StreamControl.Proofs.Trails
import StreamControl.Proofs.Alike
import StreamControl.Proofs.DeadContexts
import StreamControl.Proofs.LateAnswers
import StreamControl.Proofs.Inquiries
import StreamControl.Proofs.StartReports
import StreamControl.Proofs.Exhaustion
import StreamControl.Proofs.Pushes
import StreamControl.Proofs.Popping
import StreamControl.Proofs.Drains
import StreamControl.Proofs.Requests
import StreamControl.Proofs.Destruction
import StreamControl.Proofs.Distribution
import StreamControl.Proofs.Keeping
import StreamControl.Proofs.Walks
import StreamControl.Proofs.Sparing
import StreamControl.Proofs.Restarts
import StreamControl.Proofs.FilterNames
import StreamControl.Proofs.Acyclicity
import StreamControl.Proofs.Reception
import StreamControl.Proofs.Feeds
import StreamControl.Proofs.Registry
import StreamControl.Proofs.Lookups
