import WireGraph.Document.Request
import WireGraph.Main
import WireGraph.Proofs.Cycle.Search
import WireGraph.Script.Run
import WireGraph.Proofs.Cycle.Trail
import WireGraph.Proofs.Graph.Change
import WireGraph.Proofs.Session.Run
import WireGraph.Proofs.Session.Difference
import WireGraph.Proofs.Session.Pids
import WireGraph.Proofs.Graph.Removal
import WireGraph.Proofs.Session.Commit
import WireGraph.Proofs.Session.Ledger
import WireGraph.Proofs.Session.Submission
import WireGraph.Proofs.Session.Delivery
import WireGraph.Proofs.Graph.Passage
import WireGraph.Proofs.Session.Course
import WireGraph.Proofs.Session.Gate
import WireGraph.Proofs.Graph.Report
import WireGraph.Proofs.Session.WellFormed
import WireGraph.Proofs.Session.Replay
import WireGraph.Proofs.Session.Lock
import WireGraph.Proofs.Cycle.Order
import WireGraph.Proofs.Graph.Verdict
import WireGraph.Proofs.Graph.Plan
import WireGraph.Proofs.Document.Stored
import WireGraph.Proofs.Graph.Clearing
import WireGraph.Proofs.Session.Admission
import WireGraph.Proofs.Session.Reload
import WireGraph.Proofs.Session.Reconcile
import WireGraph.Proofs.Graph.Guard
import WireGraph.Proofs.Session.Dirty
import WireGraph.Proofs.Session.Closing
import WireGraph.Proofs.Cycle.Coverage
import WireGraph.Proofs.Graph.Views
import WireGraph.Proofs.Batch
import WireGraph.Proofs.Document.Padding
import WireGraph.Proofs.Document.Defaults
