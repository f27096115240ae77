import BulkDelivery.Operation.Json
import BulkDelivery.Session.Calls
import BulkDelivery.Settings.File
import BulkDelivery.Storage
import BulkDelivery.Proofs.Pipeline.Calls
import BulkDelivery.Proofs.Pipeline.Journal
import BulkDelivery.Proofs.Pipeline.Conservation
import BulkDelivery.Proofs.Format.Checkpoint
import BulkDelivery.Proofs.Pipeline.Recovery
import BulkDelivery.Proofs.EventLoop.Turn
import BulkDelivery.Proofs.EventLoop.Journal
import BulkDelivery.Proofs.EventLoop.Flush
import BulkDelivery.Proofs.Session.Numbering
import BulkDelivery.Proofs.Session.Barrier
import BulkDelivery.Proofs.Format.Checksum
import BulkDelivery.Proofs.Format.Corruption
import BulkDelivery.Proofs.Format.Stream
import BulkDelivery.Proofs.Format.Truncation
import BulkDelivery.Proofs.Format.Canonical
import BulkDelivery.Proofs.Pipeline.Precedence
import BulkDelivery.Proofs.EventLoop.Flight
import BulkDelivery.Proofs.EventLoop.Wakeup
import BulkDelivery.Proofs.Pipeline.Capacity
import BulkDelivery.Proofs.Pipeline.SingleSlot
import BulkDelivery.Proofs.Pipeline.Limits
import BulkDelivery.Proofs.Pipeline.Pause
import BulkDelivery.Proofs.EventLoop.Settlement
import BulkDelivery.Proofs.Pipeline.Overtaking
import BulkDelivery.Proofs.EventLoop.Closing
import BulkDelivery.Proofs.Buffer.Balance
import BulkDelivery.Proofs.Pipeline.Completion
import BulkDelivery.Proofs.Pipeline.Accounting
import BulkDelivery.Proofs.Pipeline.Age
import BulkDelivery.Proofs.Pipeline.Backpressure
import BulkDelivery.Proofs.Pipeline.Deadline
import BulkDelivery.Proofs.Pipeline.Reconciliation
import BulkDelivery.Proofs.Pipeline.Storable
import BulkDelivery.Proofs.Buffer.LongestPrefix
import BulkDelivery.Proofs.Format.Portions
import BulkDelivery.Proofs.Pipeline.Dispatching
import BulkDelivery.Proofs.Failure.FirstRule
import BulkDelivery.Proofs.Failure.Wrapping
import BulkDelivery.Proofs.Pipeline.Admission
import BulkDelivery.Proofs.EventLoop.Opening
import BulkDelivery.Proofs.EventLoop.Forcing
import BulkDelivery.Proofs.Session.Chronicle
import BulkDelivery.Proofs.Session.Forcing
import BulkDelivery.Proofs.Buffer.FewestBatches
import BulkDelivery.Proofs.Buffer.Words
import BulkDelivery.Proofs.Json.Operation
import BulkDelivery.Proofs.Settings.File
