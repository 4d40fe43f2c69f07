import SeshatOps.Table
import SeshatOps.Program
import SeshatOps.Interleaving
import SeshatOps.Strings
import SeshatOps.Digest
import SeshatOps.Json
import SeshatOps.Time
import SeshatOps.Event
import SeshatOps.Canonical
import SeshatOps.Parse
import SeshatOps.RoundTrip
import SeshatOps.Admission
import SeshatOps.Atomicity
import SeshatOps.Backoff
import SeshatOps.Builders
import SeshatOps.Calendar
import SeshatOps.Checksum
import SeshatOps.ChecksumText
import SeshatOps.CompleteRebuild
import SeshatOps.Concurrent
import SeshatOps.Consumer
import SeshatOps.Controls
import SeshatOps.Convergence
import SeshatOps.Dataset
import SeshatOps.DateText
import SeshatOps.Decide
import SeshatOps.Decision
import SeshatOps.Delivery
import SeshatOps.Evaluate
import SeshatOps.Focus
import SeshatOps.ForecastComplete
import SeshatOps.ForecastCutoff
import SeshatOps.ForecastSource
import SeshatOps.Gaps
import SeshatOps.History
import SeshatOps.Idempotence
import SeshatOps.Identifiers
import SeshatOps.Ledger
import SeshatOps.Live
import SeshatOps.Lockstep
import SeshatOps.Log
import SeshatOps.Login
import SeshatOps.Loops
import SeshatOps.Moments
import SeshatOps.Notifications
import SeshatOps.Onward
import SeshatOps.Panel
import SeshatOps.Precision
import SeshatOps.Process
import SeshatOps.Rebuild
import SeshatOps.Redrive
import SeshatOps.RedriveBound
import SeshatOps.Relay
import SeshatOps.RelaySafety
import SeshatOps.RelaySource
import SeshatOps.RelyGuarantee
import SeshatOps.Replay
import SeshatOps.ReplayDays
import SeshatOps.Schema
import SeshatOps.Snapshot
import SeshatOps.SortedReads
import SeshatOps.Sorting
import SeshatOps.Source
import SeshatOps.SourceHistory
import SeshatOps.SourceIsolation
import SeshatOps.SourceSteps
import SeshatOps.Spine
import SeshatOps.Statements
import SeshatOps.Stock
import SeshatOps.TenantReplay
import SeshatOps.Trace
import SeshatOps.Visible
import SeshatOps.Wilson
