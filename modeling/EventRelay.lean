import EventRelay.LogFormat
import EventRelay.Memory
import EventRelay.Settings.Basic
import EventRelay.Proofs.Backup.Holdings
import EventRelay.Proofs.Backup.Partition
import EventRelay.Proofs.Backup.Stamping
import EventRelay.Proofs.Breaker.Counters
import EventRelay.Proofs.Breaker.Progress
import EventRelay.Proofs.Breaker.Reference
import EventRelay.Proofs.Breaker.Verdict
import EventRelay.Proofs.Breaker.Window
import EventRelay.Proofs.Event.Dispatch
import EventRelay.Proofs.Event.OtherKind
import EventRelay.Proofs.Event.RoundTrip
import EventRelay.Proofs.Event.Tolerance
import EventRelay.Proofs.Event.Wire
import EventRelay.Proofs.Publisher.Account
import EventRelay.Proofs.Publisher.Loss
import EventRelay.Proofs.Publisher.Rebuilding
import EventRelay.Proofs.Publisher.Refusal
import EventRelay.Proofs.Publisher.Resending
import EventRelay.Proofs.Relay.AtLeastOnce
import EventRelay.Proofs.Relay.Passes
import EventRelay.Proofs.Replay.Accounts
import EventRelay.Proofs.Replay.Neighbours
import EventRelay.Proofs.Retry.Backoff
import EventRelay.Proofs.Settings.Loading
import EventRelay.Proofs.Settings.Redelivery
import EventRelay.Proofs.Store.History
