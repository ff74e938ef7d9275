import FailOpenCache.Cache.Batches
import FailOpenCache.Cache.Concurrency
import FailOpenCache.Cache.Lifecycle
import FailOpenCache.Cache.Sweep
import FailOpenCache.Proofs.Admin.Refusals
import FailOpenCache.Proofs.Cache.BatchReads
import FailOpenCache.Proofs.Cache.BatchWrites
import FailOpenCache.Proofs.Cache.Cancellations
import FailOpenCache.Proofs.Cache.Disconnected
import FailOpenCache.Proofs.Cache.HitRate
import FailOpenCache.Proofs.Cache.Interchange
import FailOpenCache.Proofs.Cache.Invalidations
import FailOpenCache.Proofs.Cache.Keyspace
import FailOpenCache.Proofs.Cache.Overrides
import FailOpenCache.Proofs.Cache.SingleFlight
import FailOpenCache.Proofs.Cache.TagInvalidations
import FailOpenCache.Proofs.Cache.Tagging
import FailOpenCache.Proofs.Cache.Transparency
import FailOpenCache.Proofs.Configuration
import FailOpenCache.Proofs.Guards.Occupancy
import FailOpenCache.Proofs.Key.Calls
import FailOpenCache.Proofs.Key.Readable
import FailOpenCache.Proofs.Pattern.Bracketed
import FailOpenCache.Proofs.Pattern.Unbracketed
import FailOpenCache.Proofs.Pattern.Unopened
import FailOpenCache.Proofs.RoundTrip
import FailOpenCache.Proofs.Store.Capacity
import FailOpenCache.Proofs.Store.Refusals
import FailOpenCache.Proofs.Store.Scans
import FailOpenCache.Proofs.Store.Sweeps
import FailOpenCache.Proofs.Store.Uses
import FailOpenCache.Proofs.Unwrapping
import FailOpenCache.Store.Either
import FailOpenCache.Store.Observed
