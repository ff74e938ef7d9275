import FailOpenCache.Cache.Session

/-!
# Sweeps

What has expired in the fallback store and the locks that nobody uses are dropped by a sweep, with
or without a connection. A background task sweeps after every interval; while the clock of the
cache stands still, one sweep leaves nothing to the next.
-/

namespace FailOpenCache

namespace Cache

/-- Drop what has expired and the locks without tickets, and count what has expired. -/
def sweep (cache : Cache) (now : Millis) : Nat × Cache :=
  let (removed, fallback) := cache.fallback.purge now
  (removed, { cache with fallback := fallback, guards := cache.guards.dropIdle })

end Cache

namespace Session

variable {σ : Type}

/-- Drop what has expired and the locks without tickets, and count what has expired. -/
def sweep (session : Session σ) : Nat × Session σ :=
  let (removed, cache) := session.cache.sweep session.now
  (removed, { session with cache := cache })

/-- A task that sweeps after every interval, which is a second at least, sweeps within a span; the
end of the span is not part of it. -/
def sweepsWithin (interval : Seconds) (span : Millis) : Bool :=
  decide (1000 * max interval 1 < span)

/-- Let a task sweep for a span while the clock of the cache stands still. -/
def sweepFor (interval : Seconds) (span : Millis) (session : Session σ) : Session σ :=
  if sweepsWithin interval span then session.sweep.2 else session

end Session

end FailOpenCache
