import FailOpenCache.Number.Binary64

/-!
# Statistics

The cache counts six kinds of events. A report adds to the counters what the process holds at the
moment, and the share of the reads that were hits.
-/

namespace FailOpenCache

/-- Something that the cache counts. -/
inductive Event where
  /-- A read found a value. -/
  | hit
  /-- A read found none. -/
  | miss
  /-- A call to the store failed. -/
  | storeError
  /-- A stored payload could not be read. -/
  | decodeError
  /-- An operation was served in the process. -/
  | fallback
  /-- A computation ran. -/
  | computation
deriving DecidableEq

/-- How often each event has happened. -/
structure Counters where
  /-- Reads that found a value. -/
  hits : Nat
  /-- Reads that found none. -/
  misses : Nat
  /-- Failed calls to the store. -/
  storeErrors : Nat
  /-- Payloads that could not be read. -/
  decodeErrors : Nat
  /-- Operations served in the process. -/
  fallbackOperations : Nat
  /-- Computations. -/
  computations : Nat
deriving DecidableEq

namespace Counters

/-- Nothing has happened. -/
def zero : Counters := ⟨0, 0, 0, 0, 0, 0⟩

/-- Count an event. -/
def record (counters : Counters) : Event → Counters
  | .hit => { counters with hits := counters.hits + 1 }
  | .miss => { counters with misses := counters.misses + 1 }
  | .storeError => { counters with storeErrors := counters.storeErrors + 1 }
  | .decodeError => { counters with decodeErrors := counters.decodeErrors + 1 }
  | .fallback => { counters with fallbackOperations := counters.fallbackOperations + 1 }
  | .computation => { counters with computations := counters.computations + 1 }

/-- The share of the reads that were hits; it is zero when there were none. -/
def hitRate (counters : Counters) : Binary64 :=
  (Binary64.ofRatio? counters.hits (counters.hits + counters.misses)).getD (.zero false)

end Counters

/-- The counters with what the process holds at the moment. -/
structure Report where
  /-- The counters. -/
  counters : Counters
  /-- The values and sets that are kept in the process. -/
  fallbackEntries : Nat
  /-- The locks in the table of guards. -/
  guards : Nat
deriving DecidableEq

end FailOpenCache
