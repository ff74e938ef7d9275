import FailOpenCache.Cache.Session
import FailOpenCache.Store.Memory

/-!
# The life of a link

A store is attached by greeting it; one that does not answer leaves the link down. A cache that is
given no store looks for one at the configured place, where a store in memory can be asked for.
Closing takes leave of the store, whatever it says, and forgets what the fallback store held.
-/

namespace FailOpenCache.Session

variable {σ : Type} [BackingStore σ]

/-- Put a link in place of another. -/
def relink (session : Session σ) (link : Link σ) : Session σ :=
  { session with link := link }

/-- Greet a store and link it. -/
def attach (store : σ) (session : Session σ) : Session σ :=
  match BackingStore.answer .ping session.now store with
  | (.ok _, greeted) => session.relink (.connected greeted)
  | (.error _, refusing) => session.relink (.failed (some refusing))

/-- What the place of a store in memory starts with. -/
def memoryScheme : String := "memory://"

/-- A store in memory is asked for. -/
def namesMemory (url : String) : Bool :=
  memoryScheme.toList.isPrefixOf url.toList

/-- Link the store at the configured place. A store in memory is made there and then; no other
place can be reached from here. -/
def connect (ofMemory : MemoryStore → σ) (session : Session σ) : Session σ :=
  match session.cache.configuration.storeUrl with
  | none => session.relink (.idle session.link.store?)
  | some url =>
    if namesMemory url then
      session.attach (ofMemory (.ofCapacity session.cache.configuration.memoryCapacity))
    else session.relink (.failed session.link.store?)

/-- Take leave of the store. -/
def farewell (now : Millis) : Link σ → Link σ
  | .connected store => .idle (some (BackingStore.answer .close now store).2)
  | .idle last => .idle last
  | .failed last => .idle last

/-- Take leave of the store and forget what the fallback store held. -/
def close (session : Session σ) : Session σ :=
  { session with
    cache := { session.cache with fallback := .empty }
    link := farewell session.now session.link }

end FailOpenCache.Session
