import FailOpenCache.Configuration
import FailOpenCache.Fallback
import FailOpenCache.Guards
import FailOpenCache.Statistics

/-!
# Sessions

A session is a cache with its link to a backing store and the current instant. Operations are
written for a connection, which a session has while its link is up; `Session.whenConnected` runs
them then, and otherwise answers what the caller provides and leaves everything as it is. On a
connection there are three ways to reach the outside of an operation: a request to the store,
whose failure is counted and turned into no answer; a call to the fallback store; and the count of
an event.
-/

namespace FailOpenCache

/-- What a cache keeps in the process. -/
structure Cache where
  /-- The settings. -/
  configuration : Configuration
  /-- The rules for lifetimes. -/
  rules : LifetimeRules
  /-- The values and sets that the backing store cannot serve. -/
  fallback : FallbackStore
  /-- The guards against concurrent computations. -/
  guards : Guards
  /-- The counters. -/
  counters : Counters
deriving DecidableEq

namespace Cache

/-- A new cache. -/
def ofConfiguration (configuration : Configuration) : Cache where
  configuration := configuration
  rules := .ofList configuration.defaultLifetime configuration.overrides
  fallback := .empty
  guards := .ofBound configuration.maxGuards
  counters := .zero

/-- The counters with what the cache holds at the moment. -/
def report (cache : Cache) : Report :=
  ⟨cache.counters, cache.fallback.size, cache.guards.size⟩

/-- Count an event. -/
def record (cache : Cache) (event : Event) : Cache :=
  { cache with counters := cache.counters.record event }

end Cache

/-- The state of the link to the backing store. -/
inductive Status where
  /-- There is no store, or it has been left. -/
  | notConfigured
  /-- The store could not be reached. -/
  | failed
  /-- The store has been greeted. -/
  | connected
deriving DecidableEq

/-- The name of a status. -/
def Status.name : Status → String
  | notConfigured => "not_configured"
  | failed => "failed"
  | connected => "connected"

/-- The link to a backing store. A link that is down keeps the store of last time as it was
left. -/
inductive Link (σ : Type) where
  /-- There is no store, or it has been left. -/
  | idle (last : Option σ)
  /-- The store could not be reached. -/
  | failed (last : Option σ)
  /-- The store has been greeted. -/
  | connected (store : σ)

namespace Link

variable {σ : Type}

/-- The state of the link. -/
def status : Link σ → Status
  | idle _ => .notConfigured
  | failed _ => .failed
  | connected _ => .connected

/-- The store of the link, or that of last time. -/
def store? : Link σ → Option σ
  | idle last => last
  | failed last => last
  | connected store => some store

end Link

/-- A cache with its link and the current instant. -/
structure Session (σ : Type) where
  /-- What the cache keeps in the process. -/
  cache : Cache
  /-- The link to the backing store. -/
  link : Link σ
  /-- The current instant. -/
  now : Millis

/-- A cache with a backing store that has been greeted. -/
structure Connection (σ : Type) where
  /-- What the cache keeps in the process. -/
  cache : Cache
  /-- The backing store. -/
  store : σ
  /-- The current instant. -/
  now : Millis

namespace Session

variable {σ α : Type}

/-- A new cache without a link. -/
def ofConfiguration (configuration : Configuration) (now : Millis) : Session σ :=
  ⟨.ofConfiguration configuration, .idle none, now⟩

/-- The state of the link. -/
def status (session : Session σ) : Status := session.link.status

/-- The link is up. -/
def isConnected (session : Session σ) : Bool := session.status == .connected

/-- Let time pass. -/
def advance (session : Session σ) (span : Millis) : Session σ :=
  { session with now := advanceClock session.now span }

/-- Give a stem a lifetime, for the writes to come. -/
def override (session : Session σ) (stem : String) (lifetime : Seconds) : Session σ :=
  { session with
    cache := { session.cache with rules := session.cache.rules.override stem lifetime } }

/-- Run an operation on the connection; without one, answer something else and change nothing. -/
def whenConnected (otherwise : α) (operation : StateM (Connection σ) α) :
    StateM (Session σ) α := fun session =>
  match session.link with
  | .connected store =>
    let (answer, left) := operation ⟨session.cache, store, session.now⟩
    (answer, ⟨left.cache, .connected left.store, left.now⟩)
  | .idle _ | .failed _ => (otherwise, session)

/-- An operation without a connection answers what it is given and changes nothing. -/
theorem whenConnected_of_down {session : Session σ} (down : session.isConnected = false)
    (otherwise : α) (operation : StateM (Connection σ) α) :
    whenConnected otherwise operation session = (otherwise, session) := by
  obtain ⟨cache, link, now⟩ := session
  cases link with
  | connected store => simp [isConnected, status, Link.status] at down
  | idle last => rfl
  | failed last => rfl

end Session

namespace Connection

variable {σ α : Type}

/-- Count an event. -/
def count (event : Event) : StateM (Connection σ) Unit :=
  modify fun connection => { connection with cache := connection.cache.record event }

/-- The store declares a group of operations. -/
def declares [BackingStore σ] (group : OperationGroup) : StateM (Connection σ) Bool := do
  return (BackingStore.capabilities (← get).store).declares group

/-- What the store answers to a request. -/
def request [BackingStore σ] (request : Request) :
    StateM (Connection σ) (Except StoreError request.Reply) := fun connection =>
  let (reply, store) := BackingStore.answer request connection.now connection.store
  (reply, { connection with store := store })

/-- What the store answers to a request; a failure is counted and is no answer. -/
def ask [BackingStore σ] (asked : Request) : StateM (Connection σ) (Option asked.Reply) := do
  match ← request asked with
  | .ok reply => return some reply
  | .error _ => do
    count .storeError
    return none

/-- Call the fallback store at the current instant. -/
def inProcess (operation : Millis → FallbackStore → α × FallbackStore) :
    StateM (Connection σ) α := fun connection =>
  let (answer, fallback) := operation connection.now connection.cache.fallback
  (answer, { connection with cache := { connection.cache with fallback := fallback } })

/-- Serve an operation in the process, which is counted. -/
def serve (operation : Millis → FallbackStore → α × FallbackStore) :
    StateM (Connection σ) α := do
  count .fallback
  inProcess operation

/-- The lifetime of a write under a key. -/
def lifetimeOf (key : String) (stated : Option Seconds) : StateM (Connection σ) Seconds := do
  return (← get).cache.rules.resolve key stated

end Connection

end FailOpenCache
