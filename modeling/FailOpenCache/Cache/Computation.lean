import FailOpenCache.Cache.Invalidation

/-!
# Computed values

A computed value is read first. If it is not there, the lock of its key is taken and the value is
read again, because whoever held the lock before may have written it; only then it is computed,
written and handed out. A computation that fails writes nothing, and the lock is given back in
every case. Without a connection every computation runs and nothing is kept.
-/

namespace FailOpenCache

/-- A value to be computed under a key. -/
structure Computation (α ε : Type) where
  /-- The key. -/
  key : String
  /-- The stated lifetime. -/
  stated : Option Seconds
  /-- The tags under which the value is written. -/
  tags : List String
  /-- What the computation comes to when it runs. -/
  outcome : Except ε α

/-- What a caller gets. -/
structure Computed (α ε : Type) where
  /-- The value, or the error of the computation. -/
  result : Except ε α
  /-- The computation ran. -/
  ran : Bool

namespace Connection

variable [Libraries] {σ : Type} [BackingStore σ] {α ε : Type} [Storable α]

/-- Take a ticket for the lock of a key. -/
def takeTicket (key : String) : StateM (Connection σ) Ticket := fun connection =>
  let (ticket, guards) := connection.cache.guards.take key
  (ticket, { connection with cache := { connection.cache with guards := guards } })

/-- Give a ticket back. -/
def giveBack (ticket : Ticket) : StateM (Connection σ) Unit :=
  modify fun connection =>
    { connection with
      cache := { connection.cache with guards := connection.cache.guards.giveBack ticket } }

/-- Look for a value behind its lock; if it is not there, its computation begins. -/
def lookAgain (α : Type) [Storable α] (key : String) : StateM (Connection σ) (Option α) := do
  match ← getAs α key with
  | some value => return some value
  | none => do
    count .computation
    return none

/-- Write what a computation came to; an error is not written. -/
def keep (computation : Computation α ε) : StateM (Connection σ) Unit := do
  match computation.outcome with
  | .error _ => return ()
  | .ok value =>
    if computation.tags.isEmpty then set computation.key value computation.stated
    else setTagged computation.key value computation.tags computation.stated

/-- Go on behind the lock: hand out the value, or compute and write it. Then the lock is given
back. -/
def goOn (computation : Computation α ε) (ticket : Ticket) :
    StateM (Connection σ) (Computed α ε) := do
  match ← lookAgain α computation.key with
  | some value => do
    giveBack ticket
    return ⟨.ok value, false⟩
  | none => do
    keep computation
    giveBack ticket
    return ⟨computation.outcome, true⟩

/-- Read a value, or compute it when nobody else is about to. -/
def compute (computation : Computation α ε) : StateM (Connection σ) (Computed α ε) := do
  match ← getAs α computation.key with
  | some value => return ⟨.ok value, false⟩
  | none => do
    let ticket ← takeTicket computation.key
    goOn computation ticket

/-- Read a value, or begin a computation that is given up before it comes to anything. -/
def computeAbandoned (α : Type) [Storable α] (key : String) :
    StateM (Connection σ) (Option α) := do
  match ← getAs α key with
  | some value => return some value
  | none => do
    let ticket ← takeTicket key
    let found ← lookAgain α key
    giveBack ticket
    return found

end Connection

namespace Session

variable [Libraries] {σ : Type} [BackingStore σ] {α ε : Type} [Storable α]

/-- Read a value, or compute it when nobody else is about to. -/
def compute (computation : Computation α ε) : StateM (Session σ) (Computed α ε) :=
  whenConnected ⟨computation.outcome, true⟩ (Connection.compute computation)

/-- Read a value, or begin a computation that is given up before it comes to anything. -/
def computeAbandoned (α : Type) [Storable α] (key : String) : StateM (Session σ) (Option α) :=
  whenConnected none (Connection.computeAbandoned α key)

/-- Read the result of a request handler, or compute it. -/
def computeEndpoint (policy : Key.EndpointPolicy) (user : Option String)
    (keywords : List (String × Key.Argument)) (outcome : Except ε α) :
    StateM (Session σ) (Computed α ε) :=
  compute ⟨policy.key user keywords, policy.lifetime, policy.tags, outcome⟩

end Session

end FailOpenCache
