import FailOpenCache.Cache.Session
import FailOpenCache.Document.Storable
import FailOpenCache.Payload

/-!
# Single values

Reading, writing, deleting, probing and counting under one key. A store that declares values
serves them, and the fallback store serves them otherwise; counters follow a declaration of their
own. No operation fails: a read that cannot be answered finds nothing, and a write that the store
refuses is lost.
-/

namespace FailOpenCache.Connection

variable [Libraries] {σ : Type} [BackingStore σ] {α : Type} [Storable α]

/-- The payload under a key; there is no answer when the store fails. -/
def readPayload (key : String) : StateM (Connection σ) (Option (Option String)) := do
  if ← declares .keyValue then ask (.get key)
  else return some (← serve fun now fallback => fallback.get key now)

/-- The document of what a read found. A payload that can be read is a hit; one that cannot, and
nothing, are misses. -/
def settle (found : Option String) : StateM (Connection σ) (Option Document) := do
  match found with
  | none => do
    count .miss
    return none
  | some payload =>
    match Payload.decode payload with
    | .ok document => do
      count .hit
      return some document
    | .error _ => do
      count .decodeError
      count .miss
      return none

/-- The document under a key. -/
def get (key : String) : StateM (Connection σ) (Option Document) := do
  match ← readPayload key with
  | none => return none
  | some found => settle found

/-- The value under a key, if its document has the shape of one. -/
def getAs (α : Type) [Storable α] (key : String) : StateM (Connection σ) (Option α) := do
  return (← get key).bind Storable.read?

/-- The payload of a value, if it has a written form. -/
def payloadOf (value : α) : StateM (Connection σ) (Option String) := do
  let threshold := (← MonadState.get).cache.configuration.compressionThreshold
  return (Storable.write? value).map (Payload.encode threshold)

/-- Write a payload with a lifetime. -/
def writePayload (key payload : String) (lifetime : Seconds) : StateM (Connection σ) Unit := do
  if ← declares .keyValue then discard <| ask (.set key payload lifetime)
  else serve fun now fallback => ((), fallback.set key payload lifetime now)

/-- Write a value with the stated lifetime or that of its key. A value without a written form is
not written. -/
def set (key : String) (value : α) (stated : Option Seconds) :
    StateM (Connection σ) Unit := do
  match ← payloadOf value with
  | none => return ()
  | some payload => writePayload key payload (← lifetimeOf key stated)

/-- Delete keys, and count those that were there. -/
def deleteAll (keys : List String) : StateM (Connection σ) Nat := do
  if keys.isEmpty then return 0
  else if ← declares .keyValue then
    let removed : Option Nat ← ask (.delete keys)
    return removed.getD 0
  else serve fun _ fallback => fallback.delete keys

/-- Say whether a key is there. -/
def probe (key : String) : StateM (Connection σ) Bool := do
  if ← declares .keyValue then
    let found : Option Bool ← ask (.probe key)
    return found.getD false
  else serve fun now fallback => fallback.probe key now

/-- Add to a counter and say what it holds then; zero is answered when that fails. -/
def increment (key : String) (amount : Int) : StateM (Connection σ) Int := do
  if ← declares .counters then
    let sum : Option Int ← ask (.increment key amount)
    return sum.getD 0
  else return (← serve fun now fallback => fallback.increment key amount now).getD 0

end FailOpenCache.Connection

namespace FailOpenCache.Session

variable [Libraries] {σ : Type} [BackingStore σ] {α : Type} [Storable α]

/-- The document under a key. -/
def get (key : String) : StateM (Session σ) (Option Document) :=
  whenConnected none (Connection.get key)

/-- The value under a key, if its document has the shape of one. -/
def getAs (α : Type) [Storable α] (key : String) : StateM (Session σ) (Option α) :=
  whenConnected none (Connection.getAs α key)

/-- Write a value with the stated lifetime or that of its key. -/
def set (key : String) (value : α) (stated : Option Seconds) : StateM (Session σ) Unit :=
  whenConnected () (Connection.set key value stated)

/-- Delete a key. -/
def delete (key : String) : StateM (Session σ) Unit :=
  whenConnected () (discard (Connection.deleteAll [key]))

/-- Say whether a key is there. -/
def probe (key : String) : StateM (Session σ) Bool :=
  whenConnected false (Connection.probe key)

/-- Add to a counter and say what it holds then. -/
def increment (key : String) (amount : Int) : StateM (Session σ) Int :=
  whenConnected 0 (Connection.increment key amount)

end FailOpenCache.Session
