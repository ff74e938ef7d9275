import FailOpenCache.Cache.Computation

/-!
# Concurrent computations

Several callers ask for computed values at once. They start in order, and each comes to its value,
to its computation or to the wait for a lock before the first computation ends. Then those that
can go on land one after the other, in the order in which their computations end, which a schedule
tells: a computation ends, its value is written and its lock passes on to the oldest caller that
waits for it, which can go on from then.
-/

namespace FailOpenCache

/-- How far a caller has come. -/
inductive Phase (α ε : Type) where
  /-- The caller waits for a lock. -/
  | waiting (ticket : Ticket)
  /-- The caller's computation has begun. -/
  | computing (ticket : Ticket)
  /-- The caller has its result. -/
  | landed (result : Except ε α)

/-- A caller with what it asks for. -/
structure Flight (α ε : Type) where
  /-- The value to be computed. -/
  computation : Computation α ε
  /-- How far the caller has come. -/
  phase : Phase α ε

namespace Flight

variable {α ε : Type}

/-- The result of a caller that has one. -/
def result? (flight : Flight α ε) : Option (Except ε α) :=
  match flight.phase with
  | .landed result => some result
  | .waiting _ | .computing _ => none

/-- The caller's computation has begun. -/
def isComputing (flight : Flight α ε) : Bool :=
  match flight.phase with
  | .computing _ => true
  | .waiting _ | .landed _ => false

/-- The caller waits with this ticket. -/
def waitsWith (flight : Flight α ε) (ticket : Ticket) : Bool :=
  match flight.phase with
  | .waiting held => held == ticket
  | .computing _ | .landed _ => false

end Flight

/-- What several callers come to. -/
structure Landing (α ε : Type) where
  /-- The callers. -/
  flights : List (Flight α ε)
  /-- The places of the callers whose computations ran, in the order of their beginnings. -/
  ran : List Nat

/-- In which order computations end: for each turn, how many of the callers that can go on are
passed over. Behind the end of a schedule nobody is. -/
abbrev Schedule := List Nat

/-- Take the caller whose turn it is out of the line, where so many are passed over, counted round.
-/
def takeTurn? (passedOver : Nat) (ready : List Nat) : Option (Nat × List Nat) :=
  let turn := passedOver % ready.length
  ready[turn]?.map fun place => (place, ready.eraseIdx turn)

namespace Connection

variable [Libraries] {σ : Type} [BackingStore σ] {α ε : Type} [Storable α]

/-- Start a caller. -/
def takeOff (computation : Computation α ε) : StateM (Connection σ) (Flight α ε) := do
  match ← getAs α computation.key with
  | some value => return ⟨computation, .landed (.ok value)⟩
  | none => do
    let ticket ← takeTicket computation.key
    if (← MonadState.get).cache.guards.owns ticket then
      match ← lookAgain α computation.key with
      | some value => do
        giveBack ticket
        return ⟨computation, .landed (.ok value)⟩
      | none => return ⟨computation, .computing ticket⟩
    else return ⟨computation, .waiting ticket⟩

/-- Start the callers in order. -/
def takeOffAll : List (Computation α ε) → StateM (Connection σ) (List (Flight α ε))
  | [] => return []
  | computation :: rest => do
    let flight ← takeOff computation
    let later ← takeOffAll rest
    return flight :: later

/-- Let a caller that can go on come to its result. Yields the lock that it gave back, if it held
one, and whether its computation began only now. -/
def land (flight : Flight α ε) : StateM (Connection σ) (Flight α ε × Option Nat × Bool) := do
  match flight.phase with
  | .landed _ => return (flight, none, false)
  | .computing ticket => do
    keep flight.computation
    giveBack ticket
    return ({ flight with phase := .landed flight.computation.outcome }, some ticket.lock, false)
  | .waiting ticket => do
    let computed ← goOn flight.computation ticket
    return ({ flight with phase := .landed computed.result }, some ticket.lock, computed.ran)

/-- The place of the caller to which a lock has passed on, if somebody waited for it. -/
def successor? (flights : List (Flight α ε)) (lock : Option Nat) :
    StateM (Connection σ) (Option Nat) := do
  let guards := (← MonadState.get).cache.guards
  return (lock.bind guards.owner?).bind fun ticket =>
    flights.findIdx? fun flight => flight.waitsWith ticket

/-- Let those that can go on land, so many at most. -/
def landAll (schedule : Schedule) (ready : List Nat) (landing : Landing α ε) :
    Nat → StateM (Connection σ) (Landing α ε)
  | 0 => return landing
  | turns + 1 => do
    match takeTurn? (schedule.headD 0) ready with
    | none => return landing
    | some (place, later) =>
      match landing.flights[place]? with
      | none => landAll schedule.tail later landing turns
      | some flight => do
        let (landed, lock, ran) ← land flight
        let flights := landing.flights.set place landed
        let next ← successor? flights lock
        let began := if ran then landing.ran ++ [place] else landing.ran
        landAll schedule.tail (later ++ next.toList) ⟨flights, began⟩ turns

/-- The places of the callers whose computations have begun. -/
def computingPlaces (flights : List (Flight α ε)) : List Nat :=
  (List.range flights.length).filter fun place =>
    (flights[place]?.map Flight.isComputing).getD false

/-- Read or compute the values of several callers at once. -/
def computeAll (schedule : Schedule) (computations : List (Computation α ε)) :
    StateM (Connection σ) (Landing α ε) := do
  let flights ← takeOffAll computations
  let ready := computingPlaces flights
  landAll schedule ready ⟨flights, ready⟩ flights.length

end Connection

namespace Session

variable [Libraries] {σ : Type} [BackingStore σ] {α ε : Type} [Storable α]

/-- What callers come to without a connection: each computation runs. -/
def eachOutcome (computations : List (Computation α ε)) : Landing α ε where
  flights := computations.map fun computation => ⟨computation, .landed computation.outcome⟩
  ran := List.range computations.length

/-- Read or compute the values of several callers at once. -/
def computeAll (schedule : Schedule) (computations : List (Computation α ε)) :
    StateM (Session σ) (Landing α ε) :=
  whenConnected (eachOutcome computations) (Connection.computeAll schedule computations)

end Session

end FailOpenCache
