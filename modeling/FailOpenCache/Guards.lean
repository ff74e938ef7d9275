import FailOpenCache.Table

/-!
# Guards against concurrent computations

Whoever wants to compute the value of a key takes a ticket for the lock of the key. The tickets of
a lock are served in the order in which they were taken: the oldest one owns the lock, the others
wait, and when a ticket is given back, waiting or owning, the next oldest moves up. The table that
finds the lock of a key is bounded: a new key that finds it full first prunes the locks without
tickets. A lock with a ticket is never pruned, so the tickets of one key are all for one lock.
-/

namespace FailOpenCache

/-- A place in the order of service of a lock. -/
structure Ticket where
  /-- The number of the ticket; no two tickets share one. -/
  number : Nat
  /-- The key that it was taken for. -/
  key : String
  /-- The number of the lock. -/
  lock : Nat
deriving DecidableEq

/-- The locks of keys and the tickets for them. -/
structure Guards where
  /-- The number of the lock of each key. -/
  locks : Table Nat
  /-- The tickets that have not been given back, the oldest first. -/
  tickets : List Ticket
  /-- How many locks the table may have before a new one prunes it. -/
  bound : Nat
  /-- How many tickets had to wait when they were taken. -/
  contended : Nat
  /-- The number of the next lock. -/
  nextLock : Nat
  /-- The number of the next ticket. -/
  nextTicket : Nat
deriving DecidableEq

namespace Guards

/-- No locks, and a table for so many of them, and for one at least. -/
def ofBound (bound : Nat) : Guards := ⟨.empty, [], max bound 1, 0, 0, 0⟩

/-- How many locks the table has. -/
def size (guards : Guards) : Nat := guards.locks.size

/-- The table has no lock. -/
def isEmpty (guards : Guards) : Bool := guards.locks.isEmpty

/-- There is a ticket for the lock. -/
def inUse (guards : Guards) (lock : Nat) : Bool :=
  guards.tickets.any fun ticket => ticket.lock == lock

/-- Drop the locks without tickets. -/
def dropIdle (guards : Guards) : Guards :=
  { guards with locks := guards.locks.filter fun _ lock => guards.inUse lock }

/-- Drop the locks without tickets, and count them. -/
def prune (guards : Guards) : Nat × Guards :=
  (guards.size - guards.dropIdle.size, guards.dropIdle)

/-- The lock of a key, which is made if there is none. -/
def lockOf (guards : Guards) (key : String) : Nat × Guards :=
  match guards.locks.find? key with
  | some lock => (lock, guards)
  | none =>
    let ready := if guards.bound ≤ guards.size then guards.dropIdle else guards
    (ready.nextLock,
      { ready with
        locks := ready.locks.put key ready.nextLock
        nextLock := ready.nextLock + 1 })

/-- Take a ticket for the lock of a key. -/
def take (guards : Guards) (key : String) : Ticket × Guards :=
  let (lock, found) := guards.lockOf key
  let ticket : Ticket := ⟨found.nextTicket, key, lock⟩
  (ticket,
    { found with
      tickets := found.tickets ++ [ticket]
      contended := if found.inUse lock then found.contended + 1 else found.contended
      nextTicket := found.nextTicket + 1 })

/-- The oldest ticket for a lock. -/
def owner? (guards : Guards) (lock : Nat) : Option Ticket :=
  guards.tickets.find? fun ticket => ticket.lock == lock

/-- The ticket owns its lock. -/
def owns (guards : Guards) (ticket : Ticket) : Bool :=
  guards.owner? ticket.lock == some ticket

/-- Give a ticket back. -/
def giveBack (guards : Guards) (ticket : Ticket) : Guards :=
  { guards with tickets := guards.tickets.filter fun other => other ≠ ticket }

end Guards

end FailOpenCache
