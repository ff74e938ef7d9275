import FailOpenCache.Pattern.Matching
import FailOpenCache.Store.Recency
import FailOpenCache.Store.Request
import FailOpenCache.Text.Blank
import FailOpenCache.Text.Decimal

/-!
# The store in memory

One table of slots holds values and sets under one namespace of keys. An expired slot stays where
it is until something meets it: a use of its key drops it, and a new key that finds the store full
drops all expired slots first. Only if none was expired the key whose last use is the oldest gives
way. Every use of a live key counts for its recency, also one that then fails; a walk over the
keys does not.
-/

namespace FailOpenCache

/-- What a key holds. -/
inductive Slot where
  /-- A value with its deadline. -/
  | value (entry : Entry)
  /-- The members of a set and its deadline. -/
  | set (members : NameSet) (deadline : Option Millis)
deriving DecidableEq

/-- The deadline of a slot. -/
def Slot.deadline : Slot → Option Millis
  | value entry => entry.deadline
  | set _ deadline => deadline

/-- The deadline of the slot has passed. -/
def Slot.isExpired (slot : Slot) (now : Millis) : Bool :=
  hasPassed slot.deadline now

/-- The least integer that a counter holds. -/
def leastCounter : Int := -2 ^ 63

/-- The greatest integer that a counter holds. -/
def greatestCounter : Int := 2 ^ 63 - 1

/-- The integer of a counter that is written with blanks around it or without. -/
def readCounter? (payload : String) : Option Int :=
  Text.readSigned? leastCounter greatestCounter (Text.trim payload.toList)

/-- A counter after an addition, unless it would leave its range. -/
def addToCounter? (current amount : Int) : Option Int :=
  let sum := current + amount
  if leastCounter ≤ sum ∧ sum ≤ greatestCounter then some sum else none

/-- A store in memory. -/
structure MemoryStore where
  /-- What each key holds. -/
  slots : Table Slot
  /-- The keys in the order of their last use. -/
  recency : Recency
  /-- How many keys are held at most. -/
  capacity : Nat
  /-- How many keys have given way to others so far. -/
  evictions : Nat
deriving DecidableEq

namespace MemoryStore

/-- An empty store for so many keys, and for one key at least. -/
def ofCapacity (capacity : Nat) : MemoryStore :=
  ⟨.empty, .empty, max capacity 1, 0⟩

/-- How many keys are held, the expired ones among them. -/
def size (store : MemoryStore) : Nat := store.slots.size

/-- No key is held. -/
def isEmpty (store : MemoryStore) : Bool := store.slots.isEmpty

/-- What a key holds, unless it has expired. -/
def find? (store : MemoryStore) (key : String) (now : Millis) : Option Slot :=
  (store.slots.find? key).filter fun slot => !slot.isExpired now

/-- Drop a key. -/
def remove (store : MemoryStore) (key : String) : MemoryStore :=
  { store with slots := store.slots.erase key, recency := store.recency.remove key }

/-- Use a key: it is dropped if it has expired, and becomes the one used last if it is live. -/
def use (store : MemoryStore) (key : String) (now : Millis) : Option Slot × MemoryStore :=
  match store.slots.find? key with
  | none => (none, store)
  | some slot =>
    if slot.isExpired now then (none, store.remove key)
    else (some slot, { store with recency := store.recency.touch key })

/-- Drop every expired key. -/
def dropExpired (store : MemoryStore) (now : Millis) : MemoryStore :=
  (store.slots.entries.filter fun entry => entry.2.isExpired now).foldl
    (fun kept entry => kept.remove entry.1) store

/-- Let the keys whose last use is the oldest give way until there is room, so many at most. -/
def evict (store : MemoryStore) : Nat → MemoryStore
  | 0 => store
  | atMost + 1 =>
    if store.slots.size < store.capacity then store
    else match store.recency.takeOldest? with
      | none => store
      | some (key, recency) =>
        evict { store with
          slots := store.slots.erase key
          recency := recency
          evictions := store.evictions + 1 } atMost

/-- Make room for a new key, if the store is full. -/
def vacate (store : MemoryStore) (now : Millis) : MemoryStore :=
  if store.slots.size < store.capacity then store
  else
    let swept := store.dropExpired now
    swept.evict swept.slots.size

/-- Put a slot under a key, which becomes the one used last. -/
def insert (store : MemoryStore) (key : String) (slot : Slot) (now : Millis) : MemoryStore :=
  let ready := if store.slots.contains key then store else store.vacate now
  { ready with slots := ready.slots.put key slot, recency := ready.recency.touch key }

/-- Read the payload under a key. -/
def get (store : MemoryStore) (key : String) (now : Millis) :
    Except StoreError (Option String) × MemoryStore :=
  match store.use key now with
  | (some (.value entry), used) => (.ok (some entry.payload), used)
  | (some (.set _ _), used) => (.error (.backend .wrongKind), used)
  | (none, used) => (.ok none, used)

/-- Write a payload with a lifetime. -/
def set (store : MemoryStore) (key payload : String) (lifetime : Seconds) (now : Millis) :
    MemoryStore :=
  store.insert key (.value (.write payload lifetime now)) now

/-- Delete keys, and count those that were live. -/
def delete (store : MemoryStore) (keys : List String) (now : Millis) : Nat × MemoryStore :=
  match keys with
  | [] => (0, store)
  | key :: rest =>
    match store.use key now with
    | (some _, used) =>
      let (removed, left) := (used.remove key).delete rest now
      (removed + 1, left)
    | (none, used) => used.delete rest now

/-- Say whether a key is live. -/
def probe (store : MemoryStore) (key : String) (now : Millis) : Bool × MemoryStore :=
  let (slot, used) := store.use key now
  (slot.isSome, used)

/-- Add to a counter, which keeps its deadline; one that is absent counts from zero and has
none. -/
def increment (store : MemoryStore) (key : String) (amount : Int) (now : Millis) :
    Except StoreError Int × MemoryStore :=
  match store.use key now with
  | (some (.set _ _), used) => (.error (.backend .wrongKind), used)
  | (some (.value entry), used) =>
    match readCounter? entry.payload with
    | none => (.error (.backend .notAnInteger), used)
    | some current =>
      match addToCounter? current amount with
      | none => (.error (.backend .counterOverflow), used)
      | some sum =>
        (.ok sum, used.insert key (.value ⟨Text.integerText sum, entry.deadline⟩) now)
  | (none, used) =>
    match addToCounter? 0 amount with
    | none => (.error (.backend .counterOverflow), used)
    | some sum => (.ok sum, used.insert key (.value ⟨Text.integerText sum, none⟩) now)

/-- The page of a walk over the live keys that match a pattern. -/
def scan [Libraries] (store : MemoryStore) (cursor : Nat) (pattern : String) (count : Nat)
    (now : Millis) : Except StoreError (Ending Page) :=
  match Pattern.compile? pattern with
  | none => .error (.backend .badPattern)
  | some compiled => .ok <| (store.recency.page cursor (max count 1)).map fun page =>
    { page with
      keys := page.keys.filter fun key =>
        (store.find? key now).isSome && compiled.matchesKey key }

/-- Read the payloads under several keys, in order and up to the first error. -/
def getMany (store : MemoryStore) (keys : List String) (now : Millis) :
    Except StoreError (List (Option String)) × MemoryStore :=
  match keys with
  | [] => (.ok [], store)
  | key :: rest =>
    match store.get key now with
    | (.error error, used) => (.error error, used)
    | (.ok found, used) =>
      let (later, left) := used.getMany rest now
      (later.map (found :: ·), left)

/-- Write several payloads with one lifetime, in order. -/
def setMany (store : MemoryStore) (items : List (String × String)) (lifetime : Seconds)
    (now : Millis) : MemoryStore :=
  items.foldl (fun written item => written.set item.1 item.2 lifetime now) store

/-- A member more and, unless the lifetime is zero, a new deadline. -/
def addTo (members : NameSet) (deadline : Option Millis) (member : String) (lifetime : Seconds)
    (now : Millis) : Slot :=
  .set (members.insert member) (if lifetime = 0 then deadline else deadlineAfter now lifetime)

/-- Add a member to several sets, in order and up to the first key that holds a value. -/
def addMember (store : MemoryStore) (keys : List String) (member : String) (lifetime : Seconds)
    (now : Millis) : Except StoreError Unit × MemoryStore :=
  match keys with
  | [] => (.ok (), store)
  | key :: rest =>
    match store.use key now with
    | (some (.value _), used) => (.error (.backend .wrongKind), used)
    | (some (.set members deadline), used) =>
      let slot := addTo members deadline member lifetime now
      addMember { used with slots := used.slots.put key slot } rest member lifetime now
    | (none, used) =>
      let slot := Slot.set (.singleton member) (deadlineAfter now lifetime)
      (used.insert key slot now).addMember rest member lifetime now

/-- Read the members of a set; an absent one has none. -/
def members (store : MemoryStore) (key : String) (now : Millis) :
    Except StoreError (List String) × MemoryStore :=
  match store.use key now with
  | (some (.set members _), used) => (.ok members.names, used)
  | (some (.value _), used) => (.error (.backend .wrongKind), used)
  | (none, used) => (.ok [], used)

/-- Forget all keys; the count of evictions stays. -/
def close (store : MemoryStore) : MemoryStore :=
  { store with slots := .empty, recency := .empty }

/-- Answer a request. -/
def answer [Libraries] (request : Request) (now : Millis) (store : MemoryStore) :
    Except StoreError request.Reply × MemoryStore :=
  match request with
  | .ping => (.ok (), store)
  | .close => (.ok (), store.close)
  | .get key => store.get key now
  | .set key payload lifetime => (.ok (), store.set key payload lifetime now)
  | .delete keys =>
    let (removed, left) := store.delete keys now
    (.ok removed, left)
  | .probe key =>
    let (held, used) := store.probe key now
    (.ok held, used)
  | .increment key amount => store.increment key amount now
  | .scan cursor pattern count => (store.scan cursor pattern count now, store)
  | .getMany keys => store.getMany keys now
  | .setMany items lifetime => (.ok (), store.setMany items lifetime now)
  | .addMember keys member lifetime => store.addMember keys member lifetime now
  | .members key => store.members key now

instance [Libraries] : BackingStore MemoryStore where
  name _ := "memory"
  capabilities _ := .all
  pageBound store := store.recency.order.length + 1
  answer := answer

/-- A use drops a key or leaves the slots alone. -/
theorem use_slots (store : MemoryStore) (key : String) (now : Millis) :
    (store.use key now).2.slots = store.slots ∨
      (store.use key now).2.slots = store.slots.erase key := by
  unfold use
  split
  · exact .inl rfl
  · split
    · exact .inr rfl
    · exact .inl rfl

/-- A use answers what the key holds, unless it has expired. -/
theorem use_fst (store : MemoryStore) (key : String) (now : Millis) :
    (store.use key now).1 = store.find? key now := by
  unfold use find?
  cases store.slots.find? key with
  | none => rfl
  | some slot => cases expired : slot.isExpired now <;> simp [Option.filter, expired]

end MemoryStore

end FailOpenCache
