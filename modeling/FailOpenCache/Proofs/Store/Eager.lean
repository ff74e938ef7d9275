import FailOpenCache.Store.Memory

/-!
# An eager store

An eager store holds live keys only: it drops a key at the very instant its deadline is reached,
and a key that arrives with a deadline already reached does not stay. Its keys stand in one list,
the one whose last use is the oldest first. That key gives way only when a new key arrives while
as many live keys are held as there is room for.
-/

namespace FailOpenCache

/-- A store that holds live keys only. -/
structure EagerStore where
  /-- The live keys with what they hold, the one whose last use is the oldest first. -/
  held : List (String × Slot)
  /-- How many keys are held at most. -/
  capacity : Nat
  /-- How many keys have given way to others so far. -/
  evictions : Nat

namespace EagerStore

/-- An empty store for so many keys, and for one key at least. -/
def ofCapacity (capacity : Nat) : EagerStore := ⟨[], max capacity 1, 0⟩

/-- What a key holds. -/
def find? (store : EagerStore) (key : String) : Option Slot := store.held.lookup key

/-- The instant comes, and drops every key whose deadline it reaches. -/
def tick (store : EagerStore) (now : Millis) : EagerStore :=
  { store with held := store.held.filter fun entry => !entry.2.isExpired now }

/-- Drop a key. -/
def remove (store : EagerStore) (key : String) : EagerStore :=
  { store with held := store.held.filter fun entry => entry.1 ≠ key }

/-- Use a key: it becomes the one used last if it is held. -/
def use (store : EagerStore) (key : String) : Option Slot × EagerStore :=
  match store.find? key with
  | none => (none, store)
  | some slot => (some slot, { store with held := (store.remove key).held ++ [(key, slot)] })

/-- Make room for a new key: if the store is full, the key whose last use is the oldest gives
way. -/
def vacate (store : EagerStore) : EagerStore :=
  if store.held.length < store.capacity then store
  else { store with held := store.held.tail, evictions := store.evictions + 1 }

/-- Put a slot under a key, which becomes the one used last. A new key arrives, and others give way
to it, also if its deadline is reached at once. -/
def put (store : EagerStore) (key : String) (slot : Slot) (now : Millis) : EagerStore :=
  let ready := if (store.find? key).isSome then store.remove key else store.vacate
  { ready with held := ready.held ++ if slot.isExpired now then [] else [(key, slot)] }

/-- Read the payload under a key. -/
def get (store : EagerStore) (key : String) :
    Except StoreError (Option String) × EagerStore :=
  match store.use key with
  | (some (.value entry), used) => (.ok (some entry.payload), used)
  | (some (.set _ _), used) => (.error (.backend .wrongKind), used)
  | (none, used) => (.ok none, used)

/-- Write a payload with a lifetime. -/
def set (store : EagerStore) (key payload : String) (lifetime : Seconds) (now : Millis) :
    EagerStore :=
  store.put key (.value (.write payload lifetime now)) now

/-- Delete keys, and count those that were held. -/
def delete (store : EagerStore) : List String → Nat × EagerStore
  | [] => (0, store)
  | key :: rest =>
    let (removed, left) := (store.remove key).delete rest
    (if (store.find? key).isSome then removed + 1 else removed, left)

/-- Add to a counter, which keeps its deadline; one that is absent counts from zero and has
none. -/
def increment (store : EagerStore) (key : String) (amount : Int) (now : Millis) :
    Except StoreError Int × EagerStore :=
  match store.use key with
  | (some (.set _ _), used) => (.error (.backend .wrongKind), used)
  | (some (.value entry), used) =>
    match readCounter? entry.payload with
    | none => (.error (.backend .notAnInteger), used)
    | some current =>
      match addToCounter? current amount with
      | none => (.error (.backend .counterOverflow), used)
      | some sum => (.ok sum, used.put key (.value ⟨Text.integerText sum, entry.deadline⟩) now)
  | (none, used) =>
    match addToCounter? 0 amount with
    | none => (.error (.backend .counterOverflow), used)
    | some sum => (.ok sum, used.put key (.value ⟨Text.integerText sum, none⟩) now)

/-- The keys that match a pattern, all on one page. -/
def scan [Libraries] (store : EagerStore) (pattern : String) : Except StoreError (Ending Page) :=
  match Pattern.compile? pattern with
  | none => .error (.backend .badPattern)
  | some compiled => .ok (.returned ⟨(store.held.map Prod.fst).filter compiled.matchesKey, 0⟩)

/-- Read the payloads under several keys, in order and up to the first error. -/
def getMany (store : EagerStore) :
    List String → Except StoreError (List (Option String)) × EagerStore
  | [] => (.ok [], store)
  | key :: rest =>
    match store.get key with
    | (.error error, used) => (.error error, used)
    | (.ok found, used) =>
      let (later, left) := used.getMany rest
      (later.map (found :: ·), left)

/-- Write several payloads with one lifetime, in order. -/
def setMany (store : EagerStore) (items : List (String × String)) (lifetime : Seconds)
    (now : Millis) : EagerStore :=
  items.foldl (fun written item => written.set item.1 item.2 lifetime now) store

/-- Add a member to several sets, in order and up to the first key that holds a value. -/
def addMember (store : EagerStore) (member : String) (lifetime : Seconds) (now : Millis) :
    List String → Except StoreError Unit × EagerStore
  | [] => (.ok (), store)
  | key :: rest =>
    match store.use key with
    | (some (.value _), used) => (.error (.backend .wrongKind), used)
    | (some (.set members deadline), used) =>
      let slot := MemoryStore.addTo members deadline member lifetime now
      (used.put key slot now).addMember member lifetime now rest
    | (none, used) =>
      let slot := Slot.set (.singleton member) (deadlineAfter now lifetime)
      (used.put key slot now).addMember member lifetime now rest

/-- Read the members of a set; an absent one has none. -/
def members (store : EagerStore) (key : String) :
    Except StoreError (List String) × EagerStore :=
  match store.use key with
  | (some (.set members _), used) => (.ok members.names, used)
  | (some (.value _), used) => (.error (.backend .wrongKind), used)
  | (none, used) => (.ok [], used)

/-- Answer a request at an instant that has come. -/
def answer [Libraries] (request : Request) (now : Millis) (store : EagerStore) :
    Except StoreError request.Reply × EagerStore :=
  match request with
  | .ping => (.ok (), store)
  | .close => (.ok (), { store with held := [] })
  | .get key => store.get key
  | .set key payload lifetime => (.ok (), store.set key payload lifetime now)
  | .delete keys => (store.delete keys).map Except.ok id
  | .probe key => (store.use key).map (fun slot => .ok slot.isSome) id
  | .increment key amount => store.increment key amount now
  | .scan _ pattern _ => (store.scan pattern, store)
  | .getMany keys => store.getMany keys
  | .setMany items lifetime => (.ok (), store.setMany items lifetime now)
  | .addMember keys member lifetime => store.addMember member lifetime now keys
  | .members key => store.members key

end EagerStore

end FailOpenCache
