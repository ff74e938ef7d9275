import FailOpenCache.Pattern.Matching
import FailOpenCache.Store.Memory

/-!
# The fallback store

The operations that a backing store does not declare are served in the process, from two tables:
one of values and one of sets. What has expired stays until a read meets it, a write replaces it,
or a sweep purges it, and is never seen in between; only a deletion counts it as removed.
-/

namespace FailOpenCache

/-- The members of a set with its deadline. -/
structure MemberRecord where
  /-- The members. -/
  members : NameSet
  /-- The instant from which the record is gone. -/
  deadline : Option Millis
deriving DecidableEq

/-- The deadline of the record has passed. -/
def MemberRecord.isExpired (record : MemberRecord) (now : Millis) : Bool :=
  hasPassed record.deadline now

/-- The values and sets that are kept in the process. -/
structure FallbackStore where
  /-- The values. -/
  entries : Table Entry
  /-- The sets. -/
  sets : Table MemberRecord
deriving DecidableEq

namespace FallbackStore

/-- The store that holds nothing. -/
def empty : FallbackStore := ⟨.empty, .empty⟩

/-- How many values and sets are held, the expired ones among them. -/
def size (store : FallbackStore) : Nat := store.entries.size + store.sets.size

/-- Nothing is held. -/
def isEmpty (store : FallbackStore) : Bool := store.entries.isEmpty && store.sets.isEmpty

/-- Read the payload under a key; an expired one is dropped. -/
def get (store : FallbackStore) (key : String) (now : Millis) : Option String × FallbackStore :=
  match store.entries.find? key with
  | none => (none, store)
  | some entry =>
    if entry.isExpired now then (none, { store with entries := store.entries.erase key })
    else (some entry.payload, store)

/-- Write a payload with a lifetime. -/
def set (store : FallbackStore) (key payload : String) (lifetime : Seconds) (now : Millis) :
    FallbackStore :=
  { store with entries := store.entries.put key (.write payload lifetime now) }

/-- A value or a set is held under the key, expired or not. -/
def holds (store : FallbackStore) (key : String) : Bool :=
  store.entries.contains key || store.sets.contains key

/-- Drop the value and the set under a key. -/
def remove (store : FallbackStore) (key : String) : FallbackStore :=
  ⟨store.entries.erase key, store.sets.erase key⟩

/-- Delete keys, and count those under which something was held. -/
def delete (store : FallbackStore) (keys : List String) : Nat × FallbackStore :=
  match keys with
  | [] => (0, store)
  | key :: rest =>
    let (removed, left) := (store.remove key).delete rest
    (if store.holds key then removed + 1 else removed, left)

/-- Say whether a set is live; an expired one is dropped. -/
def useSet (store : FallbackStore) (key : String) (now : Millis) :
    Option MemberRecord × FallbackStore :=
  match store.sets.find? key with
  | none => (none, store)
  | some record =>
    if record.isExpired now then (none, { store with sets := store.sets.erase key })
    else (some record, store)

/-- Say whether a value or a set is live under a key. -/
def probe (store : FallbackStore) (key : String) (now : Millis) : Bool × FallbackStore :=
  match store.get key now with
  | (some _, read) => (true, read)
  | (none, read) =>
    let (record, used) := read.useSet key now
    (record.isSome, used)

/-- The counter under a key: one that is absent or has expired is at zero and has no deadline. -/
def counter (store : FallbackStore) (key : String) (now : Millis) : Entry :=
  match store.entries.find? key with
  | none => ⟨"0", none⟩
  | some entry => if entry.isExpired now then ⟨"0", none⟩ else entry

/-- Add to a counter, which keeps its deadline; there is no answer when the key holds no integer
or the counter would leave its range. -/
def increment (store : FallbackStore) (key : String) (amount : Int) (now : Millis) :
    Option Int × FallbackStore :=
  let entry := store.counter key now
  match (readCounter? entry.payload).bind fun current => addToCounter? current amount with
  | none => (none, { store with entries := store.entries.put key entry })
  | some sum =>
    (some sum,
      { store with entries := store.entries.put key ⟨Text.integerText sum, entry.deadline⟩ })

/-- Add a member to a set, and give the set a lifetime unless it is zero. -/
def addMember (store : FallbackStore) (key member : String) (lifetime : Seconds) (now : Millis) :
    FallbackStore :=
  let record : MemberRecord := match store.sets.find? key with
    | none => ⟨.empty, none⟩
    | some record => if record.isExpired now then ⟨.empty, none⟩ else record
  let deadline := if lifetime = 0 then record.deadline else deadlineAfter now lifetime
  { store with sets := store.sets.put key ⟨record.members.insert member, deadline⟩ }

/-- Read the members of a set; an absent one has none. -/
def members (store : FallbackStore) (key : String) (now : Millis) :
    List String × FallbackStore :=
  let (record, used) := store.useSet key now
  (match record with
    | some record => record.members.names
    | none => [], used)

/-- The keys of live values and of live sets that match a pattern. -/
def keysLike (store : FallbackStore) (pattern : Pattern) (now : Millis) : List String :=
  ((store.entries.filter fun _ entry => !entry.isExpired now).names ++
    (store.sets.filter fun _ record => !record.isExpired now).names).filter pattern.matchesKey

/-- Drop what has expired, and count it. -/
def purge (store : FallbackStore) (now : Millis) : Nat × FallbackStore :=
  let left : FallbackStore :=
    ⟨store.entries.filter fun _ entry => !entry.isExpired now,
      store.sets.filter fun _ record => !record.isExpired now⟩
  (store.size - left.size, left)

end FallbackStore

end FailOpenCache
