import FailOpenCache.Cache.Values
import FailOpenCache.Key

/-!
# Invalidation

Keys are invalidated by a pattern or by a tag. A pattern is walked through the store page by page,
and then through the fallback store; a page that fails ends the walk with what has been removed so
far, and one that panics ends it without an answer. The pages of a store are followed up to a bound;
if none of them was the last, the walk is running still. A tag has a record of the keys written
under it, and invalidating it deletes those keys and then the record.
-/

namespace FailOpenCache.Connection

variable [Libraries] {σ : Type} [BackingStore σ] {α : Type} [Storable α]

/-- What a walk over the store has come to. -/
structure Walk where
  /-- How many keys have been removed. -/
  removed : Nat
  /-- No call failed. -/
  completed : Bool
deriving DecidableEq

/-- Delete the keys of a page that are not none. -/
def deletePage (keys : List String) : StateM (Connection σ) (Option Nat) := do
  if keys.isEmpty then return some 0 else ask (.delete keys)

/-- Delete the keys that match a pattern from a cursor on, on so many pages at most. -/
def walk (pattern : String) (cursor removed : Nat) : Nat → StateM (Connection σ) (Ending Walk)
  | 0 => return .running
  | pages + 1 => do
    let batch := (← MonadState.get).cache.configuration.scanBatch
    match ← ask (.scan cursor pattern (max batch 1)) with
    | none => return .returned ⟨removed, false⟩
    | some .panicked => return .panicked
    | some .running => return .running
    | some (.returned page) =>
      match ← deletePage page.keys with
      | none => return .returned ⟨removed, false⟩
      | some deleted =>
        if page.next = 0 then return .returned ⟨removed + deleted, true⟩
        else walk pattern page.next (removed + deleted) pages

/-- Delete the keys of the store that match a pattern, if it can be walked. -/
def walkStore (pattern : String) : StateM (Connection σ) (Ending Walk) := do
  let store := (← MonadState.get).store
  if (BackingStore.capabilities store).deletesByWalk then
    walk pattern 0 0 (BackingStore.pageBound store)
  else return .returned ⟨0, true⟩

/-- Delete the keys of the fallback store that match a pattern; a pattern that cannot be compiled
matches none. -/
def deleteMatching (pattern : String) (now : Millis) (fallback : FallbackStore) :
    Nat × FallbackStore :=
  match Pattern.compile? pattern with
  | none => (0, fallback)
  | some compiled => fallback.delete (fallback.keysLike compiled now)

/-- Delete the keys that match a pattern, and count them. -/
def invalidate (pattern : String) : StateM (Connection σ) (Ending Nat) := do
  match ← walkStore pattern with
  | .panicked => return .panicked
  | .running => return .running
  | .returned walked =>
    if walked.completed then
      return .returned (walked.removed + (← inProcess (deleteMatching pattern)))
    else return .returned walked.removed

/-- The store can keep the records of tags. -/
def tracksTags : StateM (Connection σ) Bool := do
  return (BackingStore.capabilities (← MonadState.get).store).keepsTags

/-- Add a key to the records of tags. The records have the stated lifetime, and none when the
write states none. -/
def recordTags (key : String) (tags : List String) (stated : Option Seconds) :
    StateM (Connection σ) Unit := do
  let records := tags.map Key.ofTag
  let lifetime := stated.getD 0
  if ← tracksTags then discard <| ask (.addMember records key lifetime)
  else serve fun now fallback =>
    ((), records.foldl (fun recorded record =>
      recorded.addMember record key lifetime now) fallback)

/-- Write a value under tags. -/
def setTagged (key : String) (value : α) (tags : List String) (stated : Option Seconds) :
    StateM (Connection σ) Unit := do
  set key value stated
  if tags.isEmpty then return () else recordTags key tags stated

/-- The keys in the record of a tag; there is no answer when the store fails. -/
def membersOf (record : String) : StateM (Connection σ) (Option (List String)) := do
  if ← tracksTags then ask (.members record)
  else return some (← serve fun now fallback => fallback.members record now)

/-- Drop the record of a tag. -/
def dropRecord (record : String) : StateM (Connection σ) Unit := do
  if ← tracksTags then discard <| ask (.delete [record])
  else discard <| inProcess fun _ fallback => fallback.delete [record]

/-- Delete the keys written under a tag and its record, and count the keys that were there. -/
def invalidateTag (tag : String) : StateM (Connection σ) Nat := do
  match ← membersOf (Key.ofTag tag) with
  | none => return 0
  | some [] => return 0
  | some (member :: rest) => do
    let removed ← deleteAll (member :: rest)
    dropRecord (Key.ofTag tag)
    return removed

end FailOpenCache.Connection

namespace FailOpenCache

/-- What to invalidate. -/
inductive InvalidationTarget where
  /-- The keys that match a pattern. -/
  | pattern (pattern : String)
  /-- The keys written under a tag. -/
  | tag (tag : String)
deriving DecidableEq

namespace Session

variable [Libraries] {σ : Type} [BackingStore σ] {α : Type} [Storable α]

/-- Delete the keys that match a pattern, and count them. -/
def invalidate (pattern : String) : StateM (Session σ) (Ending Nat) :=
  whenConnected (.returned 0) (Connection.invalidate pattern)

/-- Write a value under tags. -/
def setTagged (key : String) (value : α) (tags : List String) (stated : Option Seconds) :
    StateM (Session σ) Unit :=
  whenConnected () (Connection.setTagged key value tags stated)

/-- Delete the keys written under a tag, and count them. -/
def invalidateTag (tag : String) : StateM (Session σ) Nat :=
  whenConnected 0 (Connection.invalidateTag tag)

/-- Invalidate a target, and count the keys that were removed. -/
def invalidateTarget : InvalidationTarget → StateM (Session σ) (Ending Nat)
  | .pattern pattern => invalidate pattern
  | .tag tag => return .returned (← invalidateTag tag)

end Session

end FailOpenCache
