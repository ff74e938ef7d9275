import FailOpenCache.Cache.Values

/-!
# Several values at once

A batch of writes is cut into groups of one lifetime each, the shortest first and each in the
order of the batch, so a store writes a group in one call. A batch of reads answers a table of all
keys asked for; a key that could not be read stands in it without a value.
-/

namespace FailOpenCache

/-- Payloads that are written with one lifetime. -/
structure WriteGroup where
  /-- The lifetime. -/
  lifetime : Seconds
  /-- Keys and payloads. -/
  items : List (String × String)
deriving DecidableEq

/-- Put a payload at the end of the group of its lifetime; the groups are in the order of their
lifetimes. -/
def addToGroups (lifetime : Seconds) (item : String × String) :
    List WriteGroup → List WriteGroup
  | [] => [⟨lifetime, [item]⟩]
  | group :: rest =>
    if lifetime < group.lifetime then ⟨lifetime, [item]⟩ :: group :: rest
    else if lifetime = group.lifetime then ⟨lifetime, group.items ++ [item]⟩ :: rest
    else group :: addToGroups lifetime item rest

namespace Connection

variable [Libraries] {σ : Type} [BackingStore σ] {α : Type} [Storable α]

/-- The groups of the values that have a written form. -/
def groupsOf (stated : Option Seconds) (items : List (String × α)) :
    StateM (Connection σ) (List WriteGroup) := do
  let cache := (← MonadState.get).cache
  return items.foldl (fun groups item =>
    match Storable.write? item.2 with
    | none => groups
    | some document =>
      let payload := Payload.encode cache.configuration.compressionThreshold document
      addToGroups (cache.rules.resolve item.1 stated) (item.1, payload) groups) []

/-- Write the payloads of a group one by one. -/
def writeEach (lifetime : Seconds) : List (String × String) → StateM (Connection σ) Unit
  | [] => return ()
  | item :: rest => do
    discard <| ask (.set item.1 item.2 lifetime)
    writeEach lifetime rest

/-- Write a group. -/
def writeGroup (group : WriteGroup) : StateM (Connection σ) Unit := do
  if !(← declares .keyValue) then
    serve fun now fallback =>
      ((), group.items.foldl (fun written item =>
        written.set item.1 item.2 group.lifetime now) fallback)
  else if ← declares .pipeline then discard <| ask (.setMany group.items group.lifetime)
  else writeEach group.lifetime group.items

/-- Write groups in order. -/
def writeGroups : List WriteGroup → StateM (Connection σ) Unit
  | [] => return ()
  | group :: rest => do
    writeGroup group
    writeGroups rest

/-- Write several values with the stated lifetime or those of their keys. -/
def setMany (items : List (String × α)) (stated : Option Seconds) :
    StateM (Connection σ) Unit := do
  writeGroups (← groupsOf stated items)

/-- The payloads under several keys in the fallback store. -/
def getEach (now : Millis) (fallback : FallbackStore) :
    List String → List (Option String) × FallbackStore
  | [] => ([], fallback)
  | key :: rest =>
    let (found, read) := fallback.get key now
    let (later, left) := getEach now read rest
    (found :: later, left)

/-- Read payloads one by one; nothing is found where the store fails. -/
def readEach : List String → StateM (Connection σ) (List (Option String))
  | [] => return []
  | key :: rest => do
    let found : Option (Option String) ← ask (.get key)
    let later ← readEach rest
    return found.getD none :: later

/-- The payloads under several keys; there is no answer when one call for all of them fails. -/
def readPayloads (keys : List String) :
    StateM (Connection σ) (Option (List (Option String))) := do
  if !(← declares .keyValue) then
    return some (← serve fun now fallback => getEach now fallback keys)
  else if ← declares .pipeline then ask (.getMany keys)
  else return some (← readEach keys)

/-- Put the documents of what reads found into a table. -/
def settleAll (answers : Table (Option Document)) :
    List (String × Option String) → StateM (Connection σ) (Table (Option Document))
  | [] => return answers
  | (key, found) :: rest => do
    let document ← settle found
    settleAll (answers.put key document) rest

/-- The keys asked for, without values. -/
def unanswered (keys : List String) : Table (Option Document) :=
  .ofList (keys.map fun key => (key, none))

/-- The documents under several keys. -/
def getMany (keys : List String) : StateM (Connection σ) (Table (Option Document)) := do
  match ← readPayloads keys with
  | none => return unanswered keys
  | some found => settleAll (unanswered keys) (keys.zip found)

end Connection

namespace Session

variable [Libraries] {σ : Type} [BackingStore σ] {α : Type} [Storable α]

/-- Write several values with the stated lifetime or those of their keys. -/
def setMany (items : List (String × α)) (stated : Option Seconds) : StateM (Session σ) Unit :=
  whenConnected () (Connection.setMany items stated)

/-- The documents under several keys. -/
def getMany (keys : List String) : StateM (Session σ) (Table (Option Document)) :=
  whenConnected (Connection.unanswered keys) (Connection.getMany keys)

end Session

end FailOpenCache
