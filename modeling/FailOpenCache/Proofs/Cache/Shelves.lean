import FailOpenCache.Cache.Invalidation
import FailOpenCache.Proofs.Cache.OnMemory
import FailOpenCache.Proofs.Store.Fallback

/-!
# What a cache holds over either kind of store

A cache keeps values and records of members in a store that declares everything, or in the process
when the store declares nothing. The view of the connection is the value and the record that are
live under each key, wherever they are. Every operation is described by the keys under which it
changes the view, and by the evictions from the store in memory that it counts.
-/

namespace FailOpenCache.Connection

variable {τ : Type} [BackingStore τ] {α : Type} [Storable α]
  {connection : Connection (MemoryStore ⊕ τ)}

/-- The connection is to the store in memory, or to a store that declares nothing. -/
def Usable (connection : Connection (MemoryStore ⊕ τ)) : Prop :=
  match connection.store with
  | .inl _ => True
  | .inr store => BackingStore.capabilities store = .none

omit [BackingStore τ] in
/-- The value that is live under a key. -/
def value? (connection : Connection (MemoryStore ⊕ τ)) (key : String) : Option Entry :=
  match connection.store with
  | .inl memory => memory.value? key connection.now
  | .inr _ => connection.cache.fallback.value? key connection.now

omit [BackingStore τ] in
/-- The record that is live under a key. -/
def record? (connection : Connection (MemoryStore ⊕ τ)) (key : String) : Option MemberRecord :=
  match connection.store with
  | .inl memory => memory.record? key connection.now
  | .inr _ => connection.cache.fallback.record? key connection.now

omit [BackingStore τ] in
/-- A key accepts members: the store in memory has no value under it. -/
def accepts (connection : Connection (MemoryStore ⊕ τ)) (key : String) : Bool :=
  match connection.store with
  | .inl memory => memory.accepts connection.now key
  | .inr _ => true

omit [BackingStore τ] in
/-- How many keys of the store in memory have given way to others. -/
def evictions (connection : Connection (MemoryStore ⊕ τ)) : Nat :=
  match connection.store with
  | .inl memory => memory.evictions
  | .inr _ => 0

/-- An operation leaves a usable connection usable and counts the evictions. -/
structure Counts (before after : Connection (MemoryStore ⊕ τ)) : Prop where
  /-- A usable connection stays usable. -/
  usable : before.Usable → after.Usable
  /-- Evictions are counted. -/
  evictions : before.evictions ≤ after.evictions

/-- Every connection counts as itself. -/
theorem Counts.refl (connection : Connection (MemoryStore ⊕ τ)) : Counts connection connection :=
  ⟨id, Nat.le_refl _⟩

/-- What is counted by two steps is counted by both together. -/
theorem Counts.trans {first second third : Connection (MemoryStore ⊕ τ)}
    (early : Counts first second) (late : Counts second third) : Counts first third :=
  ⟨fun usable => late.usable (early.usable usable), Nat.le_trans early.evictions late.evictions⟩

/-- The view stays the same but under some keys. -/
structure Spares (changed : String → Prop) (before after : Connection (MemoryStore ⊕ τ)) :
    Prop where
  /-- The values under other keys are the same. -/
  value : ∀ key, ¬ changed key → after.value? key = before.value? key
  /-- The records under other keys are the same. -/
  record : ∀ key, ¬ changed key → after.record? key = before.record? key

omit [BackingStore τ] in
/-- Every connection spares itself. -/
theorem Spares.refl (changed : String → Prop) (connection : Connection (MemoryStore ⊕ τ)) :
    Spares changed connection connection :=
  ⟨fun _ _ => rfl, fun _ _ => rfl⟩

omit [BackingStore τ] in
/-- The view of the store in memory as it is left. -/
theorem spares_of_memory {changed : String → Prop} {before after : Connection (MemoryStore ⊕ τ)}
    {memory left : MemoryStore} (store : before.store = .inl memory)
    (store' : after.store = .inl left) (now : after.now = before.now)
    (same : ∀ key, ¬ changed key → left.find? key before.now = memory.find? key before.now) :
    Spares changed before after where
  value key spared := by
    simp only [value?, store, store', now, MemoryStore.value?, same key spared]
  record key spared := by
    simp only [record?, store, store', now, MemoryStore.record?, same key spared]

omit [BackingStore τ] in
/-- The view of the fallback store as it is left. -/
theorem spares_of_fallback {changed : String → Prop}
    {before after : Connection (MemoryStore ⊕ τ)} {other other' : τ}
    (store : before.store = .inr other) (store' : after.store = .inr other')
    (now : after.now = before.now)
    (same : ∀ key, ¬ changed key →
      after.cache.fallback.value? key before.now = before.cache.fallback.value? key before.now ∧
        after.cache.fallback.record? key before.now =
          before.cache.fallback.record? key before.now) :
    Spares changed before after where
  value key spared := by
    simp only [value?, store, store', now, (same key spared).1]
  record key spared := by
    simp only [record?, store, store', now, (same key spared).2]

/-- The store in memory as it is left. -/
theorem counts_of_memory {before after : Connection (MemoryStore ⊕ τ)} {memory left : MemoryStore}
    (store : before.store = .inl memory) (store' : after.store = .inl left)
    (counted : memory.evictions ≤ left.evictions) : Counts before after where
  usable _ := by
    simp only [Usable, store']
  evictions := by
    simp only [Connection.evictions, store, store']
    exact counted

/-- The other store as it is left. -/
theorem counts_of_other {before after : Connection (MemoryStore ⊕ τ)} {other : τ}
    (store : before.store = .inr other) (store' : after.store = .inr other) :
    Counts before after where
  usable usable := by
    simp only [Usable, store, store'] at usable ⊢
    exact usable
  evictions := by
    simp only [Connection.evictions, store, store']
    exact Nat.le_refl _

variable [Libraries]

/-- A store that declares nothing declares no group of operations. -/
theorem declares_other {other : τ} (store : connection.store = .inr other)
    (usable : connection.Usable) (group : OperationGroup) :
    (BackingStore.capabilities connection.store).declares group = false := by
  have capabilities : BackingStore.capabilities connection.store = .none := by
    simp only [Usable, store] at usable
    rw [store]
    exact usable
  rw [capabilities]
  cases group <;> rfl

/-! ## Reading, writing and deleting -/

/-- A read changes nothing of the view. -/
theorem get_shelf (usable : connection.Usable) (key : String) :
    Counts connection (get key connection).2 ∧
      Spares (fun _ => False) connection (get key connection).2 := by
  have alike := quiet_getKey key connection
  rcases store : connection.store with memory | other
  · have left := (get_onMemory embeds_inl store key).2
    exact ⟨counts_of_memory store left (Nat.le_of_eq (MemoryStore.evictions_use ..).symm),
      spares_of_memory store left alike.now fun other _ => MemoryStore.find?_use ..⟩
  · have declared := declares_other store usable .keyValue
    have shape : (get key connection).2.store = connection.store ∧
        (get key connection).2.cache.fallback =
          (connection.cache.fallback.get key connection.now).2 := by
      simp only [get, readPayload, bind_apply, declares_apply, declared, Bool.false_eq_true,
        ↓reduceIte, serve_apply, pure_apply]
      exact (settle_spec _ _).2
    exact ⟨counts_of_other store (shape.1.trans store),
      spares_of_fallback store (shape.1.trans store) alike.now fun key _ => by
        rw [shape.2]
        exact FallbackStore.get_snd ..⟩

/-- A read answers the document of a live value. -/
theorem get_fst (usable : connection.Usable) (key : String) :
    (get key connection).1 = (connection.value? key).bind Entry.document? := by
  rcases store : connection.store with memory | other
  · rw [(get_onMemory embeds_inl store key).1]
    simp only [value?, store, MemoryStore.value?]
    rcases memory.find? key connection.now with _ | slot
    · rfl
    · cases slot <;> rfl
  · have declared := declares_other store usable .keyValue
    simp only [get, readPayload, bind_apply, declares_apply, declared, Bool.false_eq_true,
      ↓reduceIte, serve_apply, pure_apply]
    refine (settle_spec _ _).1.trans ?_
    simp only [value?, store, FallbackStore.get_fst, Option.bind_map]
    rfl

/-- A write without an eviction leaves its entry under its key, and changes nothing else. -/
theorem set_shelf (usable : connection.Usable) (key : String) (value : α)
    (stated : Option Seconds) :
    Counts connection (set key value stated connection).2 ∧
      ((set key value stated connection).2.evictions = connection.evictions →
        Spares (fun other => other = key) connection (set key value stated connection).2 ∧
        ∀ document, Storable.write? value = some document →
          (set key value stated connection).2.value? key =
            (some (Entry.write
              (Payload.encode connection.cache.configuration.compressionThreshold document)
              (connection.cache.rules.resolve key stated) connection.now)).filter
                fun entry => !entry.isExpired connection.now) := by
  have alike := quiet_set key value stated connection
  cases written : Storable.write? value with
  | none =>
    rw [set_unwritten written]
    exact ⟨.refl _, fun _ => ⟨.refl _ _, fun _ absurd => nomatch absurd⟩⟩
  | some document =>
    rcases store : connection.store with memory | other
    · have left := set_onMemory embeds_inl store written key stated
      refine ⟨counts_of_memory store left (MemoryStore.evictions_le_insert ..), fun kept => ?_⟩
      simp only [evictions, store, left] at kept
      have found := MemoryStore.find?_insert kept
      refine ⟨spares_of_memory store left alike.now fun other differs => ?_, fun _ same => ?_⟩
      · exact (found other).trans (if_neg differs)
      · obtain rfl := Option.some.inj same
        have here := (found key).trans (if_pos rfl)
        simp only [value?, left, alike.now, MemoryStore.value?]
        rw [MemoryStore.set, here, MemoryStore.value_live]
    · have declared := declares_other store usable .keyValue
      have shape : (set key value stated connection).2.store = connection.store ∧
          (set key value stated connection).2.cache.fallback =
            connection.cache.fallback.set key
              (Payload.encode connection.cache.configuration.compressionThreshold document)
              (connection.cache.rules.resolve key stated) connection.now := by
        simp only [set, payloadOf, bind_apply, get_apply, pure_apply, written, Option.map_some,
          writePayload, lifetimeOf_apply, declares_apply, declared, Bool.false_eq_true,
          ↓reduceIte, serve_apply, and_self]
      have store' := shape.1.trans store
      refine ⟨counts_of_other store store', fun _ =>
        ⟨spares_of_fallback store store' alike.now fun other differs => ?_, fun _ same => ?_⟩⟩
      · rw [shape.2, FallbackStore.value?_set, if_neg differs]
        exact ⟨rfl, rfl⟩
      · obtain rfl := Option.some.inj same
        simp only [value?, store', alike.now]
        rw [shape.2, FallbackStore.value?_set, if_pos rfl]

/-- A deletion leaves nothing under its keys, and changes nothing else. -/
theorem deleteAll_shelf (usable : connection.Usable) (keys : List String) :
    Counts connection (deleteAll keys connection).2 ∧
      Spares (fun other => other ∈ keys) connection (deleteAll keys connection).2 ∧
      ∀ key ∈ keys, (deleteAll keys connection).2.value? key = none := by
  have alike := quiet_deleteAll keys connection
  rcases store : connection.store with memory | other
  · have left := deleteAll_onMemory embeds_inl store keys
    have found := fun other => MemoryStore.find?_delete keys memory other connection.now
    refine ⟨counts_of_memory store left (Nat.le_of_eq (MemoryStore.evictions_delete ..).symm),
      spares_of_memory store left alike.now fun other spared => ?_, fun key held => ?_⟩
    · exact (found other).trans (if_neg spared)
    · simp only [value?, left, alike.now, MemoryStore.value?]
      rw [found key, if_pos held]
      rfl
  · have declared := declares_other store usable .keyValue
    have shape : (deleteAll keys connection).2.store = connection.store ∧
        (deleteAll keys connection).2.cache.fallback =
          (connection.cache.fallback.delete keys).2 := by
      cases keys with
      | nil => exact ⟨rfl, rfl⟩
      | cons key rest =>
        simp only [deleteAll, List.isEmpty_cons, Bool.false_eq_true, ↓reduceIte, bind_apply,
          declares_apply, declared, serve_apply, and_self]
    have store' := shape.1.trans store
    have found := fun other =>
      FallbackStore.find?_delete keys connection.cache.fallback other connection.now
    refine ⟨counts_of_other store store',
      spares_of_fallback store store' alike.now fun other spared => ?_, fun key held => ?_⟩
    · rw [shape.2, (found other).1, (found other).2, if_neg spared, if_neg spared]
      exact ⟨rfl, rfl⟩
    · simp only [value?, store', alike.now]
      rw [shape.2, (found key).1, if_pos held]

/-! ## Records of tags -/

omit [BackingStore τ] in
/-- The keys that the record of a tag lists. -/
def listed (connection : Connection (MemoryStore ⊕ τ)) (tag : String) : List String :=
  ((connection.record? (Key.ofTag tag)).map fun record => record.members.names).getD []

/-- The store keeps the records of tags exactly when it is the store in memory. -/
theorem tracksTags_onMemory {memory : MemoryStore} (store : connection.store = .inl memory) :
    (BackingStore.capabilities connection.store).keepsTags = true := by
  rw [store]
  rfl

/-- A store that declares nothing keeps no records of tags. -/
theorem tracksTags_other {other : τ} (store : connection.store = .inr other)
    (usable : connection.Usable) :
    (BackingStore.capabilities connection.store).keepsTags = false := by
  have sets := declares_other store usable .sets
  rw [Capabilities.keepsTags]
  simp only [Capabilities.declares] at sets
  rw [sets, Bool.false_and]

/-- Recording tags without an eviction renews the records that are reached, and changes nothing
else. -/
theorem recordTags_shelf (usable : connection.Usable) (key : String) (tags : List String)
    (stated : Option Seconds) :
    Counts connection (recordTags key tags stated connection).2 ∧
      ((recordTags key tags stated connection).2.evictions = connection.evictions →
        ∀ other, (recordTags key tags stated connection).2.value? other =
            connection.value? other ∧
          (recordTags key tags stated connection).2.record? other =
            if reaches connection.accepts other (tags.map Key.ofTag) then
              MemberRecord.renewed key (stated.getD 0) connection.now (connection.record? other)
            else connection.record? other) := by
  have alike := quiet_recordTags key tags stated connection
  rcases store : connection.store with memory | other
  · have tracked := tracksTags_onMemory store
    have left : (recordTags key tags stated connection).2.store = .inl (memory.addMember
        (tags.map Key.ofTag) key (stated.getD 0) connection.now).2 := by
      simp only [recordTags, tracksTags, bind_apply, get_apply, pure_apply, tracked, ↓reduceIte,
        discard_apply]
      exact ask_store_onMemory embeds_inl store _
    refine ⟨counts_of_memory store left (MemoryStore.evictions_le_addMember ..),
      fun kept other => ?_⟩
    simp only [evictions, store, left] at kept
    have added := MemoryStore.addMember_spec kept other
    have accepts : connection.accepts = memory.accepts connection.now := by
      funext key
      simp only [Connection.accepts, store]
    simp only [value?, record?, store, left, alike.now, accepts]
    exact added
  · have tracked := tracksTags_other store usable
    have shape : (recordTags key tags stated connection).2.store = connection.store ∧
        (recordTags key tags stated connection).2.cache.fallback =
          (tags.map Key.ofTag).foldl (fun recorded record =>
            recorded.addMember record key (stated.getD 0) connection.now)
              connection.cache.fallback := by
      simp only [recordTags, tracksTags, bind_apply, get_apply, pure_apply, tracked,
        Bool.false_eq_true, ↓reduceIte, serve_apply, and_self]
    have store' := shape.1.trans store
    refine ⟨counts_of_other store store', fun _ other => ?_⟩
    have added := FallbackStore.foldl_addMember (tags.map Key.ofTag) connection.cache.fallback key
      (stated.getD 0) connection.now other
    have accepts : connection.accepts = fun _ => true := by
      funext key
      simp only [Connection.accepts, store]
    simp only [value?, record?, store, store', alike.now, accepts]
    rw [shape.2]
    exact added

omit [Libraries] in
/-- Reading the members of a record is quiet. -/
theorem quiet_membersOf {σ : Type} [BackingStore σ] (record : String) :
    Quiet (membersOf record : StateM (Connection σ) (Option (List String))) := by
  refine quiet_bind (quiet_bind quiet_get fun _ => quiet_pure _) fun tracked => ?_
  cases tracked with
  | true => exact quiet_ask _
  | false => exact quiet_bind (quiet_serve _) fun _ => quiet_pure _

/-- Reading the members of a tag answers the keys that its record lists, and changes nothing. -/
theorem membersOf_shelf (usable : connection.Usable) (tag : String) :
    Counts connection (membersOf (Key.ofTag tag) connection).2 ∧
      Spares (fun _ => False) connection (membersOf (Key.ofTag tag) connection).2 ∧
      (membersOf (Key.ofTag tag) connection).1.getD [] = connection.listed tag := by
  have alike := quiet_membersOf (Key.ofTag tag) connection
  rcases store : connection.store with memory | other
  · have tracked := tracksTags_onMemory store
    have left : (membersOf (Key.ofTag tag) connection).2.store =
        .inl (memory.use (Key.ofTag tag) connection.now).2 := by
      simp only [membersOf, tracksTags, bind_apply, get_apply, pure_apply, tracked, ↓reduceIte]
      exact (ask_store_onMemory embeds_inl store (.members (Key.ofTag tag))).trans
        (congrArg Sum.inl (memory.members_snd ..))
    refine ⟨counts_of_memory store left (Nat.le_of_eq (MemoryStore.evictions_use ..).symm),
      spares_of_memory store left alike.now fun _ _ => MemoryStore.find?_use .., ?_⟩
    have answered := memory.members_fst (Key.ofTag tag) connection.now
    simp only [listed, record?, store]
    simp only [membersOf, tracksTags, bind_apply, get_apply, pure_apply, tracked, ↓reduceIte]
    split at answered
    · have asked := ask_onMemory embeds_inl store (.members (Key.ofTag tag)) answered
      exact congrArg (fun left : Option (List String) × Connection (MemoryStore ⊕ τ) =>
        left.1.getD []) asked
    · rename_i refused
      have asked := ask_refused_onMemory embeds_inl store
        (.members (Key.ofTag tag)) answered
      refine (congrArg (fun left : Option (List String) × Connection (MemoryStore ⊕ τ) =>
        left.1.getD []) asked).trans ?_
      rw [MemoryStore.accepts, MemoryStore.value?] at refused
      rw [MemoryStore.record?]
      rcases held : memory.find? (Key.ofTag tag) connection.now with _ | slot
      · rfl
      · rw [held] at refused
        cases slot with
        | value entry => rfl
        | set members deadline => exact absurd rfl refused
  · have tracked := tracksTags_other store usable
    have shape : (membersOf (Key.ofTag tag) connection).2.store = connection.store ∧
        (membersOf (Key.ofTag tag) connection).2.cache.fallback =
          (connection.cache.fallback.useSet (Key.ofTag tag) connection.now).2 ∧
        (membersOf (Key.ofTag tag) connection).1 =
          some (connection.cache.fallback.members (Key.ofTag tag) connection.now).1 := by
      simp only [membersOf, tracksTags, bind_apply, get_apply, pure_apply, tracked,
        Bool.false_eq_true, ↓reduceIte, serve_apply, and_true, true_and]
      rfl
    have store' := shape.1.trans store
    refine ⟨counts_of_other store store',
      spares_of_fallback store store' alike.now fun key _ => ?_, ?_⟩
    · rw [shape.2.1]
      exact FallbackStore.useSet_snd ..
    · rw [shape.2.2]
      simp only [listed, record?, store]
      exact FallbackStore.members_fst ..

omit [Libraries] in
/-- Dropping the record of a tag is quiet. -/
theorem quiet_dropRecord {σ : Type} [BackingStore σ] (record : String) :
    Quiet (dropRecord record : StateM (Connection σ) Unit) := by
  refine quiet_bind (quiet_bind quiet_get fun _ => quiet_pure _) fun tracked => ?_
  cases tracked with
  | true => exact quiet_discard (quiet_ask _)
  | false => exact quiet_discard (quiet_inProcess _)

/-- Dropping a record deletes its key. -/
theorem dropRecord_shelf (usable : connection.Usable) (record : String) :
    Counts connection (dropRecord record connection).2 ∧
      Spares (fun other => other = record) connection (dropRecord record connection).2 ∧
      ∀ key, connection.value? key = none → (dropRecord record connection).2.value? key = none := by
  have alike := quiet_dropRecord record connection
  rcases store : connection.store with memory | other
  · have tracked := tracksTags_onMemory store
    have left : (dropRecord record connection).2.store =
        .inl (memory.delete [record] connection.now).2 := by
      simp only [dropRecord, tracksTags, bind_apply, get_apply, pure_apply, tracked, ↓reduceIte,
        discard_apply]
      exact ask_store_onMemory embeds_inl store (.delete [record])
    have found := fun other => MemoryStore.find?_delete [record] memory other connection.now
    refine ⟨counts_of_memory store left (Nat.le_of_eq (MemoryStore.evictions_delete ..).symm),
      spares_of_memory store left alike.now fun other differs => ?_, fun key gone => ?_⟩
    · exact (found other).trans (if_neg fun held => differs (List.mem_singleton.1 held))
    · simp only [value?, store, left, alike.now, MemoryStore.value?] at gone ⊢
      rw [found key]
      split
      · rfl
      · exact gone
  · have tracked := tracksTags_other store usable
    have shape : (dropRecord record connection).2.store = connection.store ∧
        (dropRecord record connection).2.cache.fallback =
          (connection.cache.fallback.delete [record]).2 := by
      simp only [dropRecord, tracksTags, bind_apply, get_apply, pure_apply, tracked,
        Bool.false_eq_true, ↓reduceIte, discard_apply, inProcess_apply, and_self]
    have store' := shape.1.trans store
    have found := fun other =>
      FallbackStore.find?_delete [record] connection.cache.fallback other connection.now
    refine ⟨counts_of_other store store',
      spares_of_fallback store store' alike.now fun other differs => ?_, fun key gone => ?_⟩
    · have outside : other ∉ [record] := fun held => differs (List.mem_singleton.1 held)
      rw [shape.2, (found other).1, (found other).2, if_neg outside, if_neg outside]
      exact ⟨rfl, rfl⟩
    · simp only [value?, store, store', alike.now] at gone ⊢
      rw [shape.2, (found key).1]
      split
      · rfl
      · exact gone

/-- The keys that an invalidation by a tag comes to: those that the record lists and that of the
record, if it lists any. -/
def Invalidates (connection : Connection (MemoryStore ⊕ τ)) (tag key : String) : Prop :=
  connection.listed tag ≠ [] ∧ (key ∈ connection.listed tag ∨ key = Key.ofTag tag)

omit [Libraries] in
/-- Invalidating a tag is quiet. -/
theorem quiet_invalidateTag {σ : Type} [BackingStore σ] (tag : String) :
    Quiet (invalidateTag tag : StateM (Connection σ) Nat) := by
  refine quiet_bind (quiet_membersOf _) fun found => ?_
  rcases found with _ | _ | ⟨member, rest⟩
  · exact quiet_pure _
  · exact quiet_pure _
  · exact quiet_bind (quiet_deleteAll _) fun _ =>
      quiet_bind (quiet_dropRecord _) fun _ => quiet_pure _

/-- Invalidating a tag deletes the keys that its record lists, and spares all that it does not come
to. -/
theorem invalidateTag_shelf (usable : connection.Usable) (tag : String) :
    Counts connection (invalidateTag tag connection).2 ∧
      Spares (connection.Invalidates tag) connection (invalidateTag tag connection).2 ∧
      ∀ key ∈ connection.listed tag, (invalidateTag tag connection).2.value? key = none := by
  obtain ⟨counts, spares, members⟩ := membersOf_shelf usable tag
  have none_left : (membersOf (Key.ofTag tag) connection).1.getD [] = [] →
      (invalidateTag tag connection).2 = (membersOf (Key.ofTag tag) connection).2 := by
    intro empty
    rw [invalidateTag, bind_apply]
    rcases found : (membersOf (Key.ofTag tag) connection).1 with _ | _ | ⟨member, rest⟩
    · rfl
    · rfl
    · rw [found] at empty
      exact absurd empty (List.cons_ne_nil _ _)
  by_cases empty : connection.listed tag = []
  · rw [none_left (members.trans empty), empty]
    exact ⟨counts, ⟨fun key _ => spares.value key id, fun key _ => spares.record key id⟩,
      fun _ held => absurd held List.not_mem_nil⟩
  · obtain ⟨counts', spares', gone⟩ := deleteAll_shelf (counts.usable usable)
      (connection.listed tag)
    obtain ⟨counts'', spares'', gone'⟩ := dropRecord_shelf
      (counts'.usable (counts.usable usable)) (Key.ofTag tag)
    have left : (invalidateTag tag connection).2 = (dropRecord (Key.ofTag tag)
        (deleteAll (connection.listed tag) (membersOf (Key.ofTag tag) connection).2).2).2 := by
      rw [invalidateTag, bind_apply]
      rw [← members] at empty ⊢
      rcases found : (membersOf (Key.ofTag tag) connection).1 with _ | _ | ⟨member, rest⟩
      · exact absurd (congrArg (Option.getD · []) found) empty
      · exact absurd (congrArg (Option.getD · []) found) empty
      · rfl
    rw [left]
    refine ⟨(counts.trans counts').trans counts'', ⟨fun key spared => ?_, fun key spared => ?_⟩,
      fun key held => gone' key (gone key held)⟩
    · have outside : key ∉ connection.listed tag := fun held => spared ⟨empty, .inl held⟩
      have differs : key ≠ Key.ofTag tag := fun same => spared ⟨empty, .inr same⟩
      exact (spares''.value key differs).trans
        ((spares'.value key outside).trans (spares.value key id))
    · have outside : key ∉ connection.listed tag := fun held => spared ⟨empty, .inl held⟩
      have differs : key ≠ Key.ofTag tag := fun same => spared ⟨empty, .inr same⟩
      exact (spares''.record key differs).trans
        ((spares'.record key outside).trans (spares.record key id))

/-! ## Invalidation by a pattern -/

/-- A key matches a pattern that can be compiled. -/
def Matches (pattern key : String) : Prop :=
  ∃ compiled, Pattern.compile? pattern = some compiled ∧ compiled.matchesKey key = true

omit [Libraries] in
/-- A walk is quiet. -/
theorem quiet_walk {σ : Type} [BackingStore σ] (pattern : String) (cursor removed pages : Nat) :
    Quiet (walk pattern cursor removed pages : StateM (Connection σ) (Ending Walk)) := by
  induction pages generalizing cursor removed with
  | zero => exact quiet_pure _
  | succ pages ih =>
    refine quiet_bind quiet_get fun _ => quiet_bind (quiet_ask _) fun scanned? => ?_
    rcases scanned? with _ | page | _ | _
    · exact quiet_pure _
    · refine quiet_bind (quiet_deletePage _) fun deleted? => ?_
      cases deleted? with
      | none => exact quiet_pure _
      | some deleted =>
        dsimp only
        split
        · exact quiet_pure _
        · exact ih _ _
    · exact quiet_pure _
    · exact quiet_pure _

/-- Invalidating a pattern is quiet. -/
theorem quiet_invalidate {σ : Type} [BackingStore σ] (pattern : String) :
    Quiet (invalidate pattern : StateM (Connection σ) (Ending Nat)) := by
  refine quiet_bind (quiet_bind quiet_get fun store => ?_) fun ending => ?_
  · dsimp only
    split
    · exact quiet_walk _ _ _ _
    · exact quiet_pure _
  · cases ending with
    | panicked | running => exact quiet_pure _
    | returned walked =>
      dsimp only
      split
      · exact quiet_bind (quiet_inProcess _) fun _ => quiet_pure _
      · exact quiet_pure _

/-- A page that is deleted leaves nothing under its keys in the store in memory. -/
theorem deletePage_onMemory {memory : MemoryStore}
    (store : connection.store = .inl memory) (keys : List String) :
    ∃ left : MemoryStore, (deletePage keys connection).2.store = .inl left ∧
      left.evictions = memory.evictions ∧
      ∀ key, key ∉ keys → left.find? key connection.now = memory.find? key connection.now := by
  cases keys with
  | nil => exact ⟨memory, store, rfl, fun _ _ => rfl⟩
  | cons key rest =>
    refine ⟨(memory.delete (key :: rest) connection.now).2,
      ask_store_onMemory embeds_inl store (.delete (key :: rest)),
      MemoryStore.evictions_delete .., fun other outside => ?_⟩
    exact (MemoryStore.find?_delete ..).trans (if_neg outside)

/-- A walk over the store in memory deletes keys that match the pattern only. -/
theorem walk_onMemory (pattern : String) (pages : Nat)
    {connection : Connection (MemoryStore ⊕ τ)} {memory : MemoryStore}
    (store : connection.store = .inl memory) (cursor removed : Nat) :
    ∃ left : MemoryStore, (walk pattern cursor removed pages connection).2.store = .inl left ∧
      left.evictions = memory.evictions ∧
      ∀ key, ¬ Matches pattern key →
        left.find? key connection.now = memory.find? key connection.now := by
  induction pages generalizing connection memory cursor removed with
  | zero => exact ⟨memory, store, rfl, fun _ _ => rfl⟩
  | succ pages ih =>
    rw [walk, bind_apply, get_apply, bind_apply]
    dsimp only
    cases scanned : memory.scan cursor pattern
        (max connection.cache.configuration.scanBatch 1) connection.now with
    | error error =>
      rw [ask_refused_onMemory embeds_inl store (.scan ..) scanned]
      exact ⟨memory, rfl, rfl, fun _ _ => rfl⟩
    | ok ending =>
      -- The scan leaves the store as it is, so the page is deleted from the store of before.
      have asked : ({ connection with store := Sum.inl memory } : Connection (MemoryStore ⊕ τ)) =
          connection := by rw [← store]
      have unchanged : (memory.answer (.scan cursor pattern
          (max connection.cache.configuration.scanBatch 1)) connection.now).2 = memory := rfl
      rw [ask_onMemory embeds_inl store (.scan ..) scanned, unchanged, asked]
      cases ending with
      | panicked | running => exact ⟨memory, store, rfl, fun _ _ => rfl⟩
      | returned page =>
        dsimp only
        rw [bind_apply]
        obtain ⟨left, store', evictions, found⟩ := deletePage_onMemory store page.keys
        have alike := quiet_deletePage page.keys connection
        have spared : ∀ key, ¬ Matches pattern key →
            left.find? key connection.now = memory.find? key connection.now := fun key differs =>
          found key fun shown => differs (MemoryStore.matches_of_mem_scan scanned shown)
        cases deleted : (deletePage page.keys connection).1 with
        | none => exact ⟨left, store', evictions, spared⟩
        | some count =>
          dsimp only
          split
          · exact ⟨left, store', evictions, spared⟩
          · obtain ⟨last, store'', evictions', found'⟩ := ih store' page.next (removed + count)
            rw [alike.now] at found'
            exact ⟨last, store'', evictions'.trans evictions, fun key differs =>
              (found' key differs).trans (spared key differs)⟩

/-- Invalidating a pattern spares the keys that do not match it. -/
theorem invalidate_shelf (usable : connection.Usable) (pattern : String) :
    Counts connection (invalidate pattern connection).2 ∧
      Spares (Matches pattern) connection (invalidate pattern connection).2 := by
  have alike := quiet_invalidate pattern connection
  rcases store : connection.store with memory | other
  · have walks : (BackingStore.capabilities connection.store).deletesByWalk = true := by
      rw [store]
      rfl
    obtain ⟨left, store', evictions, found⟩ := walk_onMemory pattern
      (BackingStore.pageBound connection.store) store 0 0
    have last : (invalidate pattern connection).2.store = .inl left := by
      rw [invalidate, bind_apply, walkStore, bind_apply, get_apply]
      dsimp only
      rw [walks, if_pos rfl]
      cases (walk pattern 0 0 (BackingStore.pageBound connection.store) connection).1 with
      | panicked | running => exact store'
      | returned walked =>
        dsimp only
        rw [ite_apply]
        split
        · exact store'
        · exact store'
    exact ⟨counts_of_memory store last (Nat.le_of_eq evictions.symm),
      spares_of_memory store last alike.now found⟩
  · have walks : (BackingStore.capabilities connection.store).deletesByWalk = false := by
      have scan := declares_other store usable .scan
      simp only [Capabilities.declares] at scan
      rw [Capabilities.deletesByWalk, scan, Bool.false_and]
    have shape : (invalidate pattern connection).2.store = connection.store ∧
        (invalidate pattern connection).2.cache.fallback =
          (deleteMatching pattern connection.now connection.cache.fallback).2 := by
      simp only [invalidate, walkStore, bind_apply, get_apply, walks, Bool.false_eq_true,
        ↓reduceIte, pure_apply, inProcess_apply, and_self]
    have store' := shape.1.trans store
    refine ⟨counts_of_other store store',
      spares_of_fallback store store' alike.now fun key differs => ?_⟩
    rw [shape.2, deleteMatching]
    cases compiled : Pattern.compile? pattern with
    | none => exact ⟨rfl, rfl⟩
    | some found =>
      have outside : key ∉ connection.cache.fallback.keysLike found connection.now := fun held =>
        differs ⟨found, compiled, (FallbackStore.mem_keysLike.1 held).2⟩
      have spared := FallbackStore.find?_delete
        (connection.cache.fallback.keysLike found connection.now) connection.cache.fallback key
        connection.now
      rw [if_neg outside, if_neg outside] at spared
      exact spared

end FailOpenCache.Connection
