import FailOpenCache.Libraries.Plain
import FailOpenCache.Proofs.Cache.Alterations
import FailOpenCache.Proofs.Cache.Invalidations
import FailOpenCache.Proofs.Store.Effects

/-!
# Writes of several keys

A batch of writes is carried out group by group, in the order of the lifetimes and on one of three
ways, and it leaves what its writes one by one leave, in the order in which they are given: under
each key both write the same, and in the same order. Whether a key has to give way depends on the
keys that are written and not on their order, as long as what is written now has not expired at
once.
-/

namespace FailOpenCache

/-! ## Writes that are the same under each key -/

/-- Under each key both lists of writes say the same, in the same order. -/
def SameWrites (first second : List PlannedWrite) : Prop :=
  ∀ key, writesUnder key first = writesUnder key second

/-- A key is written when there are writes under it. -/
theorem mem_keys_iff {writes : List PlannedWrite} {key : String} :
    key ∈ writes.map PlannedWrite.key ↔ writesUnder key writes ≠ [] := by
  rw [Ne, writesUnder, List.filter_eq_nil_iff]
  simp [List.mem_map]

/-- The same keys are written. -/
theorem SameWrites.keys {first second : List PlannedWrite} (same : SameWrites first second) :
    (first.map PlannedWrite.key).toFinset = (second.map PlannedWrite.key).toFinset := by
  ext key
  rw [List.mem_toFinset, List.mem_toFinset, mem_keys_iff, mem_keys_iff, same key]

namespace MemoryStore

variable {store : MemoryStore} {now : Millis}

/-! ## Room for writes -/

/-- The keys that are live. -/
def liveKeys (store : MemoryStore) (now : Millis) : Finset String :=
  (store.recency.keys.filter fun key => (store.find? key now).isSome).toFinset

/-- There is room for the keys that are live together with those that are written. -/
def HasRoomFor (store : MemoryStore) (now : Millis) (writes : List PlannedWrite) : Prop :=
  (store.liveKeys now ∪ (writes.map PlannedWrite.key).toFinset).card ≤ store.capacity

namespace Coherent

/-- A key is live when something is found under it. -/
theorem mem_liveKeys (coherent : store.Coherent) {key : String} :
    key ∈ store.liveKeys now ↔ (store.find? key now).isSome := by
  rw [liveKeys, List.mem_toFinset, List.mem_filter]
  constructor
  · exact And.right
  · intro live
    obtain ⟨slot, found⟩ := Option.isSome_iff_exists.1 live
    exact ⟨coherent.mem_keys_of_find? found, live⟩

/-- There is room for the keys that are live. -/
theorem card_liveKeys_le (coherent : store.Coherent) :
    (store.liveKeys now).card ≤ store.capacity := by
  have held : (store.liveKeys now).card ≤ store.recency.keys.length :=
    Nat.le_trans (List.toFinset_card_le _) (List.length_filter_le _ _)
  exact Nat.le_trans held (coherent.size_eq ▸ coherent.fits)

/-- Where there is room for a key beside the live ones, it comes without an eviction. -/
theorem evictions_insert_of_room (coherent : store.Coherent) {key : String} (slot : Slot)
    (room : (store.liveKeys now ∪ {key}).card ≤ store.capacity) :
    (store.insert key slot now).evictions = store.evictions := by
  by_cases held : key ∈ store.recency.keys
  · rw [coherent.insert_held held]
  have arrival := coherent.insert_new held slot now
  by_cases full : store.slots.size = store.capacity
  · by_cases lapsed : ∃ other ∈ store.recency.keys, store.find? other now = none
    · exact (arrival.sweeps full lapsed).2
    · -- A full store of live keys has no room for another one.
      have live : ∀ other ∈ store.recency.keys, (store.find? other now).isSome := by
        intro other inside
        rw [Option.isSome_iff_ne_none]
        exact fun nothing => lapsed ⟨other, inside, nothing⟩
      have all : store.liveKeys now = store.recency.keys.toFinset :=
        congrArg List.toFinset (List.filter_eq_self.2 live)
      have outside : key ∉ store.recency.keys.toFinset := fun inside =>
        held (List.mem_toFinset.1 inside)
      rw [all, Finset.union_singleton, Finset.card_insert_of_notMem outside,
        List.toFinset_card_of_nodup coherent.recency.nodup_keys, ← coherent.size_eq, full] at room
      exact absurd room (Nat.not_succ_le_self _)
  · have fits := coherent.fits
    exact (arrival.room (by omega)).2

/-- Writes keep the store coherent, and its room as it is. -/
theorem writeAll (coherent : store.Coherent) (writes : List PlannedWrite) (now : Millis) :
    (store.writeAll writes now).Coherent ∧
      (store.writeAll writes now).capacity = store.capacity := by
  induction writes generalizing store with
  | nil => exact ⟨coherent, rfl⟩
  | cons write rest ih =>
    obtain ⟨coherent', capacity⟩ := ih (coherent.insert write.key
      (.value (.write write.payload write.lifetime now)) now)
    exact ⟨coherent', capacity.trans (capacity_insert _ _ _ _)⟩

/-- Writes for which there is room evict nothing. -/
theorem evictions_writeAll_of_room {writes : List PlannedWrite} (coherent : store.Coherent)
    (room : store.HasRoomFor now writes) :
    (store.writeAll writes now).evictions = store.evictions := by
  induction writes generalizing store with
  | nil => rfl
  | cons write rest ih =>
    have first : (store.set write.key write.payload write.lifetime now).evictions =
        store.evictions := by
      refine coherent.evictions_insert_of_room _ (Nat.le_trans (Finset.card_le_card ?_) room)
      refine Finset.union_subset_union_right (Finset.singleton_subset_iff.2 ?_)
      exact List.mem_toFinset.2 List.mem_cons_self
    have coherent' : (store.set write.key write.payload write.lifetime now).Coherent :=
      coherent.insert write.key _ now
    have later := ih coherent' ?_
    · exact later.trans first
    · refine Nat.le_trans (Finset.card_le_card ?_)
        (Nat.le_trans room (Nat.le_of_eq (capacity_insert _ _ _ _).symm))
      intro key member
      rw [Finset.mem_union, coherent'.mem_liveKeys, set, find?_insert first] at member
      rw [Finset.mem_union, coherent.mem_liveKeys, List.map_cons, List.toFinset_cons,
        Finset.mem_insert]
      split at member
      · rename_i same
        exact .inr (.inl same)
      · exact member.imp_right .inr

end Coherent

/-- Before the last instant of the clock a key holds something after writes when it did before or is
written. -/
theorem isSome_heldAfter (early : now < lastWord) {key : String} {writes : List PlannedWrite}
    {held : Option Slot} :
    (heldAfter key now held writes).isSome ↔
      held.isSome ∨ key ∈ writes.map PlannedWrite.key := by
  induction writes generalizing held with
  | nil => simp [heldAfter]
  | cons write rest ih =>
    have step : heldAfter key now held (write :: rest) = heldAfter key now
      (if write.key = key then live (.value (.write write.payload write.lifetime now)) now
        else held) rest := rfl
    rw [step, ih, List.map_cons, List.mem_cons]
    by_cases here : write.key = key
    · have fresh : (Slot.value (.write write.payload write.lifetime now)).isExpired now = false :=
        Entry.isExpired_write write.payload write.lifetime early
      simp [here, live, Option.filter, fresh]
    · rw [if_neg here]
      simp [Ne.symm here]

/-- Before the last instant of the clock, writes evict nothing exactly when there is room for
them. -/
theorem Coherent.evictions_writeAll_iff (coherent : store.Coherent) (early : now < lastWord)
    (writes : List PlannedWrite) :
    (store.writeAll writes now).evictions = store.evictions ↔ store.HasRoomFor now writes := by
  refine ⟨fun kept => ?_, coherent.evictions_writeAll_of_room⟩
  obtain ⟨coherent', capacity⟩ := coherent.writeAll writes now
  have live : store.liveKeys now ∪ (writes.map PlannedWrite.key).toFinset =
      (store.writeAll writes now).liveKeys now := by
    ext key
    rw [Finset.mem_union, List.mem_toFinset, coherent.mem_liveKeys, coherent'.mem_liveKeys,
      find?_writeAll kept, isSome_heldAfter early]
  rw [HasRoomFor, live, ← capacity]
  exact coherent'.card_liveKeys_le

end MemoryStore

namespace SameWrites

variable {first second : List PlannedWrite} {now : Millis}

/-- Writes that are the same under each key and evict nothing leave the same. -/
theorem find?_eq (same : SameWrites first second) {store : MemoryStore}
    (kept : (store.writeAll first now).evictions = store.evictions)
    (kept' : (store.writeAll second now).evictions = store.evictions) (key : String) :
    (store.writeAll first now).find? key now = (store.writeAll second now).find? key now := by
  rw [MemoryStore.find?_writeAll kept, MemoryStore.find?_writeAll kept',
    ← MemoryStore.heldAfter_writesUnder, same key, MemoryStore.heldAfter_writesUnder]

/-- Before the last instant of the clock, of writes that are the same under each key the ones evict
nothing exactly when the others do not. -/
theorem evictions_iff (same : SameWrites first second) {store : MemoryStore}
    (coherent : store.Coherent) (early : now < lastWord) :
    (store.writeAll first now).evictions = store.evictions ↔
      (store.writeAll second now).evictions = store.evictions := by
  rw [coherent.evictions_writeAll_iff early, coherent.evictions_writeAll_iff early,
    MemoryStore.HasRoomFor, MemoryStore.HasRoomFor, same.keys]

end SameWrites

namespace FallbackStore

/-- Writes one after the other. -/
def writeAll (store : FallbackStore) (writes : List PlannedWrite) (now : Millis) : FallbackStore :=
  writes.foldl (fun written write => written.set write.key write.payload write.lifetime now) store

/-- Writes leave the sets alone, and under each key only the writes under it count. -/
theorem writeAll_spec (writes : List PlannedWrite) (store : FallbackStore) (now : Millis) :
    (store.writeAll writes now).sets = store.sets ∧
      ∀ key, (store.writeAll writes now).entries.find? key =
        (writesUnder key writes).foldl
          (fun _ write => some (.write write.payload write.lifetime now))
          (store.entries.find? key) := by
  induction writes generalizing store with
  | nil => exact ⟨rfl, fun _ => rfl⟩
  | cons write rest ih =>
    obtain ⟨sets, entries⟩ := ih (store.set write.key write.payload write.lifetime now)
    refine ⟨sets, fun key => (entries key).trans ?_⟩
    rw [set, Table.find?_put]
    by_cases here : write.key = key
    · have kept : writesUnder key (write :: rest) = write :: writesUnder key rest := by
        simp [writesUnder, here]
      rw [kept, if_pos here.symm]
      rfl
    · have dropped : writesUnder key (write :: rest) = writesUnder key rest := by
        simp [writesUnder, here]
      rw [dropped, if_neg (Ne.symm here)]

end FallbackStore

/-- Writes that are the same under each key leave the same in the process. -/
theorem SameWrites.entries_eq {first second : List PlannedWrite} (same : SameWrites first second)
    (store : FallbackStore) (now : Millis) (key : String) :
    (store.writeAll first now).entries.find? key =
      (store.writeAll second now).entries.find? key := by
  rw [(store.writeAll_spec first now).2, (store.writeAll_spec second now).2, same key]

namespace Connection

variable {connection : Connection (ObservedStore MemoryStore)} {α : Type} [Storable α]

/-! ## Operations that carry out writes -/

/-- Between two connections writes have been carried out: in the store where values are declared,
and in the process otherwise. -/
structure Written (writes : List PlannedWrite)
    (before after : Connection (ObservedStore MemoryStore)) : Prop extends Alike before after where
  /-- The plans are the same. -/
  plans : after.store.plans = before.store.plans
  /-- The declarations are the same. -/
  declared : after.store.declared = before.store.declared
  /-- What is left in the store. -/
  store : after.store.store =
    if before.store.declared.keyValue then before.store.store.writeAll writes before.now
    else before.store.store
  /-- What is left in the process. -/
  fallback : after.cache.fallback =
    if before.store.declared.keyValue then before.cache.fallback
    else before.cache.fallback.writeAll writes before.now

namespace Written

variable {writes later : List PlannedWrite}
  {before between after : Connection (ObservedStore MemoryStore)}

/-- Nothing has been written. -/
theorem refl (connection : Connection (ObservedStore MemoryStore)) :
    Written [] connection connection :=
  ⟨.refl connection, rfl, rfl, (ite_self _).symm, (ite_self _).symm⟩

/-- Writes are carried out behind others. -/
theorem trans (early : Written writes before between) (late : Written later between after) :
    Written (writes ++ later) before after where
  toAlike := early.toAlike.trans late.toAlike
  plans := late.plans.trans early.plans
  declared := late.declared.trans early.declared
  store := by
    rw [late.store, early.store, early.declared, early.now]
    cases before.store.declared.keyValue with
    | true => exact List.foldl_append.symm
    | false => rfl
  fallback := by
    rw [late.fallback, early.fallback, early.declared, early.now]
    cases before.store.declared.keyValue with
    | true => rfl
    | false => exact List.foldl_append.symm

end Written

section

variable [Libraries]

/-- A request carries out the writes that it stands for. -/
theorem written_ask (unplanned : connection.store.plans = [])
    (values : connection.store.declared.keyValue = true) {asked : Request}
    {writes : List PlannedWrite}
    (writing : ∀ now (memory : MemoryStore),
      (memory.answer asked now).2 = memory.writeAll writes now) :
    Written writes connection (ask asked connection).2 := by
  have spared := ObservedStore.strikesAhead_of_unplanned unplanned asked.operation 1
  have store := (ask_unstruck asked spared).2
  have spent := spent_ask asked connection
  obtain ⟨counters, shape⟩ := ask_apply asked connection
  refine ⟨quiet_ask asked connection, spent.plans, spent.declared, ?_, ?_⟩
  · rw [if_pos values, store, ← writing]
    rfl
  · rw [if_pos values, shape]

omit [Libraries] in
/-- Writes in the process are carried out where values are not declared. -/
theorem written_serve (undeclared : connection.store.declared.keyValue = false)
    {operation : Millis → FallbackStore → Unit × FallbackStore} {writes : List PlannedWrite}
    (writing : ∀ now fallback, (operation now fallback).2 = fallback.writeAll writes now) :
    Written writes connection (serve operation connection).2 := by
  refine ⟨quiet_serve operation connection, rfl, rfl, ?_, ?_⟩
  · rw [undeclared, if_neg Bool.false_ne_true]
    rfl
  · rw [undeclared, if_neg Bool.false_ne_true, ← writing]
    rfl

/-- Payloads are written one by one. -/
theorem written_writeEach (lifetime : Seconds) (items : List (String × String))
    (unplanned : connection.store.plans = [])
    (values : connection.store.declared.keyValue = true) :
    Written (WriteGroup.planned ⟨lifetime, items⟩) connection
      (writeEach lifetime items connection).2 := by
  induction items generalizing connection with
  | nil => exact .refl connection
  | cons item rest ih =>
    have first : Written [⟨item.1, item.2, lifetime⟩] connection
        (ask (.set item.1 item.2 lifetime) connection).2 :=
      written_ask unplanned values fun _ _ => rfl
    exact first.trans (ih (first.plans.trans unplanned) (first.declared ▸ values))

/-- A group is written on one of three ways. -/
theorem written_writeGroup (group : WriteGroup) (unplanned : connection.store.plans = []) :
    Written group.planned connection (writeGroup group connection).2 := by
  have groups : BackingStore.capabilities connection.store = connection.store.declared := rfl
  rw [writeGroup, bind_apply, declares_apply, groups, Capabilities.declares]
  cases values : connection.store.declared.keyValue with
  | false =>
    refine written_serve values fun now fallback => ?_
    rw [FallbackStore.writeAll, WriteGroup.planned, List.foldl_map]
  | true =>
    dsimp only
    rw [if_neg (by decide), bind_apply, declares_apply, groups, Capabilities.declares]
    cases connection.store.declared.pipeline with
    | false => exact written_writeEach group.lifetime group.items unplanned values
    | true =>
      refine written_ask unplanned values fun now memory => ?_
      rw [MemoryStore.writeAll, WriteGroup.planned, List.foldl_map]
      rfl

/-- Groups are written one after the other. -/
theorem written_writeGroups (groups : List WriteGroup) (unplanned : connection.store.plans = []) :
    Written (plannedOf groups) connection (writeGroups groups connection).2 := by
  induction groups generalizing connection with
  | nil => exact .refl connection
  | cons group rest ih =>
    have first := written_writeGroup group unplanned
    exact first.trans (ih (first.plans.trans unplanned))

/-- A value is written if it has a written form. -/
theorem written_set (key : String) (value : α) (stated : Option Seconds)
    (unplanned : connection.store.plans = []) :
    Written (planOf connection.cache stated [(key, value)]) connection
      (set key value stated connection).2 := by
  cases written : Storable.write? value with
  | none =>
    rw [set_unwritten written]
    simpa [planOf, written] using Written.refl connection
  | some document =>
    have groups : BackingStore.capabilities connection.store = connection.store.declared := rfl
    simp only [set, payloadOf, bind_apply, get_apply, pure_apply, written, Option.map_some,
      writePayload, lifetimeOf_apply, declares_apply, groups, Capabilities.declares, planOf,
      List.filterMap_cons, List.filterMap_nil]
    cases values : connection.store.declared.keyValue with
    | false => exact written_serve values fun _ _ => rfl
    | true => exact written_ask unplanned values fun _ _ => rfl

/-- Write values one by one. -/
def setEach {σ : Type} [BackingStore σ] (stated : Option Seconds) :
    List (String × α) → StateM (Connection σ) Unit
  | [] => return ()
  | item :: rest => do
    set item.1 item.2 stated
    setEach stated rest

/-- Values are written in the order in which they are given. -/
theorem written_setEach (items : List (String × α)) (stated : Option Seconds)
    (unplanned : connection.store.plans = []) :
    Written (planOf connection.cache stated items) connection
      (setEach stated items connection).2 := by
  induction items generalizing connection with
  | nil => exact .refl connection
  | cons item rest ih =>
    have first := written_set item.1 item.2 stated unplanned
    have later := @ih (set item.1 item.2 stated connection).2 (first.plans.trans unplanned)
    have plan : planOf (set item.1 item.2 stated connection).2.cache stated rest =
        planOf connection.cache stated rest := by
      rw [planOf, planOf, first.configuration, first.rules]
    rw [plan] at later
    have whole : planOf connection.cache stated (item :: rest) =
        planOf connection.cache stated [item] ++ planOf connection.cache stated rest := by
      rw [planOf, planOf, planOf, ← List.filterMap_append]
      rfl
    rw [whole]
    exact first.trans later

/-- A batch writes under each key what it is asked to, in the order in which it is. -/
theorem sameWrites_groupsOf (stated : Option Seconds) (items : List (String × α))
    (connection : Connection (ObservedStore MemoryStore)) :
    SameWrites (plannedOf (groupsOf stated items connection).1)
      (planOf connection.cache stated items) :=
  writesUnder_groupsOf stated items connection

/-- Whatever is declared, a batch of writes leaves what the writes leave one by one in the order in
which they are given, whatever their lifetimes are and whichever values have no written form. In the
process every key has the same value and the same deadline, and every set is the same; and so has
every key of the store, be it a value or a set, if neither the batch nor the writes one by one evict
a key. Unless the clock stands at its last instant, where what is written with a lifetime has
expired at once, the batch evicts nothing exactly when the writes one by one do not. -/
theorem setMany_writesSingly {capacity : Nat}
    (reached : Led (MemoryStore.ofCapacity capacity) connection.store.store)
    (unplanned : connection.store.plans = []) (items : List (String × α))
    (stated : Option Seconds) :
    let evictions := connection.store.store.evictions
    let batch := (setMany items stated connection).2
    let singly := (setEach stated items connection).2
    (∀ key, batch.cache.fallback.entries.find? key = singly.cache.fallback.entries.find? key) ∧
      batch.cache.fallback.sets = singly.cache.fallback.sets ∧
      (batch.store.store.evictions = evictions → singly.store.store.evictions = evictions →
        ∀ key, batch.store.store.find? key connection.now =
          singly.store.store.find? key connection.now) ∧
      (connection.now < lastWord →
        (batch.store.store.evictions = evictions ↔ singly.store.store.evictions = evictions)) := by
  intro evictions batch singly
  have coherent := reached.coherent (.ofCapacity capacity)
  have same := sameWrites_groupsOf stated items connection
  have together : Written _ connection batch :=
    written_writeGroups (groupsOf stated items connection).1 unplanned
  have apart : Written _ connection singly := written_setEach items stated unplanned
  rw [together.fallback, apart.fallback, together.store, apart.store]
  cases connection.store.declared.keyValue with
  | true => exact ⟨fun _ => rfl, rfl, same.find?_eq, same.evictions_iff coherent⟩
  | false =>
    refine ⟨same.entries_eq _ _, ?_, fun _ _ _ => rfl, fun _ => Iff.rfl⟩
    exact (FallbackStore.writeAll_spec _ _ _).1.trans (FallbackStore.writeAll_spec _ _ _).1.symm

end

/-- A value that may have no written form. -/
structure Draft where
  /-- The document of the value, if it has one. -/
  document? : Option Document

instance : Storable Draft := ⟨fun document => some ⟨some document⟩, Draft.document?⟩

open scoped Libraries.Plain

/-- Two writes under one key, between them one under a key of a shorter lifetime and one of a value
without a written form. -/
def drafts : List (String × Draft) :=
  [("b", ⟨some (.integer 1)⟩), ("a", ⟨some (.integer 2)⟩), ("c", ⟨none⟩),
    ("b", ⟨some (.integer 3)⟩)]

/-- A cache with a rule of its own for some keys, over a store that the expired set under one of the
keys and a value fill. -/
def crowdedCache : Connection (ObservedStore MemoryStore) where
  cache := { Cache.ofConfiguration .standard with rules := .ofList 300 [("a", 5)] }
  store :=
    ⟨(MemoryStore.ofCapacity 3).after
      [(0, .addMember ["b"] "x" 1), (0, .addMember ["d"] "x" 1), (0, .set "e" "0|0" 0)],
      .all, [], none, []⟩
  now := 1000

/-- The batch writes the key of the shorter lifetime first, and leaves the same. -/
theorem setMany_writesSingly_regrouped :
    Led (MemoryStore.ofCapacity 3) crowdedCache.store.store ∧ crowdedCache.store.plans = [] ∧
      (groupsOf none drafts crowdedCache).1.map WriteGroup.lifetime = [5, 300] ∧
      let batch := (setMany drafts none crowdedCache).2.store.store
      batch.find? "a" 1000 = some (.value ⟨"0|2", some 6000⟩) ∧
        batch.find? "b" 1000 = some (.value ⟨"0|3", some 301000⟩) ∧
        batch.find? "c" 1000 = none ∧ batch.find? "e" 1000 = some (.value ⟨"0|0", none⟩) := by
  have reached : Led (MemoryStore.ofCapacity 3) crowdedCache.store.store :=
    MemoryStore.led_after _ _
  have unplanned : crowdedCache.store.plans = [] := rfl
  obtain ⟨-, -, same, evicts⟩ := setMany_writesSingly reached unplanned drafts none
  have kept : (setEach none drafts crowdedCache).2.store.store.evictions =
      crowdedCache.store.store.evictions := by decide +kernel
  have found := same ((evicts (by decide)).2 kept) kept
  refine ⟨reached, unplanned, by decide +kernel, ?_, ?_, ?_, ?_⟩
  · exact (found "a").trans (by decide +kernel)
  · exact (found "b").trans (by decide +kernel)
  · exact (found "c").trans (by decide +kernel)
  · exact (found "e").trans (by decide +kernel)

end Connection

end FailOpenCache
