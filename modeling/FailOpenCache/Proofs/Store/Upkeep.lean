import FailOpenCache.Proofs.Store.Memory
import FailOpenCache.Proofs.Store.Recency

/-!
# The upkeep of the store in memory

The store in memory keeps its slots and its order of use in step: both hold the same keys, and no
more of them than there is room for. So the oldest key that gives way is a key of the slots, and
one eviction at most makes room for a new key.
-/

namespace FailOpenCache

/-- A list without repetition is longer by one than the list without one of its members. -/
theorem length_filter_ne {keys : List String} (distinct : keys.Nodup) {key : String}
    (held : key ∈ keys) : (keys.filter (· ≠ key)).length + 1 = keys.length := by
  have erased := distinct.erase_eq_filter key
  have length := List.length_erase_of_mem held
  have positive := List.length_pos_of_mem held
  have same : (fun other : String => other != key) = fun other => decide (other ≠ key) := by
    funext other
    simp [bne, Bool.beq_eq_decide_eq]
  rw [erased, same] at length
  omega

namespace MemoryStore

/-- The slots and the order of use hold the same keys. -/
structure Tracked (store : MemoryStore) : Prop where
  /-- The order of use is coherent. -/
  recency : store.recency.Coherent
  /-- A key has a slot exactly when it stands in the order. -/
  mem_keys : ∀ key, key ∈ store.recency.keys ↔ (store.slots.find? key).isSome

/-- The slots and the order of use hold the same keys, and no more than there is room for. -/
structure Coherent (store : MemoryStore) : Prop extends Tracked store where
  /-- There is room for all keys. -/
  fits : store.slots.size ≤ store.capacity
  /-- There is room for one key at least. -/
  roomy : 0 < store.capacity

/-- The oldest key gives way to another. -/
def giveWay (store : MemoryStore) (oldest : String) (left : Recency) : MemoryStore :=
  { store with
    slots := store.slots.erase oldest
    recency := left
    evictions := store.evictions + 1 }

/-- A store that is not full evicts nothing. -/
theorem evict_of_room {store : MemoryStore} (room : store.slots.size < store.capacity)
    (atMost : Nat) : store.evict atMost = store := by
  cases atMost with
  | zero => rfl
  | succ atMost => rw [evict, if_pos room]

namespace Tracked

variable {store : MemoryStore}

/-- There are as many slots as keys in the order. -/
theorem size_eq (tracked : store.Tracked) : store.slots.size = store.recency.keys.length := by
  have same : store.slots.names.Perm store.recency.keys :=
    (List.perm_ext_iff_of_nodup store.slots.distinct tracked.recency.nodup_keys).2 fun key =>
      Table.mem_names_iff.trans (tracked.mem_keys key).symm
  have length := same.length_eq
  rwa [Table.names, List.length_map] at length

/-- A key that stands nowhere in the order holds nothing. -/
theorem find?_eq_none (tracked : store.Tracked) {key : String}
    (outside : key ∉ store.recency.keys) (now : Millis) : store.find? key now = none := by
  have empty : store.slots.find? key = none := by
    rw [tracked.mem_keys, Option.not_isSome_iff_eq_none] at outside
    exact outside
  rw [find?, empty]
  rfl

/-- A key that becomes the one used last has its slot. -/
theorem put (tracked : store.Tracked) (key : String) (slot : Slot) :
    Tracked { store with
      slots := store.slots.put key slot
      recency := store.recency.touch key } where
  recency := tracked.recency.touch key
  mem_keys other := by
    rw [tracked.recency.keys_touch, Table.find?_put, List.mem_append, List.mem_filter,
      List.mem_singleton, tracked.mem_keys, decide_eq_true_eq]
    by_cases same : other = key
    · simp [same]
    · simp [same]

/-- A use of a key that has a slot keeps the keys. -/
theorem touch (tracked : store.Tracked) {key : String}
    (held : (store.slots.find? key).isSome) :
    Tracked { store with recency := store.recency.touch key } where
  recency := tracked.recency.touch key
  mem_keys other := by
    rw [tracked.recency.keys_touch, List.mem_append, List.mem_filter, List.mem_singleton,
      tracked.mem_keys, decide_eq_true_eq]
    by_cases same : other = key
    · simp [same, held]
    · simp [same]

/-- A key is dropped from the slots and from the order. -/
theorem remove (tracked : store.Tracked) (key : String) : (store.remove key).Tracked where
  recency := tracked.recency.remove key
  mem_keys other := by
    rw [MemoryStore.remove, tracked.recency.keys_remove, Table.find?_erase, List.mem_filter,
      tracked.mem_keys, decide_eq_true_eq]
    by_cases same : other = key
    · simp [same]
    · simp [same]

end Tracked

namespace Coherent

variable {store : MemoryStore}

/-- A new store is coherent. -/
theorem ofCapacity (capacity : Nat) : (MemoryStore.ofCapacity capacity).Coherent where
  recency := .empty
  mem_keys key := by
    rw [MemoryStore.ofCapacity, Table.find?_empty]
    simp [Recency.empty, Recency.keys]
  fits := Nat.zero_le _
  roomy := Nat.lt_of_lt_of_le Nat.zero_lt_one (Nat.le_max_right _ _)

/-- A use of a key that has a slot keeps the store coherent. -/
theorem touch (coherent : store.Coherent) {key : String}
    (held : (store.slots.find? key).isSome) :
    Coherent { store with recency := store.recency.touch key } where
  toTracked := coherent.toTracked.touch held
  fits := coherent.fits
  roomy := coherent.roomy

/-- Dropping a key keeps the store coherent. -/
theorem remove (coherent : store.Coherent) (key : String) : (store.remove key).Coherent where
  toTracked := coherent.toTracked.remove key
  fits := Nat.le_trans (List.length_filter_le _ _) coherent.fits
  roomy := coherent.roomy

/-- A use keeps the store coherent. -/
theorem use (coherent : store.Coherent) (key : String) (now : Millis) :
    (store.use key now).2.Coherent := by
  rw [MemoryStore.use]
  cases found : store.slots.find? key with
  | none => exact coherent
  | some slot =>
    dsimp only
    split
    · exact coherent.remove key
    · exact coherent.touch (by rw [found]; rfl)

/-- Dropping keys keeps the store coherent. -/
theorem foldl_remove (dropped : List (String × Slot)) (coherent : store.Coherent) :
    (dropped.foldl (fun kept entry => kept.remove entry.1) store).Coherent := by
  induction dropped generalizing store with
  | nil => exact coherent
  | cons entry rest ih => exact ih (coherent.remove entry.1)

/-- Dropping what has expired keeps the store coherent. -/
theorem dropExpired (coherent : store.Coherent) (now : Millis) :
    (store.dropExpired now).Coherent :=
  foldl_remove _ coherent

/-- A slot that is put under a key keeps the store coherent, if it is held or there is room. -/
theorem put (coherent : store.Coherent) {key : String} (slot : Slot)
    (room : (store.slots.find? key).isSome ∨ store.slots.size < store.capacity) :
    Coherent { store with
      slots := store.slots.put key slot
      recency := store.recency.touch key } := by
  have tracked := coherent.toTracked.put key slot
  refine ⟨tracked, ?_, coherent.roomy⟩
  have size := coherent.size_eq
  have fits := coherent.fits
  rw [tracked.size_eq, coherent.recency.keys_touch, List.length_append, List.length_singleton]
  dsimp only
  by_cases held : key ∈ store.recency.keys
  · have shorter := length_filter_ne coherent.recency.nodup_keys held
    omega
  · have roomy : store.slots.size < store.capacity :=
      room.resolve_left fun found => held ((coherent.mem_keys key).2 found)
    have atMost := List.length_filter_le (· ≠ key) store.recency.keys
    omega

/-- When the oldest key of a coherent store gives way, the store stays coherent and has room. -/
theorem giveWay_spec (coherent : store.Coherent) {oldest : String} {rest : List String}
    (shape : store.recency.keys = oldest :: rest) :
    ∃ left, store.recency.takeOldest? = some (oldest, left) ∧ left.keys = rest ∧
      (giveWay store oldest left).Coherent ∧
      (giveWay store oldest left).slots.size < store.capacity := by
  obtain ⟨left, taken, keys, recency⟩ := coherent.recency.takeOldest?_of_keys shape
  have once : oldest ∉ rest := by
    have distinct := coherent.recency.nodup_keys
    rw [shape] at distinct
    exact (List.nodup_cons.1 distinct).1
  have tracked : (giveWay store oldest left).Tracked := by
    refine ⟨recency, fun key => ?_⟩
    have held := coherent.mem_keys key
    rw [shape, List.mem_cons] at held
    rw [giveWay, keys, Table.find?_erase]
    by_cases same : key = oldest
    · subst same
      simp [once]
    · simpa [same] using held
  have size : (giveWay store oldest left).slots.size + 1 = store.slots.size := by
    rw [tracked.size_eq, coherent.size_eq, shape, giveWay, keys, List.length_cons]
  have less : (giveWay store oldest left).slots.size < store.capacity := by
    have fits := coherent.fits
    omega
  exact ⟨left, taken, keys, ⟨tracked, Nat.le_of_lt less, coherent.roomy⟩, less⟩

/-- A full store evicts its oldest key and no other. -/
theorem evict_of_full (coherent : store.Coherent)
    (full : ¬ store.slots.size < store.capacity) :
    ∃ oldest rest left, store.recency.keys = oldest :: rest ∧ left.keys = rest ∧
      store.evict store.slots.size = giveWay store oldest left ∧
      (giveWay store oldest left).Coherent ∧
      (giveWay store oldest left).slots.size < store.capacity := by
  have positive : 0 < store.slots.size :=
    Nat.lt_of_lt_of_le coherent.roomy (Nat.le_of_not_lt full)
  have length := coherent.size_eq
  obtain ⟨oldest, rest, shape⟩ : ∃ oldest rest, store.recency.keys = oldest :: rest :=
    List.exists_cons_of_length_pos (length ▸ positive)
  obtain ⟨left, taken, keys, coherent', room⟩ := giveWay_spec coherent shape
  refine ⟨oldest, rest, left, shape, keys, ?_, coherent', room⟩
  obtain ⟨atMost, size⟩ := Nat.exists_eq_succ_of_ne_zero (Nat.ne_of_gt positive)
  rw [size, evict, if_neg full, taken]
  exact evict_of_room room atMost

/-- Making room keeps a coherent store coherent and leaves room. -/
theorem vacate (coherent : store.Coherent) (now : Millis) :
    (store.vacate now).Coherent ∧ (store.vacate now).slots.size < (store.vacate now).capacity := by
  rw [MemoryStore.vacate]
  split
  · rename_i room
    exact ⟨coherent, room⟩
  · dsimp only
    have swept := coherent.dropExpired now
    by_cases full : (store.dropExpired now).slots.size < (store.dropExpired now).capacity
    · rw [evict_of_room full]
      exact ⟨swept, full⟩
    · obtain ⟨oldest, rest, left, -, -, evicted, coherent', room⟩ := evict_of_full swept full
      rw [evicted]
      exact ⟨coherent', room⟩

/-- An insertion keeps the store coherent. -/
theorem insert (coherent : store.Coherent) (key : String) (slot : Slot) (now : Millis) :
    (store.insert key slot now).Coherent := by
  rw [MemoryStore.insert]
  split
  · rename_i held
    exact coherent.put slot (.inl held)
  · obtain ⟨ready, room⟩ := coherent.vacate now
    exact ready.put slot (.inr room)

/-- A slot that is put in place of another keeps the store coherent. -/
theorem overwrite (coherent : store.Coherent) {key : String} (slot : Slot)
    (held : (store.slots.find? key).isSome) :
    Coherent { store with slots := store.slots.put key slot } := by
  have tracked : Tracked { store with slots := store.slots.put key slot } := by
    refine ⟨coherent.recency, fun other => ?_⟩
    rw [Table.find?_put, coherent.mem_keys]
    by_cases same : other = key
    · simp [same, held]
    · simp [same]
  refine ⟨tracked, ?_, coherent.roomy⟩
  rw [tracked.size_eq, ← coherent.size_eq]
  exact coherent.fits

end Coherent

end MemoryStore

end FailOpenCache
