import FailOpenCache.Proofs.Store.Eager
import FailOpenCache.Proofs.Store.Upkeep

/-!
# Lazy expiry cannot be seen

At every instant the store in memory stands for an eager store: the one that holds its live keys in
the same order of use. Each of the ways in which a slot is used, dropped, put or swept does to the
eager store what is done to it there, and what the passing of time does to the eager store the
store in memory does by not looking. So an expired slot that lingers, counts for the capacity and
stands in the order of use changes no answer and no choice of a key that gives way.
-/

namespace FailOpenCache

/-- The entry of a key among what keys hold. -/
def entryOf? (held : String → Option Slot) (key : String) : Option (String × Slot) :=
  (held key).map fun slot => (key, slot)

/-- The entries of other keys than one are the entries without that of the key. -/
theorem filterMap_without {before after : String → Option Slot} (keys : List String)
    (key : String) (same : ∀ other, other ≠ key → after other = before other) :
    (keys.filter (· ≠ key)).filterMap (entryOf? after) =
      (keys.filterMap (entryOf? before)).filter fun entry => entry.1 ≠ key := by
  rw [List.filterMap_filter, List.filter_filterMap]
  refine congrArg (fun entry? => keys.filterMap entry?) (funext fun other => ?_)
  by_cases here : other = key
  · subst here
    cases shape : before other with
    | none => simp [entryOf?, shape]
    | some slot => simp [entryOf?, shape, Option.filter]
  · cases shape : before other with
    | none => simp [entryOf?, here, same other here, shape]
    | some slot => simp [entryOf?, here, same other here, shape, Option.filter]

/-- What is found under a key among the entries of keys is what it holds, if it is one of them. -/
theorem lookup_filterMap (held : String → Option Slot) (keys : List String) (key : String) :
    (keys.filterMap (entryOf? held)).lookup key = if key ∈ keys then held key else none := by
  induction keys with
  | nil => rfl
  | cons first rest ih =>
    rw [List.filterMap_cons]
    cases shape : held first with
    | none =>
      simp only [entryOf?, shape, Option.map_none]
      refine ih.trans ?_
      by_cases here : key = first
      · simp [here, shape]
      · simp [here]
    | some slot =>
      simp only [entryOf?, shape, Option.map_some]
      rw [Table.lookup_entry]
      by_cases here : key = first
      · simp [here, shape]
      · simp only [here, ↓reduceIte, List.mem_cons, false_or]
        exact ih

namespace EagerStore

/-- Dropping a key that is not held changes nothing. -/
theorem remove_of_absent {store : EagerStore} {key : String} (absent : store.find? key = none) :
    store.remove key = store := by
  have same : (store.held.filter fun entry => entry.1 ≠ key) = store.held := by
    refine List.filter_eq_self.2 fun entry held => ?_
    rw [decide_eq_true_eq]
    rintro rfl
    have found : (store.held.lookup entry.1).isSome := by
      rw [List.lookup_isSome_iff]
      exact ⟨entry, held, BEq.rfl⟩
    rw [EagerStore.find?] at absent
    rw [absent] at found
    exact absurd found Bool.false_ne_true
  rw [remove, same]

/-- Making room for a key that is not held does not bring it. -/
theorem find?_vacate {store : EagerStore} {key : String} (absent : store.find? key = none) :
    store.vacate.find? key = none := by
  rw [vacate]
  split
  · exact absent
  · rw [EagerStore.find?, List.lookup_eq_none_iff] at absent ⊢
    exact fun entry held => absent entry (List.mem_of_mem_tail held)

end EagerStore

namespace MemoryStore

variable {store : MemoryStore} {now : Millis}

/-- The eager store that the store in memory stands for at an instant. -/
def eager (store : MemoryStore) (now : Millis) : EagerStore where
  held := store.recency.keys.filterMap (entryOf? fun key => store.find? key now)
  capacity := store.capacity
  evictions := store.evictions

/-- The eager store holds the live keys in the order of use. -/
theorem names_eager (store : MemoryStore) (now : Millis) :
    (store.eager now).held.map Prod.fst =
      store.recency.keys.filter fun key => (store.find? key now).isSome := by
  rw [eager, List.map_filterMap]
  induction store.recency.keys with
  | nil => rfl
  | cons key rest ih =>
    rw [List.filterMap_cons, List.filter_cons, ih]
    cases found : store.find? key now with
    | none => simp [entryOf?, found]
    | some slot => simp [entryOf?, found]

/-- When an instant comes, the eager store drops what the store in memory leaves alone. -/
theorem eager_tick {later : Millis} (ordered : now ≤ later) (store : MemoryStore) :
    (store.eager now).tick later = store.eager later := by
  have same : (store.recency.keys.filterMap (entryOf? fun key => store.find? key now)).filter
      (fun entry => !entry.2.isExpired later) =
        store.recency.keys.filterMap (entryOf? fun key => store.find? key later) := by
    rw [List.filter_filterMap]
    refine congrArg (fun entry? => store.recency.keys.filterMap entry?) (funext fun key => ?_)
    simp only [entryOf?, find?_later ordered]
    cases store.find? key now with
    | none => rfl
    | some slot => cases expired : slot.isExpired later <;> simp [Option.filter, expired]
  simp only [eager, EagerStore.tick, same]

/-- Dropping keys leaves no slots under them and touches no others. -/
theorem find?_slots_foldl_remove (dropped : List (String × Slot)) (store : MemoryStore)
    (key : String) :
    (dropped.foldl (fun kept entry => kept.remove entry.1) store).slots.find? key =
      if key ∈ dropped.map Prod.fst then none else store.slots.find? key := by
  induction dropped generalizing store with
  | nil => simp
  | cons entry rest ih =>
    rw [List.foldl_cons, ih, remove, Table.find?_erase]
    by_cases here : key = entry.1
    · simp [here]
    · simp only [here, List.map_cons, List.mem_cons, false_or, ↓reduceIte]

/-- A slot that is left after dropping what has expired is live. -/
theorem find?_of_slots_dropExpired {key : String}
    (held : ((store.dropExpired now).slots.find? key).isSome) :
    ((store.dropExpired now).find? key now).isSome := by
  obtain ⟨slot, found⟩ := Option.isSome_iff_exists.1 held
  have kept := found
  rw [dropExpired, find?_slots_foldl_remove] at kept
  split at kept
  · exact absurd kept (by simp)
  · rename_i outside
    have live : slot.isExpired now = false := by
      rw [← Bool.not_eq_true]
      intro expired
      exact outside (List.mem_map.2 ⟨(key, slot),
        List.mem_filter.2 ⟨Table.mem_of_find? kept, expired⟩, rfl⟩)
    rw [find?, found]
    simp [Option.filter, live]

namespace Coherent

/-- A key holds in the eager store what it holds in the store in memory. -/
theorem find?_eager (coherent : store.Coherent) (key : String) (now : Millis) :
    (store.eager now).find? key = store.find? key now := by
  rw [EagerStore.find?, eager, lookup_filterMap]
  split
  · rfl
  · rename_i outside
    exact (coherent.find?_eq_none outside now).symm

/-- There are no more live keys than slots. -/
theorem length_eager_le (coherent : store.Coherent) (now : Millis) :
    (store.eager now).held.length ≤ store.slots.size := by
  rw [coherent.size_eq]
  exact List.length_filterMap_le _ _

/-- There are as many live keys as slots exactly when all slots are live. -/
theorem length_eager_eq_iff (coherent : store.Coherent) (now : Millis) :
    (store.eager now).held.length = store.slots.size ↔
      ∀ key, (store.slots.find? key).isSome → (store.find? key now).isSome := by
  rw [coherent.size_eq, eager, List.filterMap_length_eq_length]
  simp only [coherent.mem_keys, entryOf?, Option.isSome_map]

/-- Dropping a key drops it from the eager store. -/
theorem eager_remove (coherent : store.Coherent) (key : String) (now : Millis) :
    (store.remove key).eager now = (store.eager now).remove key := by
  have keys : (store.remove key).recency.keys = store.recency.keys.filter (· ≠ key) :=
    coherent.recency.keys_remove key
  simp only [eager, EagerStore.remove, keys]
  rw [filterMap_without _ _ fun other differs => (find?_remove ..).trans (if_neg differs)]
  rfl

/-- Dropping keys that are not live changes nothing in the eager store. -/
theorem eager_foldl_remove (coherent : store.Coherent) (dropped : List (String × Slot))
    (gone : ∀ entry ∈ dropped, store.find? entry.1 now = none) :
    (dropped.foldl (fun kept entry => kept.remove entry.1) store).eager now = store.eager now := by
  induction dropped generalizing store with
  | nil => rfl
  | cons entry rest ih =>
    have first : (store.remove entry.1).eager now = store.eager now := by
      rw [coherent.eager_remove]
      refine EagerStore.remove_of_absent ?_
      rw [coherent.find?_eager]
      exact gone entry List.mem_cons_self
    refine (ih (coherent.remove entry.1) fun other held => ?_).trans first
    rw [find?_remove, gone other (List.mem_cons_of_mem _ held), ite_self]

/-- Dropping what has expired changes nothing in the eager store. -/
theorem eager_dropExpired (coherent : store.Coherent) (now : Millis) :
    (store.dropExpired now).eager now = store.eager now := by
  refine coherent.eager_foldl_remove _ fun entry held => ?_
  obtain ⟨inside, expired⟩ := List.mem_filter.1 held
  rw [find?, Table.find?_of_mem inside]
  simp [Option.filter, expired]

/-- When the oldest key gives way and is live, the eager store loses its oldest key. -/
theorem eager_giveWay (coherent : store.Coherent) {oldest : String} {rest : List String}
    {left : Recency} (shape : store.recency.keys = oldest :: rest) (keys : left.keys = rest)
    (live : (store.find? oldest now).isSome) :
    (giveWay store oldest left).eager now =
      { store.eager now with
        held := (store.eager now).held.tail
        evictions := (store.eager now).evictions + 1 } := by
  have once : oldest ∉ rest := by
    have distinct := coherent.recency.nodup_keys
    rw [shape] at distinct
    exact (List.nodup_cons.1 distinct).1
  have outside : rest.filter (· ≠ oldest) = rest := filter_ne_of_notMem once
  have spared : ∀ other, other ≠ oldest →
      (giveWay store oldest left).find? other now = store.find? other now := fun other differs => by
    simp only [find?, giveWay, Table.find?_erase, differs, ↓reduceIte]
  have others : rest.filterMap (entryOf? fun key => (giveWay store oldest left).find? key now) =
      rest.filterMap (entryOf? fun key => store.find? key now) := by
    have without := filterMap_without rest oldest spared
    rw [← filterMap_without rest oldest fun _ _ => rfl, outside] at without
    exact without
  obtain ⟨slot, found⟩ := Option.isSome_iff_exists.1 live
  have whole : store.recency.keys.filterMap (entryOf? fun key => store.find? key now) =
      (oldest, slot) :: rest.filterMap (entryOf? fun key => store.find? key now) := by
    rw [shape, List.filterMap_cons]
    simp only [entryOf?, found, Option.map_some]
  have order : (giveWay store oldest left).recency.keys = rest := keys
  rw [eager, order, others]
  simp only [eager, whole, List.tail_cons, giveWay]

/-- Making room makes room in the eager store. -/
theorem eager_vacate (coherent : store.Coherent) (now : Millis) :
    (store.vacate now).eager now = (store.eager now).vacate := by
  have capacity : ∀ other : MemoryStore, (other.eager now).capacity = other.capacity :=
    fun _ => rfl
  rw [MemoryStore.vacate, EagerStore.vacate]
  by_cases room : store.slots.size < store.capacity
  · have fewer := Nat.lt_of_le_of_lt (coherent.length_eager_le now) room
    rw [if_pos room, capacity, if_pos fewer]
  · rw [if_neg room]
    dsimp only
    have swept := coherent.dropExpired now
    have live := fun key => @find?_of_slots_dropExpired store now key
    have length := (swept.length_eager_eq_iff now).2 live
    rw [← coherent.eager_dropExpired now, length, capacity]
    by_cases full : (store.dropExpired now).slots.size < (store.dropExpired now).capacity
    · rw [evict_of_room full, if_pos full]
    · obtain ⟨oldest, rest, left, shape, keys, evicted, -, -⟩ := evict_of_full swept full
      have held : oldest ∈ (store.dropExpired now).recency.keys := by
        rw [shape]
        exact List.mem_cons_self
      rw [evicted, if_neg full]
      exact swept.eager_giveWay shape keys (live oldest ((swept.mem_keys oldest).1 held))

/-- A slot that is put under a key which becomes the one used last replaces what the key held in the
eager store. -/
theorem eager_put (coherent : store.Coherent) (key : String) (slot : Slot) (now : Millis) :
    eager { store with
        slots := store.slots.put key slot
        recency := store.recency.touch key } now =
      { (store.eager now).remove key with
        held := ((store.eager now).remove key).held ++
          if slot.isExpired now then [] else [(key, slot)] } := by
  have found : ∀ other, find? { store with
      slots := store.slots.put key slot
      recency := store.recency.touch key } other now =
        if other = key then live slot now else store.find? other now := by
    intro other
    simp only [find?, Table.find?_put]
    split <;> rfl
  have others := filterMap_without store.recency.keys key
    fun other differs => (found other).trans (if_neg differs)
  have last : [key].filterMap (entryOf? fun other => find? { store with
      slots := store.slots.put key slot
      recency := store.recency.touch key } other now) =
        if slot.isExpired now then [] else [(key, slot)] := by
    simp only [List.filterMap_cons, entryOf?, found, live]
    cases expired : slot.isExpired now <;> simp [Option.filter, expired]
  simp only [eager, EagerStore.remove, coherent.recency.keys_touch, List.filterMap_append]
  rw [others, last]

/-- An insertion puts the slot into the eager store. -/
theorem eager_insert (coherent : store.Coherent) (key : String) (slot : Slot) (now : Millis) :
    (store.insert key slot now).eager now = (store.eager now).put key slot now := by
  rw [MemoryStore.insert, EagerStore.put, coherent.find?_eager]
  cases held : store.slots.find? key with
  | none =>
    have absent : store.find? key now = none := by
      rw [find?, held]
      rfl
    have contained : store.slots.contains key = false := by
      rw [Table.contains, held]
      rfl
    have missing := EagerStore.find?_vacate ((coherent.find?_eager key now).trans absent)
    rw [contained, absent, if_neg Bool.false_ne_true]
    rw [(coherent.vacate now).1.eager_put, coherent.eager_vacate,
      EagerStore.remove_of_absent missing]
    rfl
  | some other =>
    have contained : store.slots.contains key = true := by
      rw [Table.contains, held]
      rfl
    rw [contained, if_pos rfl, coherent.eager_put]
    by_cases live : (store.find? key now).isSome
    · rw [if_pos live]
    · -- The slot of the key has expired: it makes way for the new one, and no live key has to.
      have absent : (store.eager now).find? key = none := by
        rw [coherent.find?_eager]
        exact Option.not_isSome_iff_eq_none.1 live
      have fewer : (store.eager now).held.length < (store.eager now).capacity := by
        refine Nat.lt_of_lt_of_le (Nat.lt_of_le_of_ne (coherent.length_eager_le now) fun same => ?_)
          coherent.fits
        exact live ((coherent.length_eager_eq_iff now).1 same key (by rw [held]; rfl))
      rw [if_neg live, EagerStore.remove_of_absent absent, EagerStore.vacate, if_pos fewer]

/-- A touch of a key makes it the last in the eager store, if it is live. -/
theorem eager_touch (coherent : store.Coherent) (key : String) (now : Millis) :
    eager { store with recency := store.recency.touch key } now =
      { store.eager now with
        held := ((store.eager now).remove key).held ++
          [key].filterMap (entryOf? fun other => store.find? other now) } := by
  have others := filterMap_without store.recency.keys key
    fun other _ => Eq.refl (store.find? other now)
  simp only [eager, EagerStore.remove, coherent.recency.keys_touch, List.filterMap_append]
  exact congrArg (EagerStore.mk · _ _) (congrArg (· ++ _) others)

/-- A use of a key uses it in the eager store. -/
theorem eager_use (coherent : store.Coherent) (key : String) (now : Millis) :
    (store.eager now).use key = ((store.use key now).1, (store.use key now).2.eager now) := by
  rw [EagerStore.use, coherent.find?_eager, MemoryStore.use]
  cases held : store.slots.find? key with
  | none =>
    rw [find?, held]
    rfl
  | some slot =>
    cases expired : slot.isExpired now with
    | true =>
      have absent : store.find? key now = none := by
        rw [find?, held]
        simp [Option.filter, expired]
      have missing := (coherent.find?_eager key now).trans absent
      simp only [absent, expired, ↓reduceIte]
      rw [coherent.eager_remove, EagerStore.remove_of_absent missing]
    | false =>
      have found : store.find? key now = some slot := by
        rw [find?, held]
        simp [Option.filter, expired]
      simp only [found, expired, Bool.false_eq_true, ↓reduceIte]
      rw [coherent.eager_touch]
      simp only [List.filterMap_cons, List.filterMap_nil, entryOf?, found, Option.map_some]

end Coherent

end MemoryStore

end FailOpenCache
