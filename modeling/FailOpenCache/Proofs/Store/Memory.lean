import FailOpenCache.Proofs.Table
import FailOpenCache.Store.Memory

/-!
# What the store in memory holds

The view of the store is what each key holds at an instant, `MemoryStore.find?`. Every operation is
described by what it does to the view at the instant of the operation, and by the number of
evictions: as long as no key has given way to another, an operation changes the view only under the
keys that it is given. What a key holds later is what it holds now, until its deadline passes.
-/

namespace FailOpenCache

namespace MemoryStore

variable {store : MemoryStore} {key : String} {now : Millis}

/-- What a key holds later is what it holds now, unless its deadline has passed by then. -/
theorem find?_later {later : Millis} (ordered : now ≤ later) (store : MemoryStore)
    (key : String) :
    store.find? key later = (store.find? key now).filter fun slot => !slot.isExpired later := by
  unfold find?
  cases store.slots.find? key with
  | none => rfl
  | some slot =>
    by_cases passed : slot.isExpired now = true
    · have stays : slot.isExpired later = true := hasPassed_mono ordered passed
      simp [Option.filter, passed, stays]
    · simp [Option.filter, passed]

/-- What a key is found to hold has not expired. -/
theorem isExpired_of_find? {slot : Slot} (found : store.find? key now = some slot) :
    slot.isExpired now = false := by
  have live := (Option.filter_eq_some_iff.1 found).2
  simpa using live

/-- Dropping a key leaves nothing under it and touches no other. -/
theorem find?_remove (store : MemoryStore) (key other : String) (now : Millis) :
    (store.remove key).find? other now = if other = key then none else store.find? other now := by
  unfold find? remove
  rw [Table.find?_erase]
  split <;> rfl

/-- A use changes nothing of what is held. -/
@[simp] theorem find?_use (store : MemoryStore) (key other : String) (now : Millis) :
    (store.use key now).2.find? other now = store.find? other now := by
  unfold use
  cases shape : store.slots.find? key with
  | none => rfl
  | some slot =>
    dsimp only
    split
    · rename_i expired
      rw [find?_remove]
      split
      · rename_i same
        rw [same, find?, shape, Option.filter, expired]
        rfl
      · rfl
    · rfl

/-- A use evicts nothing. -/
@[simp] theorem evictions_use (store : MemoryStore) (key : String) (now : Millis) :
    (store.use key now).2.evictions = store.evictions := by
  unfold use
  split
  · rfl
  · split <;> rfl

/-- Dropping keys leaves nothing under them and touches no other. -/
theorem find?_foldl_remove (keys : List (String × Slot)) (store : MemoryStore) (other : String)
    (now : Millis) :
    (keys.foldl (fun kept entry => kept.remove entry.1) store).find? other now =
      if other ∈ keys.map Prod.fst then none else store.find? other now := by
  induction keys generalizing store with
  | nil => simp
  | cons entry rest ih =>
    rw [List.foldl_cons, ih, find?_remove]
    by_cases here : other = entry.1
    · simp [here]
    · simp only [here, List.map_cons, List.mem_cons, false_or, ↓reduceIte]

/-- Dropping keys evicts nothing. -/
theorem evictions_foldl_remove (keys : List (String × Slot)) (store : MemoryStore) :
    (keys.foldl (fun kept entry => kept.remove entry.1) store).evictions = store.evictions := by
  induction keys generalizing store with
  | nil => rfl
  | cons entry rest ih =>
    rw [List.foldl_cons, ih]
    rfl

/-- Dropping what has expired changes nothing of what is held. -/
theorem find?_dropExpired (store : MemoryStore) (other : String) (now : Millis) :
    (store.dropExpired now).find? other now = store.find? other now := by
  rw [dropExpired, find?_foldl_remove]
  split
  · rename_i dropped
    obtain ⟨⟨name, slot⟩, inside, same⟩ := List.mem_map.1 dropped
    obtain rfl : name = other := same
    obtain ⟨held, expired⟩ := List.mem_filter.1 inside
    rw [find?, Table.find?_of_mem held, Option.filter]
    simp [expired]
  · rfl

/-- Evictions are counted. -/
theorem evictions_le_evict (store : MemoryStore) (atMost : Nat) :
    store.evictions ≤ (store.evict atMost).evictions := by
  induction atMost generalizing store with
  | zero => exact Nat.le_refl _
  | succ atMost ih =>
    rw [evict]
    split
    · exact Nat.le_refl _
    · split
      · exact Nat.le_refl _
      · rename_i oldest recency taken
        exact Nat.le_trans (Nat.le_succ _) (ih { store with
          slots := store.slots.erase oldest
          recency := recency
          evictions := store.evictions + 1 })

/-- When no eviction is counted, the store is as it was. -/
theorem evict_eq_self {store : MemoryStore} {atMost : Nat}
    (kept : (store.evict atMost).evictions = store.evictions) : store.evict atMost = store := by
  cases atMost with
  | zero => rfl
  | succ atMost =>
    rw [evict] at kept ⊢
    split
    · rfl
    · rename_i full
      rw [if_neg full] at kept
      split
      · rfl
      · rename_i oldest recency taken
        rw [taken] at kept
        have counted := evictions_le_evict { store with
          slots := store.slots.erase oldest
          recency := recency
          evictions := store.evictions + 1 } atMost
        rw [kept] at counted
        exact absurd counted (Nat.not_succ_le_self _)

/-- Making room counts the evictions. -/
theorem evictions_le_vacate (store : MemoryStore) (now : Millis) :
    store.evictions ≤ (store.vacate now).evictions := by
  rw [vacate]
  split
  · exact Nat.le_refl _
  · have same : (store.dropExpired now).evictions = store.evictions :=
      evictions_foldl_remove _ _
    rw [← same]
    exact evictions_le_evict _ _

/-- Making room without an eviction changes nothing of what is held. -/
theorem find?_vacate {store : MemoryStore} {now : Millis}
    (kept : (store.vacate now).evictions = store.evictions) (other : String) :
    (store.vacate now).find? other now = store.find? other now := by
  rw [vacate] at kept ⊢
  split
  · rfl
  · rename_i full
    rw [if_neg full] at kept
    have same : (store.dropExpired now).evictions = store.evictions :=
      evictions_foldl_remove _ _
    dsimp only at kept ⊢
    rw [← same] at kept
    rw [evict_eq_self kept, find?_dropExpired]

/-- An insertion counts the evictions. -/
theorem evictions_le_insert (store : MemoryStore) (key : String) (slot : Slot) (now : Millis) :
    store.evictions ≤ (store.insert key slot now).evictions := by
  rw [insert]
  dsimp only
  split
  · exact Nat.le_refl _
  · exact evictions_le_vacate store now

/-- What a slot that is put now counts for at the same instant. -/
def live (slot : Slot) (now : Millis) : Option Slot :=
  (some slot).filter fun slot => !slot.isExpired now

/-- An insertion without an eviction puts the slot under its key and touches no other. -/
theorem find?_insert {store : MemoryStore} {key : String} {slot : Slot} {now : Millis}
    (kept : (store.insert key slot now).evictions = store.evictions) (other : String) :
    (store.insert key slot now).find? other now =
      if other = key then live slot now else store.find? other now := by
  have ready : ∀ ready : MemoryStore, ready.find? other now = store.find? other now →
      ({ ready with
          slots := ready.slots.put key slot
          recency := ready.recency.touch key } : MemoryStore).find? other now =
        if other = key then live slot now else store.find? other now := by
    intro ready same
    rw [← same]
    unfold find? live
    rw [Table.find?_put]
    split <;> rfl
  rw [insert] at kept ⊢
  dsimp only at kept ⊢
  split
  · exact ready store rfl
  · rename_i fresh
    rw [if_neg fresh] at kept
    exact ready _ (find?_vacate kept other)

/-- A read answers the payload of a live value, nothing, or that the key holds a set. -/
theorem get_fst (store : MemoryStore) (key : String) (now : Millis) :
    (store.get key now).1 = match store.find? key now with
      | some (.value entry) => .ok (some entry.payload)
      | some (.set _ _) => .error (.backend .wrongKind)
      | none => .ok none := by
  rw [← use_fst, get]
  rcases store.use key now with ⟨_ | slot, used⟩
  · rfl
  · cases slot <;> rfl

/-- A read leaves the store as a use does. -/
theorem get_snd (store : MemoryStore) (key : String) (now : Millis) :
    (store.get key now).2 = (store.use key now).2 := by
  rw [get]
  rcases store.use key now with ⟨_ | slot, used⟩
  · rfl
  · cases slot <;> rfl

/-- A deletion leaves nothing under its keys and touches no other. -/
theorem find?_delete (keys : List String) (store : MemoryStore) (other : String) (now : Millis) :
    (store.delete keys now).2.find? other now =
      if other ∈ keys then none else store.find? other now := by
  induction keys generalizing store with
  | nil => simp [delete]
  | cons key rest ih =>
    have answered := use_fst store key now
    have same := find?_use store key other now
    rw [delete]
    rcases used : store.use key now with ⟨_ | slot, left⟩
    · rw [used] at answered same
      dsimp only at answered same ⊢
      rw [ih, same]
      by_cases here : other = key
      · simp [here, ← answered]
      · simp [here]
    · rw [used] at same
      dsimp only at same ⊢
      rw [ih, find?_remove, same]
      by_cases here : other = key
      · simp [here]
      · simp [here]

/-- A deletion evicts nothing. -/
theorem evictions_delete (keys : List String) (store : MemoryStore) (now : Millis) :
    (store.delete keys now).2.evictions = store.evictions := by
  induction keys generalizing store with
  | nil => rfl
  | cons key rest ih =>
    have same := evictions_use store key now
    rw [delete]
    rcases used : store.use key now with ⟨_ | slot, left⟩
    · rw [used] at same
      exact (ih left).trans same
    · rw [used] at same
      exact (ih (left.remove key)).trans same

/-- Reads of several keys change nothing of what is held. -/
theorem find?_getMany (keys : List String) (store : MemoryStore) (other : String) (now : Millis) :
    (store.getMany keys now).2.find? other now = store.find? other now := by
  induction keys generalizing store with
  | nil => rfl
  | cons key rest ih =>
    have same := find?_use store key other now
    rw [← get_snd] at same
    rw [getMany]
    rcases used : store.get key now with ⟨error | found, left⟩
    · rw [used] at same
      exact same
    · rw [used] at same
      exact (ih left).trans same

/-- Writes of several keys count the evictions. -/
theorem evictions_le_setMany (items : List (String × String)) (store : MemoryStore)
    (lifetime : Seconds) (now : Millis) :
    store.evictions ≤ (store.setMany items lifetime now).evictions := by
  induction items generalizing store with
  | nil => exact Nat.le_refl _
  | cons item rest ih => exact Nat.le_trans (evictions_le_insert ..) (ih _)

/-- The sum and the entry that an addition to what a key holds comes to; there is none for a set,
for a payload that is no counter, and beyond the range of counters. -/
def addition? (held : Option Slot) (amount : Int) : Option (Int × Entry) :=
  match held with
  | none => (addToCounter? 0 amount).map fun sum => (sum, ⟨Text.integerText sum, none⟩)
  | some (.set _ _) => none
  | some (.value entry) =>
    (readCounter? entry.payload).bind fun current =>
      (addToCounter? current amount).map fun sum =>
        (sum, ⟨Text.integerText sum, entry.deadline⟩)

/-- An addition that comes to nothing is refused and changes nothing of what is held. -/
theorem increment_refused {amount : Int}
    (refused : addition? (store.find? key now) amount = none) :
    (∃ error, (store.increment key amount now).1 = .error error) ∧
      (store.increment key amount now).2 = (store.use key now).2 := by
  have answered := use_fst store key now
  rw [increment]
  rcases used : store.use key now with ⟨_ | slot, left⟩
  · rw [used] at answered
    rw [← answered] at refused
    have overflows : addToCounter? 0 amount = none := Option.map_eq_none_iff.1 refused
    rw [overflows]
    exact ⟨⟨_, rfl⟩, rfl⟩
  · rw [used] at answered
    rw [← answered] at refused
    cases slot with
    | set members deadline => exact ⟨⟨_, rfl⟩, rfl⟩
    | value entry =>
      dsimp only [addition?] at refused ⊢
      cases current : readCounter? entry.payload with
      | none => exact ⟨⟨_, rfl⟩, rfl⟩
      | some count =>
        rw [current] at refused
        have overflows : addToCounter? count amount = none := Option.map_eq_none_iff.1 refused
        dsimp only
        rw [overflows]
        exact ⟨⟨_, rfl⟩, rfl⟩

/-- An addition that comes to a sum answers it and writes its entry. -/
theorem increment_counted {amount sum : Int} {entry : Entry}
    (counted : addition? (store.find? key now) amount = some (sum, entry)) :
    store.increment key amount now =
      (.ok sum, (store.use key now).2.insert key (.value entry) now) := by
  have answered := use_fst store key now
  rw [increment]
  rcases used : store.use key now with ⟨_ | slot, left⟩
  · rw [used] at answered
    rw [← answered] at counted
    obtain ⟨total, added, same⟩ := Option.map_eq_some_iff.1 counted
    obtain ⟨rfl, rfl⟩ := Prod.mk.inj same
    simp only [added]
  · rw [used] at answered
    rw [← answered] at counted
    cases slot with
    | set members deadline => exact absurd counted (by simp [addition?])
    | value held =>
      obtain ⟨count, current, rest⟩ := Option.bind_eq_some_iff.1 counted
      obtain ⟨total, added, same⟩ := Option.map_eq_some_iff.1 rest
      obtain ⟨rfl, rfl⟩ := Prod.mk.inj same
      simp only [current, added]

end MemoryStore

end FailOpenCache
