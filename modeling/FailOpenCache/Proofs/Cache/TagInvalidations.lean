import FailOpenCache.Libraries.Plain
import FailOpenCache.Proofs.Cache.Invalidations
import FailOpenCache.Proofs.Cache.TagRetry
import FailOpenCache.Proofs.Store.Slots

/-!
# What the invalidation of a tag does

An invalidation by a tag deletes the keys that the live record of the tag lists, and then the
record. It counts the keys that were live, whatever they held, and leaves everything else as it is.
That a live record is never left behind rests on the fact that no record is ever empty: an empty one
would be read as none.
-/

namespace FailOpenCache

namespace MemoryStore

variable {store : MemoryStore} {now : Millis}

/-- A deletion counts the live keys, each once. -/
theorem delete_fst (keys : List String) (store : MemoryStore) (now : Millis) :
    (store.delete keys now).1 =
      (keys.toFinset.filter fun key => (store.find? key now).isSome).card := by
  induction keys generalizing store with
  | nil => rfl
  | cons key rest ih =>
    have answered := store.use_fst key now
    have same := fun other => store.find?_use key other now
    rw [delete, List.toFinset_cons, Finset.filter_insert]
    generalize store.use key now = outcome at answered same ⊢
    rcases outcome with ⟨_ | slot, used⟩
    · dsimp only at answered same ⊢
      have dead : ¬ (store.find? key now).isSome := by simp [← answered]
      simp only [ih, same]
      rw [if_neg dead]
    · dsimp only at answered same ⊢
      have live : (store.find? key now).isSome := by rw [← answered]; rfl
      have without :
          (rest.toFinset.filter fun other => ((used.remove key).find? other now).isSome) =
          (rest.toFinset.filter fun other => (store.find? other now).isSome).erase key := by
        ext other
        simp only [find?_remove, same, Finset.mem_filter, Finset.mem_erase]
        by_cases here : other = key
        · simp [here]
        · simp [here]
      rw [ih, without, if_pos live, ← Finset.erase_insert_eq_erase,
        Finset.card_erase_add_one (Finset.mem_insert_self key _)]

/-- The keys that the record of a tag lists are its members. -/
theorem mem_listed (store : MemoryStore) (tag : String) (now : Millis) (key : String) :
    key ∈ store.listed tag now ↔
      ∃ record ∈ store.record? (Key.ofTag tag) now, key ∈ record.members.names := by
  rw [listed]
  cases store.record? (Key.ofTag tag) now with
  | none => simp
  | some record => simp

/-- In a store without empty sets a record that lists nothing is not live. -/
theorem EachSlot.listed_eq_nil_iff (each : EachSlot Lists store) (tag : String) :
    store.listed tag now = [] ↔ store.record? (Key.ofTag tag) now = none := by
  rw [listed, record?]
  rcases found : store.find? (Key.ofTag tag) now with _ | (entry | ⟨members, deadline⟩)
  · exact ⟨fun _ => rfl, fun _ => rfl⟩
  · exact ⟨fun _ => rfl, fun _ => rfl⟩
  · have lists : members.names ≠ [] := each (Key.ofTag tag) _ (Option.filter_eq_some_iff.1 found).1
    refine ⟨fun unlisted => absurd unlisted lists, fun absent => ?_⟩
    cases absent

end MemoryStore

/-- Requests that lead on keep what every slot satisfies. -/
theorem Led.eachSlot [Libraries] {property : Slot → Prop} {store left : MemoryStore}
    (led : Led store left)
    (written : MemoryStore.HoldsOfWrites property) (each : MemoryStore.EachSlot property store) :
    MemoryStore.EachSlot property left := by
  induction led with
  | refl => exact each
  | ask request now _ ih => exact ih.answer written request now

namespace Connection

variable {connection : Connection MemoryStore}

/-- Reading the record of a tag finds the keys that it lists, and changes nothing of what is
held. -/
theorem membersOf_onMemory [Libraries] (tag : String) (connection : Connection MemoryStore) :
    (membersOf (Key.ofTag tag) connection).1.getD [] =
        connection.store.listed tag connection.now ∧
      (∀ key, (membersOf (Key.ofTag tag) connection).2.store.find? key connection.now =
        connection.store.find? key connection.now) ∧
      (membersOf (Key.ofTag tag) connection).2.cache.fallback = connection.cache.fallback ∧
      (membersOf (Key.ofTag tag) connection).2.now = connection.now := by
  have asked : membersOf (Key.ofTag tag) connection =
      ask (.members (Key.ofTag tag)) connection := rfl
  obtain ⟨counters, shape⟩ := ask_apply (.members (Key.ofTag tag)) connection
  have answered : BackingStore.answer (.members (Key.ofTag tag)) connection.now connection.store =
      connection.store.members (Key.ofTag tag) connection.now := rfl
  rw [asked, shape, answered]
  refine ⟨?_, fun key => ?_, rfl, rfl⟩
  · rw [MemoryStore.members_fst, MemoryStore.listed, MemoryStore.accepts, MemoryStore.value?,
      MemoryStore.record?]
    rcases connection.store.find? (Key.ofTag tag) connection.now with _ | slot
    · rfl
    · cases slot <;> rfl
  · dsimp only
    rw [MemoryStore.members_snd, MemoryStore.find?_use]

/-- An invalidation by a tag deletes the keys that the record lists and the record, if it lists a
key. -/
theorem invalidateTag_onMemory [Libraries] (tag : String) (connection : Connection MemoryStore) :
    let listed := connection.store.listed tag connection.now
    let left := (invalidateTag tag connection).2
    (invalidateTag tag connection).1 =
        (listed.toFinset.filter fun key =>
          (connection.store.find? key connection.now).isSome).card ∧
      (∀ key, left.store.find? key connection.now =
        if key ∈ listed ∨ key = Key.ofTag tag ∧ listed ≠ [] then none
        else connection.store.find? key connection.now) ∧
      left.cache.fallback = connection.cache.fallback := by
  obtain ⟨members, held, fallback, now⟩ := membersOf_onMemory tag connection
  intro listed left
  have same : left = (invalidateTag tag connection).2 := rfl
  rw [same, invalidateTag_steps, members]
  generalize (membersOf (Key.ofTag tag) connection).2 = read at held fallback now ⊢
  cases shape : connection.store.listed tag connection.now with
  | nil =>
    have nothing : listed = [] := shape
    rw [nothing, if_pos rfl]
    refine ⟨rfl, fun key => ?_, fallback⟩
    rw [if_neg (by simp)]
    exact held key
  | cons member rest =>
    have some : listed = member :: rest := shape
    have deleted : deleteAll (member :: rest) read =
        ((read.store.delete (member :: rest) read.now).1,
          { read with store := (read.store.delete (member :: rest) read.now).2 }) := rfl
    have dropped : ∀ between : Connection MemoryStore,
        (dropRecord (Key.ofTag tag) between).2 =
          { between with store := (between.store.delete [Key.ofTag tag] between.now).2 } :=
      fun _ => rfl
    rw [some, if_neg (List.cons_ne_nil member rest), deleted]
    dsimp only
    rw [dropped]
    refine ⟨?_, fun key => ?_, fallback⟩
    · rw [now, MemoryStore.delete_fst]
      simp only [held]
    · dsimp only
      rw [now, MemoryStore.find?_delete, MemoryStore.find?_delete, held key]
      by_cases record : key = Key.ofTag tag
      · simp [record]
      · simp [record]

/-- The invalidation of a tag is exact in every state that the store can come to. The answer is how
many of the keys that the live record of the tag lists are live, which is none without a live
record. Behind it neither those keys nor the record hold anything, and every other key, be it that
of a value or of another record, holds what it held, with its deadline; and so does the fallback
store. -/
theorem invalidateTag_exact [Libraries] {capacity : Nat}
    (reached : Led (MemoryStore.ofCapacity capacity) connection.store) (tag : String) :
    let now := connection.now
    let record := connection.store.record? (Key.ofTag tag) now
    let members := {key | ∃ held ∈ record, key ∈ held.members.names}
    let left := (invalidateTag tag connection).2
    (invalidateTag tag connection).1 =
        {key | key ∈ members ∧ (connection.store.find? key now).isSome}.encard ∧
      (∀ key ∈ members, left.store.find? key now = none) ∧
      (record.isSome → left.store.find? (Key.ofTag tag) now = none) ∧
      (∀ key, key ∉ members → (key = Key.ofTag tag → record = none) →
        left.store.find? key now = connection.store.find? key now) ∧
      left.cache.fallback = connection.cache.fallback := by
  intro now record members left
  have each : MemoryStore.EachSlot MemoryStore.Lists connection.store :=
    reached.eachSlot MemoryStore.written_lists (.ofCapacity capacity)
  obtain ⟨count, found, fallback⟩ := invalidateTag_onMemory tag connection
  have some : connection.store.listed tag now ≠ [] ↔ record ≠ none :=
    not_congr (each.listed_eq_nil_iff tag)
  have listed : ∀ key, key ∈ connection.store.listed tag now ↔ key ∈ members :=
    connection.store.mem_listed tag now
  refine ⟨?_, fun key held => ?_, fun live => ?_, fun key outside kept => ?_, fallback⟩
  · have same : {key | key ∈ members ∧ (connection.store.find? key now).isSome} =
        (((connection.store.listed tag now).toFinset.filter fun key =>
          (connection.store.find? key now).isSome : Finset String) : Set String) := by
      ext key
      simp [listed]
    rw [count, same, Set.encard_coe_eq_coe_finsetCard]
  · exact (found key).trans (if_pos (.inl ((listed key).2 held)))
  · exact (found _).trans (if_pos (.inr ⟨rfl, some.2 (Option.isSome_iff_ne_none.1 live)⟩))
  · refine (found key).trans (if_neg ?_)
    rintro (held | ⟨here, live⟩)
    · exact outside ((listed key).1 held)
    · exact some.1 live (kept here)

open scoped Libraries.Plain

/-- A cache with two tags over a store in memory: of the keys under the first tag one has expired,
one has been deleted, one is under the other tag as well, and one is the record of that tag
itself. -/
def overlapping : Connection MemoryStore where
  cache := .ofConfiguration .standard
  store := (MemoryStore.ofCapacity 9).after
    [(0, .set "a" "0|1" 1), (0, .set "b" "0|2" 0), (0, .set "c" "0|3" 0), (0, .set "d" "0|4" 7),
      (0, .addMember ["tag:t", "tag:u"] "a" 0), (0, .addMember ["tag:t"] "b" 0),
      (0, .addMember ["tag:t", "tag:v"] "c" 9), (0, .addMember ["tag:t"] "tag:u" 0),
      (0, .delete ["b"])]
  now := 1000

/-- Of the four keys under the tag two are live; they are gone, and so is the record, and the key of
no tag and the record of the third tag are as they were. -/
theorem invalidateTag_exact_overlapping :
    Led (MemoryStore.ofCapacity 9) overlapping.store ∧
      overlapping.store.listed "t" 1000 = ["a", "b", "c", "tag:u"] ∧
      (invalidateTag "t" overlapping).1 = 2 ∧
      let left := (invalidateTag "t" overlapping).2.store
      left.find? "tag:u" 1000 = none ∧ left.find? "tag:t" 1000 = none ∧
        left.find? "d" 1000 = some (.value ⟨"0|4", some 7000⟩) ∧
        left.find? "tag:v" 1000 = some (.set (.singleton "c") (some 9000)) := by
  have reached : Led (MemoryStore.ofCapacity 9) overlapping.store := MemoryStore.led_after _ _
  have record : overlapping.store.record? (Key.ofTag "t") 1000 =
      some ⟨⟨["a", "b", "c", "tag:u"], by decide⟩, some 9000⟩ := by decide +kernel
  obtain ⟨-, gone, dropped, kept, -⟩ := invalidateTag_exact reached "t"
  have untouched : ∀ key, key ∉ ["a", "b", "c", "tag:u"] → key ≠ "tag:t" →
      (invalidateTag "t" overlapping).2.store.find? key 1000 =
        overlapping.store.find? key 1000 := by
    intro key outside other
    refine kept key ?_ fun same => absurd same other
    rintro ⟨held, found, inside⟩
    obtain rfl := Option.some.inj (record.symm.trans found)
    exact outside inside
  refine ⟨reached, by decide +kernel, by decide +kernel, ?_, ?_, ?_, ?_⟩
  · exact gone "tag:u" ⟨_, record, by decide⟩
  · exact dropped (by decide +kernel)
  · exact (untouched "d" (by decide) (by decide)).trans (by decide +kernel)
  · exact (untouched "tag:v" (by decide) (by decide)).trans (by decide +kernel)

end Connection

end FailOpenCache
