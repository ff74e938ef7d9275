import FailOpenCache.Libraries.Plain
import FailOpenCache.Proofs.Cache.Requests
import FailOpenCache.Proofs.Cache.Walks
import FailOpenCache.Proofs.Store.Singly
import FailOpenCache.Proofs.Store.Sweeps
import Mathlib.Data.Set.Card

/-!
# What the invalidation of a pattern does

Whatever the size of a page is, if only there can be room for one, the invalidation of a pattern
comes to an end, leaves nothing that is live and matches, neither in the store nor in the fallback
store, leaves everything else as it is, and answers how many names there were in the one and in the
other. If there cannot, it panics before it has deleted anything.
-/

namespace FailOpenCache

namespace MemoryStore

variable {store : MemoryStore} {now : Millis} {compiled : Pattern}

/-- The keys that are live and match a pattern. -/
def liveLike (store : MemoryStore) (compiled : Pattern) (now : Millis) : Set String :=
  {key | compiled.matchesKey key = true ∧ (store.find? key now).isSome}

/-- A live key that matches stands in the order of use. -/
theorem Coherent.mem_matching_order (coherent : store.Coherent) {key : String} :
    key ∈ store.matching now compiled store.recency.order ↔ key ∈ store.liveLike compiled now := by
  rw [mem_matching]
  constructor
  · rintro ⟨-, live, fits⟩
    exact ⟨fits, live⟩
  · rintro ⟨fits, live⟩
    have held := Option.isSome_of_isSome_filter _ _ live
    exact ⟨(coherent.mem_keys key).2 held, live, fits⟩

/-- The keys that are found on the way are as many as are live and match. -/
theorem Coherent.encard_liveLike (coherent : store.Coherent) :
    (store.liveLike compiled now).encard =
      (store.matching now compiled store.recency.order).length := by
  have distinct : (store.matching now compiled store.recency.order).Nodup :=
    List.filter_sublist.nodup coherent.recency.nodup_keys
  have same : store.liveLike compiled now =
      ((store.matching now compiled store.recency.order).toFinset : Set String) := by
    ext key
    rw [List.coe_toFinset, Set.mem_ofPred_eq, coherent.mem_matching_order]
  rw [same, Set.encard_coe_eq_coe_finsetCard, List.toFinset_card_of_nodup distinct]

/-- Without the keys that are live and match, nothing that matches is live, and nothing else has
changed. -/
theorem Coherent.find?_without_matching (coherent : store.Coherent) (key : String) :
    (if key ∈ store.matching now compiled store.recency.order then none else store.find? key now) =
      if compiled.matchesKey key then none else store.find? key now := by
  cases fits : compiled.matchesKey key with
  | false =>
    have outside : key ∉ store.matching now compiled store.recency.order := by
      intro inside
      rw [(coherent.mem_matching_order.1 inside).1] at fits
      exact Bool.false_ne_true fits.symm
    rw [if_neg outside]
    rfl
  | true =>
    by_cases inside : key ∈ store.matching now compiled store.recency.order
    · rw [if_pos inside]
      rfl
    · rw [if_neg inside, if_pos rfl, ← Option.not_isSome_iff_eq_none]
      exact fun live => inside (coherent.mem_matching_order.2 ⟨fits, live⟩)

end MemoryStore

namespace FallbackStore

variable {store : FallbackStore} {now : Millis} {compiled : Pattern}

/-- The names under which a value or a record is live, and that match a pattern. -/
def liveLike (store : FallbackStore) (compiled : Pattern) (now : Millis) : Set String :=
  {key | compiled.matchesKey key = true ∧
    ((store.value? key now).isSome ∨ (store.record? key now).isSome)}

/-- The names that are live and match are those listed. -/
theorem mem_keysLike_iff {key : String} :
    key ∈ store.keysLike compiled now ↔ key ∈ store.liveLike compiled now := by
  rw [mem_keysLike, Bool.or_eq_true, and_comm]
  rfl

/-- A name with a value and a record is listed twice, and counted once when it is deleted. -/
theorem encard_liveLike :
    (store.liveLike compiled now).encard = (store.delete (store.keysLike compiled now)).1 := by
  have held : ∀ key ∈ (store.keysLike compiled now).toFinset, store.holds key = true := by
    intro key inside
    obtain ⟨-, live⟩ := mem_keysLike_iff.1 (List.mem_toFinset.1 inside)
    rw [holds, Table.contains, Table.contains, Bool.or_eq_true]
    exact live.imp (Option.isSome_of_isSome_filter _ _) (Option.isSome_of_isSome_filter _ _)
  have same : store.liveLike compiled now =
      ((store.keysLike compiled now).toFinset : Set String) := by
    ext key
    rw [List.coe_toFinset, Set.mem_ofPred_eq, mem_keysLike_iff]
  rw [delete_fst, Finset.filter_true_of_mem held, same, Set.encard_coe_eq_coe_finsetCard]

/-- Without the names that are live and match, nothing that matches is live, and nothing else has
changed. -/
theorem find?_without_keysLike (store : FallbackStore) (compiled : Pattern) (key : String)
    (now : Millis) :
    (store.delete (store.keysLike compiled now)).2.value? key now =
        (if compiled.matchesKey key then none else store.value? key now) ∧
      (store.delete (store.keysLike compiled now)).2.record? key now =
        if compiled.matchesKey key then none else store.record? key now := by
  obtain ⟨value, record⟩ := store.find?_delete (store.keysLike compiled now) key now
  rw [value, record]
  cases fits : compiled.matchesKey key with
  | false =>
    have outside : key ∉ store.keysLike compiled now := by
      intro inside
      rw [(mem_keysLike_iff.1 inside).1] at fits
      exact Bool.false_ne_true fits.symm
    rw [if_neg outside, if_neg outside]
    exact ⟨rfl, rfl⟩
  | true =>
    by_cases inside : key ∈ store.keysLike compiled now
    · rw [if_pos inside, if_pos inside]
      exact ⟨rfl, rfl⟩
    · have dead : ¬ ((store.value? key now).isSome ∨ (store.record? key now).isSome) :=
        fun live => inside (mem_keysLike_iff.2 ⟨fits, live⟩)
      rw [not_or, Option.not_isSome_iff_eq_none, Option.not_isSome_iff_eq_none] at dead
      rw [if_neg inside, if_neg inside]
      exact dead

end FallbackStore

/-- Requests that lead on keep the order of use and the slots in step. -/
theorem Led.coherent [Libraries] {store left : MemoryStore} (led : Led store left)
    (coherent : store.Coherent) : left.Coherent := by
  induction led with
  | refl => exact coherent
  | ask request now _ ih => exact ih.answer request now

/-- Calls lead a store on. -/
theorem MemoryStore.led_after [Libraries] (store : MemoryStore) (calls : List (Millis × Request)) :
    Led store (store.after calls) := by
  induction calls generalizing store with
  | nil => exact .refl
  | cons call rest ih => exact (Led.refl.ask call.2 call.1).trans (ih _)

namespace Connection

/-- The invalidation of a pattern is exact whatever the fallback store holds, and whatever the size
of a page is, unless no room can be made for one. The loop over the pages comes to an end by itself.
Behind it nothing that matches is live in the store or in the fallback store, and what does not
match is as it was, with its value or its members and its deadline. The answer is the number of keys
that were live and matched in the store and the number of names in the fallback store. If no room
can be made for a page, the invalidation panics and leaves everything as it was. -/
theorem invalidate_exact [Libraries] {capacity : Nat} {connection : Connection MemoryStore}
    (reached : Led (MemoryStore.ofCapacity capacity) connection.store) {pattern : String}
    {compiled : Pattern} (compiles : Pattern.compile? pattern = some compiled) :
    let now := connection.now
    let fallback := connection.cache.fallback
    let batch := connection.cache.configuration.scanBatch
    let left := (invalidate pattern connection).2
    (batch ≤ Recency.mostKeys →
      (∃ pages ≤ connection.store.recency.order.length + 1,
        Walks pattern pages 0 0 connection (walkStore pattern connection)) ∧
      (∀ key, left.store.find? key now =
        if compiled.matchesKey key then none else connection.store.find? key now) ∧
      (∀ key, left.cache.fallback.value? key now =
        if compiled.matchesKey key then none else fallback.value? key now) ∧
      (∀ key, left.cache.fallback.record? key now =
        if compiled.matchesKey key then none else fallback.record? key now) ∧
      ∃ removed : Nat, (invalidate pattern connection).1 = .returned removed ∧
        removed = (connection.store.liveLike compiled now).encard +
          (fallback.liveLike compiled now).encard) ∧
    (Recency.mostKeys < batch → invalidate pattern connection = (.panicked, connection)) := by
  intro now fallback batch left
  refine ⟨fun few => ?_, invalidate_panicked compiles⟩
  have coherent := reached.coherent (.ofCapacity capacity)
  obtain ⟨pages, store, within, walks, -, -, found⟩ := walks_order compiles coherent few
  have walked := walks.walk_eq within
  have stored : walkStore pattern connection = _ := walked
  have deletes : deleteMatching pattern connection.now connection.cache.fallback =
      connection.cache.fallback.delete
        (connection.cache.fallback.keysLike compiled connection.now) := by
    rw [deleteMatching, compiles]
  have invalidated := invalidate_walked walked
  dsimp only at invalidated
  rw [deletes] at invalidated
  have same : left = _ := congrArg Prod.snd invalidated
  refine ⟨⟨pages, within, ?_⟩, ?_, ?_, ?_, _, congrArg Prod.fst invalidated, ?_⟩
  · rw [stored]
    exact walks
  · intro key
    rw [same]
    exact (found key).trans (coherent.find?_without_matching key)
  · intro key
    rw [same]
    exact (fallback.find?_without_keysLike compiled key now).1
  · intro key
    rw [same]
    exact (fallback.find?_without_keysLike compiled key now).2
  · rw [coherent.encard_liveLike, FallbackStore.encard_liveLike]
    exact Nat.cast_add ..

open scoped Libraries.Plain

/-- A cache that walks with pages of no size: its store holds a key that has expired, and its
fallback store a value and a record under one name. -/
def patchy : Connection MemoryStore where
  cache :=
    { Cache.ofConfiguration { Configuration.standard with scanBatch := 0 } with
      fallback := (FallbackStore.empty.set "a" "0|1" 0 0).addMember "a" "b" 0 0 }
  store := (MemoryStore.ofCapacity 4).after
    [(0, .set "a1" "0|1" 1), (0, .set "b" "0|2" 9), (0, .addMember ["a2", "a3"] "b" 0)]
  now := 1000

/-- Of what is held, just what matches is gone. -/
theorem invalidate_exact_patchy :
    Led (MemoryStore.ofCapacity 4) patchy.store ∧
      Pattern.compile? "a*" = some ⟨"a*", [.one (.exactly 'a'), .anyRun]⟩ ∧
      let left := (invalidate "a*" patchy).2
      left.store.find? "a3" 1000 = none ∧
        left.store.find? "b" 1000 = some (.value ⟨"0|2", some 9000⟩) ∧
        left.cache.fallback.value? "a" 1000 = none ∧
        left.cache.fallback.record? "a" 1000 = none := by
  have reached : Led (MemoryStore.ofCapacity 4) patchy.store := MemoryStore.led_after _ _
  have compiles : Pattern.compile? "a*" = some ⟨"a*", [.one (.exactly 'a'), .anyRun]⟩ := by decide
  obtain ⟨-, found, value, record, -⟩ := (invalidate_exact reached compiles).1 (by decide)
  exact ⟨reached, compiles, found "a3", found "b", value "a", record "a"⟩

example : (invalidate "a*" patchy).1 = .returned 3 := by decide

end Connection

end FailOpenCache
