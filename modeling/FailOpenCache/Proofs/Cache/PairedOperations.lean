import FailOpenCache.Proofs.Cache.Batches
import FailOpenCache.Proofs.Cache.Paired

/-!
# The operations of a cache run in pairs

Each operation of a cache is paired with itself: a connection to the store in memory and its
counterpart, whose store declares nothing, answer alike and stay counterparts. The keys of values
are not those of tag records, because the store in memory keeps both in one namespace. Only the
counts of deleted keys may differ, since the fallback store counts what has expired as well.
-/

namespace FailOpenCache

/-- The keys that match a pattern are the same in twins. -/
theorem Twins.mem_matching {memory : MemoryStore} {fallback : FallbackStore} {now : Millis}
    (twins : Twins memory fallback now) (compiled : Pattern) (key : String) :
    key ∈ memory.matching now compiled memory.recency.order ↔
      key ∈ fallback.keysLike compiled now := by
  rw [MemoryStore.mem_matching, FallbackStore.mem_keysLike, twins.isSome_find?]
  refine ⟨And.right, fun held => ⟨(twins.coherent.mem_keys key).2 ?_, held⟩⟩
  have found := held.1
  rw [← twins.isSome_find?] at found
  exact Option.isSome_of_isSome_filter _ _ found

/-- Twins without the keys that match a pattern are twins, and as many keys match in one as in the
other. -/
theorem Twins.deleteMatching {memory left : MemoryStore} {fallback : FallbackStore} {now : Millis}
    {compiled : Pattern} (twins : Twins memory fallback now) (coherent : left.Coherent)
    (found : ∀ key, left.find? key now =
      if key ∈ memory.matching now compiled memory.recency.order then none
      else memory.find? key now) :
    (memory.matching now compiled memory.recency.order).length =
        (fallback.delete (fallback.keysLike compiled now)).1 ∧
      Twins left (fallback.delete (fallback.keysLike compiled now)).2 now := by
  constructor
  · have distinct := FallbackStore.nodup_keysLike compiled twins.apart
    rw [FallbackStore.delete_live distinct fun key held =>
      (FallbackStore.mem_keysLike.1 held).1]
    refine List.Perm.length_eq ((List.perm_ext_iff_of_nodup ?_ distinct).2
      (twins.mem_matching compiled))
    exact List.filter_sublist.nodup twins.coherent.recency.nodup_keys
  · refine (twins.delete (fallback.keysLike compiled now)).same coherent (fun key => ?_)
      fun _ => ⟨rfl, rfl⟩
    rw [found, MemoryStore.find?_delete]
    simp only [twins.mem_matching]

namespace Connection

variable [Libraries] {τ : Type} [BackingStore τ] {α ε : Type} [Storable α]

/-! ## Values -/

/-- Counterparts answer an invalidation by a pattern alike and stay counterparts, unless a page of
the store in memory panics. -/
theorem Counterparts.invalidate {left : Connection MemoryStore} {right : Connection τ}
    (counterparts : Counterparts left right) {pattern : String}
    (returns : (Connection.invalidate pattern left).1 ≠ .panicked) :
    (Connection.invalidate pattern left).1 = (Connection.invalidate pattern right).1 ∧
      Counterparts (Connection.invalidate pattern left).2
        (Connection.invalidate pattern right).2 := by
  have unwalked : Capabilities.none.deletesByWalk = false := rfl
  have bare : Connection.invalidate pattern right =
      (.returned (inProcess (deleteMatching pattern) right).1,
        (inProcess (deleteMatching pattern) right).2) := by
    simp only [Connection.invalidate, walkStore, bind_apply, get_apply, counterparts.undeclared,
      unwalked, Bool.false_eq_true, ↓reduceIte, pure_apply, Nat.zero_add]
  rw [bare, inProcess_apply, ← counterparts.now]
  cases compiles : Pattern.compile? pattern with
  | none =>
    rw [invalidate_uncompiled compiles, deleteMatching, compiles]
    exact ⟨rfl, counterparts.configuration, counterparts.rules, counterparts.guards, rfl,
      counterparts.twins, counterparts.bare, counterparts.undeclared⟩
  | some compiled =>
    have few : left.cache.configuration.scanBatch ≤ Recency.mostKeys := by
      by_contra many
      exact returns (congrArg Prod.fst (invalidate_panicked compiles (Nat.not_le.1 many)))
    obtain ⟨store, invalidated, coherent, -, found⟩ :=
      invalidate_compiled compiles counterparts.twins.coherent few counterparts.bare
    have served : deleteMatching pattern left.now right.cache.fallback =
        right.cache.fallback.delete (right.cache.fallback.keysLike compiled left.now) := by
      rw [deleteMatching, compiles]
    rw [invalidated, served]
    obtain ⟨length, twins⟩ := counterparts.twins.deleteMatching coherent found
    exact ⟨congrArg _ length, counterparts.configuration, counterparts.rules, counterparts.guards,
      rfl, twins, counterparts.bare, counterparts.undeclared⟩

/-! ## Computations -/

end Connection

end FailOpenCache
