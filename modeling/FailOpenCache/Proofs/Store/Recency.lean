import FailOpenCache.Proofs.Table
import FailOpenCache.Store.Recency

/-!
# The order of use as a list of keys

The two maps of an order of use are inverse to each other and every operation keeps them in step.
What they stand for is a list in which no key stands twice, the key whose last use is the oldest
first: a touch moves a key to the end, a removal takes it out, and what gives way first is the head.
-/

namespace FailOpenCache.Recency

/-- The keys, the one whose last use is the oldest first. -/
def keys (recency : Recency) : List String := recency.order.map Prod.snd

/-- The two maps are inverse to each other, the order is that of the stamps, and the next stamp is
greater than all of them. -/
structure Coherent (recency : Recency) : Prop where
  /-- A key has the stamp under which it stands in the order. -/
  inverse : ∀ key stamp, recency.stamps.find? key = some stamp ↔ (stamp, key) ∈ recency.order
  /-- The stamps increase along the order. -/
  ascending : recency.order.Pairwise fun first later => first.1 < later.1
  /-- The next stamp is fresh. -/
  fresh : ∀ entry ∈ recency.order, entry.1 < recency.next

/-- Entries of an ascending order that have one stamp are one entry. -/
theorem eq_of_stamp {order : List (Nat × String)}
    (ascending : order.Pairwise fun first later => first.1 < later.1) {first later : Nat × String}
    (held : first ∈ order) (held' : later ∈ order) (same : first.1 = later.1) : first = later := by
  induction order with
  | nil => exact absurd held List.not_mem_nil
  | cons entry rest ih =>
    obtain ⟨greater, behind⟩ := List.pairwise_cons.1 ascending
    rcases List.mem_cons.1 held with rfl | inside
    · rcases List.mem_cons.1 held' with rfl | inside'
      · rfl
      · exact absurd same (Nat.ne_of_lt (greater later inside'))
    · rcases List.mem_cons.1 held' with rfl | inside'
      · exact absurd same.symm (Nat.ne_of_lt (greater first inside))
      · exact ih behind inside inside'

namespace Coherent

variable {recency : Recency}

/-- No key stands twice in the order. -/
theorem nodup_keys (coherent : recency.Coherent) : recency.keys.Nodup := by
  rw [keys, List.nodup_iff_pairwise_ne, List.pairwise_map]
  refine coherent.ascending.imp_of_mem fun {first later} held held' less same => ?_
  have stamped := (coherent.inverse first.2 first.1).2 held
  have stamped' := (coherent.inverse later.2 later.1).2 held'
  rw [same, stamped'] at stamped
  exact Nat.ne_of_gt less (Option.some.inj stamped)

/-- The order without the stamp of a key is the order without the key. -/
theorem orderWithout_eq (coherent : recency.Coherent) (key : String) :
    recency.orderWithout key = recency.order.filter fun entry => entry.2 ≠ key := by
  rw [orderWithout]
  cases stamped : recency.stamps.find? key with
  | none =>
    refine (List.filter_eq_self.2 fun entry held => ?_).symm
    rw [decide_eq_true_eq]
    intro same
    have found := (coherent.inverse entry.2 entry.1).2 held
    rw [same, stamped] at found
    exact absurd found (by simp)
  | some stamp =>
    have inside := (coherent.inverse key stamp).1 stamped
    refine List.filter_congr fun entry held => decide_eq_decide.2 (not_congr ?_)
    constructor
    · intro same
      rw [eq_of_stamp coherent.ascending held inside same]
    · intro same
      have found := (coherent.inverse entry.2 entry.1).2 held
      rw [same, stamped] at found
      exact (Option.some.inj found).symm

/-- The empty order is coherent. -/
theorem empty : Recency.empty.Coherent where
  inverse key stamp := by simp [Recency.empty]
  ascending := List.Pairwise.nil
  fresh _ held := absurd held List.not_mem_nil

/-- A touch keeps the two maps in step. -/
theorem touch (coherent : recency.Coherent) (key : String) : (recency.touch key).Coherent := by
  have order : (recency.touch key).order =
      (recency.order.filter fun entry => entry.2 ≠ key) ++ [(recency.next, key)] := by
    rw [Recency.touch, coherent.orderWithout_eq]
  refine ⟨fun other stamp => ?_, ?_, fun entry held => ?_⟩
  · rw [order, Recency.touch, Table.find?_put, List.mem_append, List.mem_filter,
      List.mem_singleton, ← coherent.inverse, decide_eq_true_eq, Prod.mk.injEq]
    by_cases same : other = key
    · subst same
      simp [eq_comm]
    · simp [same]
  · rw [order]
    refine List.pairwise_append.2 ⟨coherent.ascending.filter _, List.pairwise_singleton _ _, ?_⟩
    intro entry held last isLast
    rw [List.mem_singleton.1 isLast]
    exact coherent.fresh entry (List.mem_filter.1 held).1
  · rw [order] at held
    rcases List.mem_append.1 held with old | new
    · exact Nat.lt_succ_of_lt (coherent.fresh entry (List.mem_filter.1 old).1)
    · rw [List.mem_singleton.1 new]
      exact Nat.lt_succ_self _

/-- A removal keeps the two maps in step. -/
theorem remove (coherent : recency.Coherent) (key : String) : (recency.remove key).Coherent := by
  have order : (recency.remove key).order = recency.order.filter fun entry => entry.2 ≠ key := by
    rw [Recency.remove, coherent.orderWithout_eq]
  refine ⟨fun other stamp => ?_, ?_, fun entry held => ?_⟩
  · rw [order, Recency.remove, Table.find?_erase, List.mem_filter, ← coherent.inverse,
      decide_eq_true_eq]
    by_cases same : other = key
    · simp [same]
    · simp [same]
  · rw [order]
    exact coherent.ascending.filter _
  · rw [order] at held
    exact coherent.fresh entry (List.mem_filter.1 held).1

/-- A touch moves a key to the end. -/
theorem keys_touch (coherent : recency.Coherent) (key : String) :
    (recency.touch key).keys = recency.keys.filter (· ≠ key) ++ [key] := by
  rw [keys, Recency.touch, coherent.orderWithout_eq, List.map_append, keys, List.filter_map]
  rfl

/-- A removal takes a key out. -/
theorem keys_remove (coherent : recency.Coherent) (key : String) :
    (recency.remove key).keys = recency.keys.filter (· ≠ key) := by
  rw [keys, Recency.remove, coherent.orderWithout_eq, keys, List.filter_map]
  rfl

/-- What gives way first is the head of the order. -/
theorem takeOldest?_of_keys (coherent : recency.Coherent) {oldest : String} {rest : List String}
    (shape : recency.keys = oldest :: rest) :
    ∃ left, recency.takeOldest? = some (oldest, left) ∧ left.keys = rest ∧ left.Coherent := by
  obtain ⟨order, stamps, next⟩ := recency
  cases order with
  | nil => exact absurd shape (by simp [keys])
  | cons entry behind =>
    obtain ⟨stamp, key⟩ := entry
    obtain ⟨rfl, tail⟩ := List.cons.inj shape
    refine ⟨⟨behind, stamps.erase key, next⟩, rfl, tail, ?_⟩
    obtain ⟨greater, ascending⟩ := List.pairwise_cons.1 coherent.ascending
    refine ⟨fun other found => ?_, ascending,
      fun entry held => coherent.fresh entry (List.mem_cons_of_mem _ held)⟩
    have inverse := coherent.inverse other found
    dsimp only at inverse ⊢
    rw [Table.find?_erase]
    by_cases same : other = key
    · subst same
      have once : other ∉ behind.map Prod.snd := (List.nodup_cons.1 coherent.nodup_keys).1
      simp only [↓reduceIte, reduceCtorEq, false_iff]
      exact fun held => once (List.mem_map.2 ⟨(found, other), held, rfl⟩)
    · rw [if_neg same, inverse, List.mem_cons]
      simp [same]

end Coherent

end FailOpenCache.Recency
