import FailOpenCache.Proofs.Store.Changes

/-!
# The order of use only goes on

Every stamp that the store in memory gives is greater than all before it. So whatever is requested
later, unless all keys are forgotten, an entry of the order of use is either an old one with its
old stamp, or its stamp was not given yet before: no key comes to stand behind a place that a walk
has passed.
-/

namespace FailOpenCache

namespace Recency

/-- A later order of use holds entries of an early one, and entries with stamps that the early one
has yet to give. -/
structure Onward (early late : Recency) : Prop where
  /-- The next stamp does not go back. -/
  next_le : early.next ≤ late.next
  /-- An entry is an old one, or has a stamp that was not given before. -/
  old_or_fresh : ∀ entry ∈ late.order, entry ∈ early.order ∨ early.next ≤ entry.1

/-- What stays in the order without the stamp of a key was there before. -/
theorem mem_of_mem_orderWithout {recency : Recency} {key : String} {entry : Nat × String}
    (held : entry ∈ recency.orderWithout key) : entry ∈ recency.order := by
  rw [orderWithout] at held
  split at held
  · exact (List.mem_filter.1 held).1
  · exact held

namespace Onward

variable {early late : Recency}

/-- Nothing has happened. -/
theorem refl (recency : Recency) : Onward recency recency :=
  ⟨Nat.le_refl _, fun _ held => .inl held⟩

/-- What is fresh for the later order is fresh for the earlier one. -/
theorem trans {latest : Recency} (first : Onward early late) (second : Onward late latest) :
    Onward early latest where
  next_le := Nat.le_trans first.next_le second.next_le
  old_or_fresh entry held := by
    rcases second.old_or_fresh entry held with old | fresh
    · exact first.old_or_fresh entry old
    · exact .inr (Nat.le_trans first.next_le fresh)

/-- An order from which entries have been taken. -/
theorem of_subset (same : late.next = early.next)
    (kept : ∀ entry ∈ late.order, entry ∈ early.order) : Onward early late :=
  ⟨Nat.le_of_eq same.symm, fun entry held => .inl (kept entry held)⟩

/-- A touch takes one entry away and adds one with the next stamp. -/
theorem touch (recency : Recency) (key : String) : Onward recency (recency.touch key) where
  next_le := Nat.le_succ _
  old_or_fresh entry held := by
    rcases List.mem_append.1 held with old | new
    · exact .inl (mem_of_mem_orderWithout old)
    · rw [List.mem_singleton.1 new]
      exact .inr (Nat.le_refl _)

/-- A removal takes one entry away. -/
theorem remove (recency : Recency) (key : String) : Onward recency (recency.remove key) :=
  of_subset rfl fun _ => mem_of_mem_orderWithout

/-- The oldest key is taken out. -/
theorem takeOldest {recency left : Recency} {oldest : String}
    (taken : recency.takeOldest? = some (oldest, left)) : Onward recency left := by
  rw [takeOldest?] at taken
  split at taken
  · exact absurd taken nofun
  · rename_i stamp key rest shape
    obtain ⟨-, rfl⟩ := Prod.mk.inj (Option.some.inj taken)
    refine of_subset rfl fun entry held => ?_
    rw [shape]
    exact List.mem_cons_of_mem _ held

end Onward

end Recency

namespace MemoryStore

/-- A small change of the store lets the order go on. -/
theorem Change.onward {store left : MemoryStore} (change : Change store left) :
    store.recency.Onward left.recency := by
  cases change with
  | remove key => exact .remove _ key
  | touch key => exact .touch _ key
  | giveWay taken => exact .takeOldest taken
  | put key new => exact .touch _ key
  | join held member renewed => exact .refl _

/-- Small changes let the order go on. -/
theorem Changes.onward {store left : MemoryStore} (changes : Changes store left) :
    store.recency.Onward left.recency := by
  induction changes with
  | refl => exact .refl _
  | tail _ change ih => exact ih.trans change.onward

/-- Whatever is requested, unless all keys are forgotten, the order goes on. -/
theorem onward_after [Libraries] (store : MemoryStore) {calls : List (Millis × Request)}
    (stays : ∀ call ∈ calls, call.2 ≠ .close) :
    store.recency.Onward (store.after calls).recency :=
  (store.changes_after stays).onward

end MemoryStore

end FailOpenCache
