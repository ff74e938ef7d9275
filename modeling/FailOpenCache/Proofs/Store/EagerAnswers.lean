import FailOpenCache.Libraries.Plain
import FailOpenCache.Proofs.Store.LazyExpiry

/-!
# A store in memory answers as an eager store

Each request that is not part of a walk is answered by the store in memory as it is by the eager
store that it stands for, and leaves a store that stands for the one the eager store becomes. So a
run of requests at instants that never go back is answered alike from the beginning to the end,
with the same evictions and the same order of use of the keys that are live.
-/

namespace FailOpenCache

namespace EagerStore

/-- Dropping a key that has just been used drops it. -/
theorem remove_use (store : EagerStore) (key : String) :
    (store.use key).2.remove key = store.remove key := by
  rw [use]
  split
  · rfl
  · simp [remove, List.filter_append, List.filter_filter]

/-- Putting a slot under a held key puts it in place of what the key held, at the end. -/
theorem put_of_held {store : EagerStore} {key : String} (held : (store.find? key).isSome)
    (slot : Slot) (now : Millis) :
    store.put key slot now =
      { store.remove key with
        held := (store.remove key).held ++ if slot.isExpired now then [] else [(key, slot)] } := by
  rw [put, if_pos held]

end EagerStore

namespace MemoryStore

/-- A use of a live key makes it the one used last. -/
theorem use_of_live {store : MemoryStore} {key : String} {now : Millis} {slot : Slot}
    (live : store.find? key now = some slot) :
    store.use key now = (some slot, { store with recency := store.recency.touch key }) := by
  rw [MemoryStore.use, (Option.filter_eq_some_iff.1 live).1]
  simp only [isExpired_of_find? live, Bool.false_eq_true, ↓reduceIte]

/-- An outcome of the store in memory leaves a coherent store, and what the eager store comes to is
the same answer and the eager store which that one stands for. -/
structure Mirrored {α : Type} (now : Millis) (outcome : α × MemoryStore)
    (eager : α × EagerStore) : Prop where
  /-- The store in memory is left coherent. -/
  coherent : outcome.2.Coherent
  /-- The answers are the same and the stores stand for each other. -/
  same : eager = (outcome.1, outcome.2.eager now)

namespace Coherent

variable {store : MemoryStore}

/-- A use is mirrored. -/
theorem mirrored_use (coherent : store.Coherent) (key : String) (now : Millis) :
    Mirrored now (store.use key now) ((store.eager now).use key) :=
  ⟨coherent.use key now, coherent.eager_use key now⟩

/-- An insertion is mirrored. -/
theorem mirrored_insert (coherent : store.Coherent) {α : Type} (answer : α) (key : String)
    (slot : Slot) (now : Millis) :
    Mirrored now (answer, store.insert key slot now) (answer, (store.eager now).put key slot now) :=
  ⟨coherent.insert key slot now, congrArg _ (coherent.eager_insert key slot now).symm⟩

/-- A read is mirrored. -/
theorem mirrored_get (coherent : store.Coherent) (key : String) (now : Millis) :
    Mirrored now (store.get key now) ((store.eager now).get key) := by
  have used := coherent.mirrored_use key now
  rw [EagerStore.get, used.same, MemoryStore.get]
  rcases shape : store.use key now with ⟨_ | ⟨entry | ⟨members, deadline⟩⟩, left⟩ <;>
    rw [shape] at used <;> exact ⟨used.coherent, rfl⟩

/-- Reads of several keys are mirrored. -/
theorem mirrored_getMany (coherent : store.Coherent) (keys : List String) (now : Millis) :
    Mirrored now (store.getMany keys now) ((store.eager now).getMany keys) := by
  induction keys generalizing store with
  | nil => exact ⟨coherent, rfl⟩
  | cons key rest ih =>
    have first := coherent.mirrored_get key now
    rw [EagerStore.getMany, first.same, MemoryStore.getMany]
    rcases shape : store.get key now with ⟨error | found, left⟩ <;> rw [shape] at first
    · exact ⟨first.coherent, rfl⟩
    · have later := ih first.coherent
      dsimp only
      rw [later.same]
      exact ⟨later.coherent, rfl⟩

/-- Writes of several keys keep the store coherent and are writes in the eager store. -/
theorem eager_setMany (coherent : store.Coherent) (items : List (String × String))
    (lifetime : Seconds) (now : Millis) :
    (store.setMany items lifetime now).Coherent ∧
      (store.eager now).setMany items lifetime now =
        (store.setMany items lifetime now).eager now := by
  induction items generalizing store with
  | nil => exact ⟨coherent, rfl⟩
  | cons item rest ih =>
    obtain ⟨kept, same⟩ := ih (coherent.insert item.1 (.value (.write item.2 lifetime now)) now)
    refine ⟨kept, ?_⟩
    rw [EagerStore.setMany, List.foldl_cons, EagerStore.set, ← coherent.eager_insert]
    exact same

/-- A deletion is mirrored. -/
theorem mirrored_delete (coherent : store.Coherent) (keys : List String) (now : Millis) :
    Mirrored now (store.delete keys now) ((store.eager now).delete keys) := by
  induction keys generalizing store with
  | nil => exact ⟨coherent, rfl⟩
  | cons key rest ih =>
    have used := coherent.mirrored_use key now
    have dropped := EagerStore.remove_use (store.eager now) key
    have answered := store.use_fst key now
    have unchanged := store.find?_use key key now
    rw [EagerStore.delete, coherent.find?_eager, ← answered, ← dropped, used.same,
      MemoryStore.delete]
    rcases shape : store.use key now with ⟨_ | slot, left⟩ <;>
      rw [shape] at used answered unchanged <;> dsimp only at used answered unchanged ⊢
    · have absent : (left.eager now).find? key = none := by
        rw [used.coherent.find?_eager, unchanged, ← answered]
      rw [EagerStore.remove_of_absent absent]
      exact ih used.coherent
    · rw [← used.coherent.eager_remove]
      have later := ih (used.coherent.remove key)
      rw [later.same]
      exact ⟨later.coherent, rfl⟩

/-- An addition to a counter is mirrored. -/
theorem mirrored_increment (coherent : store.Coherent) (key : String) (amount : Int)
    (now : Millis) :
    Mirrored now (store.increment key amount now)
      ((store.eager now).increment key amount now) := by
  have used := coherent.mirrored_use key now
  rw [EagerStore.increment, used.same, MemoryStore.increment]
  rcases shape : store.use key now with ⟨_ | ⟨entry | ⟨members, deadline⟩⟩, left⟩ <;>
    rw [shape] at used <;> dsimp only
  · cases addToCounter? 0 amount with
    | none => exact ⟨used.coherent, rfl⟩
    | some sum => exact used.coherent.mirrored_insert _ key _ now
  · cases readCounter? entry.payload with
    | none => exact ⟨used.coherent, rfl⟩
    | some current =>
      dsimp only
      cases addToCounter? current amount with
      | none => exact ⟨used.coherent, rfl⟩
      | some sum => exact used.coherent.mirrored_insert _ key _ now
  · exact ⟨used.coherent, rfl⟩

/-- A slot that takes the place of one just used is put into the eager store. -/
theorem eager_overwrite (coherent : store.Coherent) {key : String} {now : Millis} {held : Slot}
    {left : MemoryStore} (used : store.use key now = (some held, left)) (slot : Slot) :
    Coherent { left with slots := left.slots.put key slot } ∧
      eager { left with slots := left.slots.put key slot } now =
        (left.eager now).put key slot now := by
  have live : store.find? key now = some held := by rw [← store.use_fst key now, used]
  have touched := store.use_of_live live
  rw [used] at touched
  obtain rfl := congrArg Prod.snd touched
  have present : (store.slots.find? key).isSome := by
    rw [(Option.filter_eq_some_iff.1 live).1]
    rfl
  have dropped := EagerStore.remove_use (store.eager now) key
  rw [coherent.eager_use, used] at dropped
  have found := ((coherent.touch present).find?_eager key now).trans live
  refine ⟨(coherent.touch present).overwrite slot present, ?_⟩
  refine (coherent.eager_put key slot now).trans ?_
  rw [EagerStore.put_of_held (Option.isSome_of_eq_some found), dropped]

/-- Adding a member to sets is mirrored. -/
theorem mirrored_addMember (coherent : store.Coherent) (keys : List String) (member : String)
    (lifetime : Seconds) (now : Millis) :
    Mirrored now (store.addMember keys member lifetime now)
      ((store.eager now).addMember member lifetime now keys) := by
  induction keys generalizing store with
  | nil => exact ⟨coherent, rfl⟩
  | cons key rest ih =>
    have used := coherent.mirrored_use key now
    rw [EagerStore.addMember, used.same, MemoryStore.addMember]
    rcases shape : store.use key now with ⟨_ | ⟨entry | ⟨members, deadline⟩⟩, left⟩ <;>
      rw [shape] at used <;> dsimp only
    · rw [← used.coherent.eager_insert]
      exact ih (used.coherent.insert ..)
    · exact ⟨used.coherent, rfl⟩
    · obtain ⟨kept, same⟩ := coherent.eager_overwrite shape (addTo members deadline member lifetime now)
      rw [← same]
      exact ih kept

/-- Reading the members of a set is mirrored. -/
theorem mirrored_members (coherent : store.Coherent) (key : String) (now : Millis) :
    Mirrored now (store.members key now) ((store.eager now).members key) := by
  have used := coherent.mirrored_use key now
  rw [EagerStore.members, used.same, MemoryStore.members]
  rcases shape : store.use key now with ⟨_ | ⟨entry | ⟨members, deadline⟩⟩, left⟩ <;>
    rw [shape] at used <;> exact ⟨used.coherent, rfl⟩

/-- Leaving the store keeps it coherent and empties the eager store. -/
theorem eager_close (coherent : store.Coherent) (now : Millis) :
    store.close.Coherent ∧ store.close.eager now = { store.eager now with held := [] } := by
  refine ⟨⟨⟨.empty, fun key => ?_⟩, Nat.zero_le _, coherent.roomy⟩, rfl⟩
  rw [MemoryStore.close, Table.find?_empty]
  simp [Recency.empty, Recency.keys]

/-- Every request that is not part of a walk is mirrored. -/
theorem mirrored_answer [Libraries] (coherent : store.Coherent) (request : Request) (now : Millis)
    (apart : request.operation ≠ .scan) :
    Mirrored now (store.answer request now) ((store.eager now).answer request now) := by
  cases request with
  | ping => exact ⟨coherent, rfl⟩
  | close =>
    obtain ⟨kept, same⟩ := coherent.eager_close now
    exact ⟨kept, congrArg _ same.symm⟩
  | get key => exact coherent.mirrored_get key now
  | set key payload lifetime => exact coherent.mirrored_insert _ key _ now
  | delete keys =>
    obtain ⟨kept, same⟩ := coherent.mirrored_delete keys now
    refine ⟨kept, ?_⟩
    rw [EagerStore.answer, same]
    rfl
  | probe key =>
    obtain ⟨kept, same⟩ := coherent.mirrored_use key now
    refine ⟨kept, ?_⟩
    rw [EagerStore.answer, same]
    rfl
  | increment key amount => exact coherent.mirrored_increment key amount now
  | scan cursor pattern count => exact absurd rfl apart
  | getMany keys => exact coherent.mirrored_getMany keys now
  | setMany items lifetime =>
    obtain ⟨kept, same⟩ := coherent.eager_setMany items lifetime now
    exact ⟨kept, congrArg _ same⟩
  | addMember keys member lifetime => exact coherent.mirrored_addMember keys member lifetime now
  | members key => exact coherent.mirrored_members key now

/-- Every request keeps the store coherent. -/
theorem answer [Libraries] (coherent : store.Coherent) (request : Request) (now : Millis) :
    (store.answer request now).2.Coherent := by
  by_cases apart : request.operation = .scan
  · cases request with
    | scan cursor pattern count => exact coherent
    | _ => exact absurd apart (by simp [Request.operation])
  · exact (coherent.mirrored_answer request now apart).coherent

end Coherent

end MemoryStore

/-- What a request comes to: its answer, and how many keys have given way to others by then. -/
structure Outcome where
  /-- The request. -/
  request : Request
  /-- Its answer. -/
  answer : Except StoreError request.Reply
  /-- How many keys have given way to others so far. -/
  evictions : Nat

/-- A store in memory answers requests one after the other, each at its instant. -/
def MemoryStore.answerAll [Libraries] (store : MemoryStore) :
    List (Millis × Request) → List Outcome × MemoryStore
  | [] => ([], store)
  | (now, request) :: rest =>
    let (answer, left) := store.answer request now
    let (outcomes, last) := left.answerAll rest
    (⟨request, answer, left.evictions⟩ :: outcomes, last)

/-- An eager store answers requests one after the other, each at its instant, and what reaches its
deadline by then is gone before. -/
def EagerStore.answerAll [Libraries] (store : EagerStore) :
    List (Millis × Request) → List Outcome × EagerStore
  | [] => ([], store)
  | (now, request) :: rest =>
    let (answer, left) := (store.tick now).answer request now
    let (outcomes, last) := left.answerAll rest
    (⟨request, answer, left.evictions⟩ :: outcomes, last)

namespace MemoryStore

/-- A run of requests from an instant on is mirrored: the outcomes are the same, and when a later
instant comes the store in memory stands for what is left of the eager store. -/
theorem Coherent.answerAll_eager [Libraries] {store : MemoryStore} (coherent : store.Coherent)
    {now : Millis} {calls : List (Millis × Request)}
    (ordered : (now :: calls.map Prod.fst).Pairwise (· ≤ ·))
    (apart : ∀ call ∈ calls, call.2.operation ≠ .scan) :
    ((store.eager now).answerAll calls).1 = (store.answerAll calls).1 ∧
      ∀ later, now ≤ later → (∀ call ∈ calls, call.1 ≤ later) →
        ((store.eager now).answerAll calls).2.tick later =
          (store.answerAll calls).2.eager later := by
  induction calls generalizing store now with
  | nil => exact ⟨rfl, fun later reached _ => eager_tick reached store⟩
  | cons call rest ih =>
    obtain ⟨instant, request⟩ := call
    obtain ⟨before, behind⟩ := List.pairwise_cons.1 ordered
    have ticked := eager_tick (before instant List.mem_cons_self) store
    have mirrored := coherent.mirrored_answer request instant (apart _ List.mem_cons_self)
    obtain ⟨outcomes, last⟩ := ih mirrored.coherent behind fun call held =>
      apart call (List.mem_cons_of_mem _ held)
    rw [EagerStore.answerAll, MemoryStore.answerAll, ticked, mirrored.same]
    refine ⟨?_, fun later _ reached => ?_⟩
    · exact congrArg (Outcome.mk request _ _ :: ·) outcomes
    · exact last later (reached _ List.mem_cons_self) fun call held =>
        reached call (List.mem_cons_of_mem _ held)

/-- A store in memory that drops what has expired only when it meets it answers every run of
requests at instants that never go back as the eager store does, with the same evictions at every
request; and at any later instant the keys that are live stand in the same order of use. -/
theorem answerAll_lazily [Libraries] (capacity : Nat) (calls : List (Millis × Request))
    (ordered : (calls.map Prod.fst).Pairwise (· ≤ ·))
    (apart : ∀ call ∈ calls, call.2.operation ≠ .scan) :
    ((ofCapacity capacity).answerAll calls).1 =
        ((EagerStore.ofCapacity capacity).answerAll calls).1 ∧
      ∀ now, (∀ call ∈ calls, call.1 ≤ now) →
        (((ofCapacity capacity).answerAll calls).2.recency.keys.filter fun key =>
            (((ofCapacity capacity).answerAll calls).2.find? key now).isSome) =
          (((EagerStore.ofCapacity capacity).answerAll calls).2.tick now).held.map Prod.fst := by
  have start : (ofCapacity capacity).eager 0 = EagerStore.ofCapacity capacity := rfl
  have ordered' : (0 :: calls.map Prod.fst).Pairwise (· ≤ ·) :=
    List.pairwise_cons.2 ⟨fun _ _ => Nat.zero_le _, ordered⟩
  obtain ⟨outcomes, last⟩ := (Coherent.ofCapacity capacity).answerAll_eager ordered' apart
  rw [start] at outcomes last
  refine ⟨outcomes.symm, fun now reached => ?_⟩
  rw [last now (Nat.zero_le now) reached, names_eager]

/-- Requests of which the second brings a key when the first one's deadline is reached, and the
fourth another one when it is not. -/
def lapsingCalls : List (Millis × Request) :=
  [(0, .set "a" "1" 1), (1000, .set "b" "2" 0), (1000, .probe "a"), (1000, .set "c" "3" 0),
    (1001, .get "b")]

open scoped Libraries.Plain

/-- With room for one key only, the key that lingers expired gives way unseen and the live one by an
eviction, as in the eager store. -/
theorem answerAll_lazily_lapsed :
    ((ofCapacity 1).answerAll lapsingCalls).1 =
        ((EagerStore.ofCapacity 1).answerAll lapsingCalls).1 ∧
      ((ofCapacity 1).answerAll lapsingCalls).1.map Outcome.evictions = [0, 0, 0, 1, 1] :=
  ⟨(answerAll_lazily 1 lapsingCalls (by decide) (by decide)).1, by decide⟩

end MemoryStore

end FailOpenCache
