import FailOpenCache.Proofs.Store.Records
import FailOpenCache.Proofs.Store.Singly
import Mathlib.Logic.Relation

/-!
# What requests change

Whatever a request does to the store in memory, unless it forgets all keys, is made of small changes
of five kinds: a key is dropped, used, or gives way to others, a new slot is put under a key, or a
member is added to a set. What such a change keeps every request keeps, and every run of requests.
-/

namespace FailOpenCache

/-- A slot that a request puts under a key. -/
inductive Slot.IsNew : Slot → Prop where
  /-- A value. -/
  | value (entry : Entry) : IsNew (.value entry)
  /-- A set of one member. -/
  | singleton (member : String) (deadline : Option Millis) :
    IsNew (.set (.singleton member) deadline)

/-- Only the farewell stands for a farewell. -/
theorem Request.eq_close_of_mem_singly {request : Request} (held : Request.close ∈ request.singly) :
    request = .close := by
  cases request with
  | close => rfl
  | getMany keys => simp [singly] at held
  | setMany items lifetime => simp [singly] at held
  | delete keys => simp [singly] at held
  | addMember keys member lifetime => simp [singly] at held
  | _ => exact absurd (List.mem_singleton.1 held) nofun

namespace MemoryStore

/-- A small change of the store. -/
inductive Change : MemoryStore → MemoryStore → Prop where
  /-- A key is dropped. -/
  | remove (store : MemoryStore) (key : String) : Change store (store.remove key)
  /-- A key becomes the one used last. -/
  | touch (store : MemoryStore) (key : String) :
    Change store { store with recency := store.recency.touch key }
  /-- The oldest key gives way. -/
  | giveWay {store : MemoryStore} {oldest : String} {left : Recency}
    (taken : store.recency.takeOldest? = some (oldest, left)) :
    Change store (store.giveWay oldest left)
  /-- A new slot is put under a key, which becomes the one used last. -/
  | put (store : MemoryStore) (key : String) {slot : Slot} (new : slot.IsNew) :
    Change store { store with
      slots := store.slots.put key slot
      recency := store.recency.touch key }
  /-- A member is added to a set. -/
  | join {store : MemoryStore} {key : String} {members : NameSet} {deadline : Option Millis}
    (held : store.slots.find? key = some (.set members deadline)) (member : String)
    (renewed : Option Millis) :
    Change store { store with
      slots := store.slots.put key (.set (members.insert member) renewed) }

/-- Small changes one after the other. -/
abbrev Changes : MemoryStore → MemoryStore → Prop := Relation.ReflTransGen Change

/-- A small change counts the evictions. -/
theorem Change.evictions_le {store left : MemoryStore} (change : Change store left) :
    store.evictions ≤ left.evictions := by
  cases change with
  | giveWay taken => exact Nat.le_succ _
  | _ => exact Nat.le_refl _

/-- Small changes count the evictions. -/
theorem Changes.evictions_le {store left : MemoryStore} (changes : Changes store left) :
    store.evictions ≤ left.evictions := by
  induction changes with
  | refl => exact Nat.le_refl _
  | tail _ last ih => exact Nat.le_trans ih last.evictions_le

variable (store : MemoryStore)

/-- A use drops a key or makes it the one used last. -/
theorem changes_use (key : String) (now : Millis) : Changes store (store.use key now).2 := by
  rw [use]
  split
  · exact .refl
  · split
    · exact .single (.remove store key)
    · exact .single (.touch store key)

/-- Keys are dropped. -/
theorem changes_foldl_remove (dropped : List (String × Slot)) :
    Changes store (dropped.foldl (fun kept entry => kept.remove entry.1) store) := by
  induction dropped generalizing store with
  | nil => exact .refl
  | cons entry rest ih => exact .head (.remove store entry.1) (ih (store.remove entry.1))

/-- Keys give way. -/
theorem changes_evict (atMost : Nat) : Changes store (store.evict atMost) := by
  induction atMost generalizing store with
  | zero => exact .refl
  | succ atMost ih =>
    rw [evict]
    split
    · exact .refl
    · split
      · exact .refl
      · rename_i oldest left taken
        exact .head (.giveWay taken) (ih (store.giveWay oldest left))

/-- Room is made. -/
theorem changes_vacate (now : Millis) : Changes store (store.vacate now) := by
  rw [vacate]
  split
  · exact .refl
  · exact (store.changes_foldl_remove _).trans (changes_evict _ _)

/-- A new slot is inserted. -/
theorem changes_insert (key : String) {slot : Slot} (new : slot.IsNew) (now : Millis) :
    Changes store (store.insert key slot now) := by
  rw [insert]
  split
  · exact .single (.put store key new)
  · exact (store.changes_vacate now).tail (.put _ key new)

/-- A counter is counted on, or left alone after it has been used. -/
theorem changes_increment (key : String) (amount : Int) (now : Millis) :
    Changes store (store.increment key amount now).2 := by
  have used := store.changes_use key now
  cases addition : addition? (store.find? key now) amount with
  | none =>
    rw [(increment_refused addition).2]
    exact used
  | some counted =>
    rw [increment_counted addition]
    exact used.trans (changes_insert _ key (.value _) now)

/-- A member is added to a set, or to a new one. -/
theorem changes_addMember (key member : String) (lifetime : Seconds) (now : Millis) :
    Changes store (store.addMember [key] member lifetime now).2 := by
  have used := store.changes_use key now
  have answered := store.use_fst key now
  rw [addMember]
  rcases shape : store.use key now with ⟨_ | (entry | ⟨members, deadline⟩), left⟩ <;>
    rw [shape] at used answered
  · exact used.trans (changes_insert left key (.singleton member _) now)
  · exact used
  · have live := use_of_live answered.symm
    rw [shape] at live
    have held : left.slots.find? key = some (.set members deadline) := by
      rw [(Prod.mk.inj live).2]
      exact (Option.filter_eq_some_iff.1 answered.symm).1
    exact used.tail (.join held member _)

variable [Libraries]

/-- A request about one key at most that does not forget all keys. -/
theorem changes_single {request : Request} (single : request.IsSingle) (stays : request ≠ .close)
    (now : Millis) : Changes store (store.answer request now).2 := by
  have used := fun key => store.changes_use key now
  cases request with
  | ping => exact .refl
  | close => exact absurd rfl stays
  | get key =>
    have left : (store.answer (.get key) now).2 = _ := store.get_snd key now
    exact left ▸ used key
  | set key payload lifetime => exact store.changes_insert key (.value _) now
  | delete keys =>
    obtain ⟨key, rfl⟩ := single
    have dropped := used key
    rw [answer, delete]
    rcases shape : store.use key now with ⟨_ | slot, left⟩ <;> rw [shape] at dropped
    · exact dropped
    · exact dropped.tail (.remove left key)
  | probe key => exact used key
  | increment key amount => exact store.changes_increment key amount now
  | scan cursor pattern count => exact .refl
  | getMany keys => exact absurd single id
  | setMany items lifetime => exact absurd single id
  | addMember keys member lifetime =>
    obtain ⟨key, rfl⟩ := single
    exact store.changes_addMember key member lifetime now
  | members key =>
    have left : (store.answer (.members key) now).2 = _ := store.members_snd key now
    exact left ▸ used key

/-- Whatever is requested one key at a time, unless all keys are forgotten. -/
theorem changes_after_single {calls : List (Millis × Request)}
    (single : ∀ call ∈ calls, call.2.IsSingle) (stays : ∀ call ∈ calls, call.2 ≠ .close) :
    Changes store (store.after calls) := by
  induction calls generalizing store with
  | nil => exact .refl
  | cons call rest ih =>
    have first := store.changes_single (single call List.mem_cons_self)
      (stays call List.mem_cons_self) call.1
    exact first.trans (ih _ (fun later held => single later (List.mem_cons_of_mem _ held))
      fun later held => stays later (List.mem_cons_of_mem _ held))

/-- Whatever is requested, unless all keys are forgotten. -/
theorem changes_after {calls : List (Millis × Request)}
    (stays : ∀ call ∈ calls, call.2 ≠ .close) : Changes store (store.after calls) := by
  rw [← after_pieces]
  refine store.changes_after_single (fun _ => isSingle_of_mem_pieces) fun piece held isClose => ?_
  obtain ⟨call, inside, named⟩ := exists_of_mem_pieces held
  rw [isClose] at named
  exact stays call inside (Request.eq_close_of_mem_singly named)

/-- Whatever is requested at once, unless all keys are forgotten. -/
theorem changes_answer {request : Request} (stays : request ≠ .close) (now : Millis) :
    Changes store (store.answer request now).2 := by
  have alone : Changes store (store.after [(now, request)]) := by
    refine store.changes_after fun call held => ?_
    rw [List.mem_singleton.1 held]
    exact stays
  exact alone

end MemoryStore

end FailOpenCache
