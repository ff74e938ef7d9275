import FailOpenCache.Proofs.Store.Records
import FailOpenCache.Proofs.Store.Singly

/-!
# What a request about one key does

A request about one key does one of three things to the store in memory: it accesses no key that it
leaves, it renews a key that is held, or it brings one that is not. Only what is brought to a full
store makes others go: all that have expired, or else the one whose last use is the oldest.
-/

namespace FailOpenCache

/-- The request drops a key on purpose. -/
def Request.Drops : Request → String → Prop
  | close, _ => True
  | delete keys, key => key ∈ keys
  | _, _ => False

namespace MemoryStore

variable {store : MemoryStore} {now : Millis}

/-- What comes of a key that comes to a store: it is the one used last. Where there is room it is
one more. Otherwise what has expired goes, and only if nothing has the key whose last use is the
oldest gives way. -/
structure Arrival (store left : MemoryStore) (key : String) (now : Millis) : Prop where
  /-- There is room. -/
  room : store.slots.size < store.capacity →
    left.recency.keys = store.recency.keys ++ [key] ∧ left.evictions = store.evictions
  /-- There is no room, and something has expired. -/
  sweeps : store.slots.size = store.capacity →
    (∃ other ∈ store.recency.keys, store.find? other now = none) →
      left.recency.keys =
          (store.recency.keys.filter fun other => (store.find? other now).isSome) ++ [key] ∧
        left.evictions = store.evictions
  /-- There is no room, and everything is live. -/
  evicts : store.slots.size = store.capacity →
    (∀ other ∈ store.recency.keys, (store.find? other now).isSome) →
      ∃ oldest rest, store.recency.keys = oldest :: rest ∧
        left.recency.keys = rest ++ [key] ∧ left.evictions = store.evictions + 1

/-- What comes to a store is the last behind some of the keys that were there. -/
theorem Arrival.kept {left : MemoryStore} {key : String} (arrival : Arrival store left key now)
    (fits : store.slots.size ≤ store.capacity) :
    ∃ kept, kept.Sublist store.recency.keys ∧ left.recency.keys = kept ++ [key] := by
  by_cases full : store.slots.size = store.capacity
  · by_cases lapsed : ∃ other ∈ store.recency.keys, store.find? other now = none
    · exact ⟨_, List.filter_sublist, (arrival.sweeps full lapsed).1⟩
    · have live : ∀ other ∈ store.recency.keys, (store.find? other now).isSome := by
        intro other held
        rw [Option.isSome_iff_ne_none]
        exact fun nothing => lapsed ⟨other, held, nothing⟩
      obtain ⟨oldest, rest, shape, order, -⟩ := arrival.evicts full live
      exact ⟨rest, shape ▸ List.sublist_cons_self oldest rest, order⟩
  · have room : store.slots.size < store.capacity := by omega
    exact ⟨_, .refl _, (arrival.room room).1⟩

/-- Dropping keys leaves the room as it is. -/
theorem capacity_foldl_remove (dropped : List (String × Slot)) (store : MemoryStore) :
    (dropped.foldl (fun kept entry => kept.remove entry.1) store).capacity = store.capacity := by
  induction dropped generalizing store with
  | nil => rfl
  | cons entry rest ih => exact ih (store.remove entry.1)

namespace Coherent

/-- Dropping keys takes them out of the order. -/
theorem keys_foldl_remove (dropped : List (String × Slot)) (coherent : store.Coherent) :
    (dropped.foldl (fun kept entry => kept.remove entry.1) store).recency.keys =
      store.recency.keys.filter fun key => key ∉ dropped.map Prod.fst := by
  induction dropped generalizing store with
  | nil => exact (List.filter_eq_self.2 fun key _ => by simp).symm
  | cons entry rest ih =>
    have first : (store.remove entry.1).recency.keys = store.recency.keys.filter (· ≠ entry.1) :=
      coherent.recency.keys_remove entry.1
    rw [List.foldl_cons, ih (coherent.remove entry.1), first, List.filter_filter]
    refine List.filter_congr fun key _ => ?_
    by_cases here : key = entry.1
    · simp [here]
    · simp [here]

/-- Dropping what has expired leaves the live keys in their order. -/
theorem keys_dropExpired (coherent : store.Coherent) (now : Millis) :
    (store.dropExpired now).recency.keys =
      store.recency.keys.filter fun key => (store.find? key now).isSome := by
  rw [MemoryStore.dropExpired, coherent.keys_foldl_remove]
  refine List.filter_congr fun key held => ?_
  obtain ⟨slot, found⟩ := Option.isSome_iff_exists.1 ((coherent.mem_keys key).1 held)
  cases expired : slot.isExpired now with
  | true =>
    have dropped : key ∈ (store.slots.entries.filter fun entry => entry.2.isExpired now).map
        Prod.fst :=
      List.mem_map.2 ⟨(key, slot), List.mem_filter.2 ⟨Table.mem_of_find? found, expired⟩, rfl⟩
    simp [dropped, find?, found, Option.filter, expired]
  | false =>
    have kept : key ∉ (store.slots.entries.filter fun entry => entry.2.isExpired now).map
        Prod.fst := by
      intro dropped
      obtain ⟨⟨name, other⟩, inside, same⟩ := List.mem_map.1 dropped
      obtain rfl : name = key := same
      obtain ⟨held', gone⟩ := List.mem_filter.1 inside
      rw [Table.find?_of_mem held'] at found
      obtain rfl := Option.some.inj found
      rw [expired] at gone
      exact absurd gone Bool.false_ne_true
    simp [kept, find?, found, Option.filter, expired]

/-- A slot put under a new key makes it the last. -/
theorem keys_put_new (coherent : store.Coherent) {key : String} (new : key ∉ store.recency.keys) :
    (store.recency.touch key).keys = store.recency.keys ++ [key] := by
  rw [coherent.recency.keys_touch, filter_ne_of_notMem new]

/-- Where something has expired, dropping it makes room. -/
theorem vacate_lapsed (coherent : store.Coherent) (full : store.slots.size = store.capacity)
    (lapsed : ∃ other ∈ store.recency.keys, store.find? other now = none) :
    store.vacate now = store.dropExpired now := by
  obtain ⟨other, held, gone⟩ := lapsed
  have fewer : (store.recency.keys.filter fun key => (store.find? key now).isSome).length <
      store.recency.keys.length := by
    refine List.length_filter_lt_length_iff_exists.2 ⟨other, held, ?_⟩
    simp [gone]
  have size : (store.dropExpired now).slots.size < store.slots.size := by
    rw [(coherent.dropExpired now).size_eq, coherent.keys_dropExpired, coherent.size_eq]
    exact fewer
  have capacity : (store.dropExpired now).capacity = store.capacity :=
    capacity_foldl_remove _ store
  have noRoom : ¬ store.slots.size < store.capacity := by omega
  rw [MemoryStore.vacate, if_neg noRoom]
  exact evict_of_room (by omega) _

/-- Where everything is live, nothing is dropped. -/
theorem dropExpired_of_live (coherent : store.Coherent)
    (live : ∀ key ∈ store.recency.keys, (store.find? key now).isSome) :
    store.dropExpired now = store := by
  have nothing : (store.slots.entries.filter fun entry => entry.2.isExpired now) = [] := by
    refine List.filter_eq_nil_iff.2 fun entry held expired => ?_
    have found := Table.find?_of_mem held
    have inside : entry.1 ∈ store.recency.keys :=
      (coherent.mem_keys entry.1).2 (by rw [found]; rfl)
    have there := live entry.1 inside
    simp [find?, found, Option.filter, expired] at there
  rw [MemoryStore.dropExpired, nothing]
  rfl

/-- An insertion of a key that is not held. -/
theorem insert_new (coherent : store.Coherent) {key : String} (new : key ∉ store.recency.keys)
    (slot : Slot) (now : Millis) : Arrival store (store.insert key slot now) key now := by
  have absent : store.slots.contains key = false := by
    rw [coherent.mem_keys, Bool.not_eq_true] at new
    exact new
  have inserted : store.insert key slot now =
      { store.vacate now with
        slots := (store.vacate now).slots.put key slot
        recency := (store.vacate now).recency.touch key } := by
    rw [MemoryStore.insert, absent]
    rfl
  rw [inserted]
  refine ⟨fun room => ?_, fun full lapsed => ?_, fun full live => ?_⟩
  · have ready : store.vacate now = store := by rw [MemoryStore.vacate, if_pos room]
    rw [ready]
    exact ⟨coherent.keys_put_new new, rfl⟩
  · have order := coherent.keys_dropExpired now
    have new' : key ∉ (store.dropExpired now).recency.keys := by
      rw [order]
      exact fun held => new (List.mem_filter.1 held).1
    rw [coherent.vacate_lapsed full lapsed, ← order]
    exact ⟨(coherent.dropExpired now).keys_put_new new', evictions_foldl_remove _ store⟩
  · have noRoom : ¬ store.slots.size < store.capacity := by omega
    obtain ⟨oldest, rest, left, shape, keys, evicted, coherent', -⟩ := evict_of_full coherent noRoom
    have ready : store.vacate now = giveWay store oldest left := by
      rw [MemoryStore.vacate, if_neg noRoom, coherent.dropExpired_of_live live]
      exact evicted
    have order : (giveWay store oldest left).recency.keys = rest := keys
    have new' : key ∉ (giveWay store oldest left).recency.keys := by
      rw [order]
      exact fun held => new (shape ▸ List.mem_cons_of_mem _ held)
    have last := coherent'.keys_put_new new'
    rw [order] at last
    rw [ready]
    exact ⟨oldest, rest, shape, last, rfl⟩

/-- An insertion of a key that is held puts the slot in the place of what it held. -/
theorem insert_held (coherent : store.Coherent) {key : String} (held : key ∈ store.recency.keys)
    (slot : Slot) (now : Millis) :
    store.insert key slot now =
      { store with
        slots := store.slots.put key slot
        recency := store.recency.touch key } := by
  have contained : store.slots.contains key = true := (coherent.mem_keys key).1 held
  rw [MemoryStore.insert, if_pos contained]

end Coherent

/-- An insertion leaves the room as it is. -/
theorem capacity_insert (store : MemoryStore) (key : String) (slot : Slot) (now : Millis) :
    (store.insert key slot now).capacity = store.capacity := by
  have evicted : ∀ (atMost : Nat) (store : MemoryStore),
      (store.evict atMost).capacity = store.capacity := by
    intro atMost
    induction atMost with
    | zero => exact fun _ => rfl
    | succ atMost ih =>
      intro store
      rw [evict]
      split
      · rfl
      · split
        · rfl
        · exact ih _
  have vacated : (store.vacate now).capacity = store.capacity := by
    rw [vacate]
    split
    · rfl
    · rw [evicted, dropExpired, capacity_foldl_remove]
  rw [insert]
  split
  · rfl
  · exact vacated

/-- The ways in which a use can go. -/
inductive Usage (store : MemoryStore) (key : String) (now : Millis) :
    Option Slot × MemoryStore → Prop where
  /-- Nothing is held under the key. -/
  | absent (outside : key ∉ store.recency.keys) : Usage store key now (none, store)
  /-- What is held under the key has expired. -/
  | expired (held : key ∈ store.recency.keys) : Usage store key now (none, store.remove key)
  /-- What is held under the key is live. -/
  | live {slot : Slot} (held : key ∈ store.recency.keys) :
    Usage store key now (some slot, { store with recency := store.recency.touch key })

/-- A use goes in one of these ways. -/
theorem Coherent.usage (coherent : store.Coherent) (key : String) (now : Millis) :
    Usage store key now (store.use key now) := by
  rw [MemoryStore.use]
  cases found : store.slots.find? key with
  | none =>
    have outside : key ∉ store.recency.keys := by
      rw [coherent.mem_keys, found]
      exact Bool.false_ne_true
    exact .absent outside
  | some slot =>
    have held : key ∈ store.recency.keys := (coherent.mem_keys key).2 (by rw [found]; rfl)
    dsimp only
    split
    · exact .expired held
    · exact .live held

/-- The key that a request about one key accesses: the one that it finds live or writes. A deletion
leaves no key that it could access, and a walk is no access. -/
def accessed? (store : MemoryStore) (now : Millis) : Request → Option String
  | .get key | .probe key | .members key =>
    if (store.find? key now).isSome then some key else none
  | .increment key amount =>
    if (store.find? key now).isSome || (addToCounter? 0 amount).isSome then some key else none
  | .set key _ _ | .addMember [key] _ _ => some key
  | _ => none

/-- What a request about one key does to the store. -/
inductive Effect (store : MemoryStore) (request : Request) (now : Millis) (left : MemoryStore) :
    Prop where
  /-- It accesses no key that it leaves, and drops none that is live unless on purpose. -/
  | keeps (accessed : store.accessed? now request = none)
    (fewer : left.recency.keys.Sublist store.recency.keys)
    (spared : ∀ key ∈ store.recency.keys, (store.find? key now).isSome →
      request.Drops key ∨ key ∈ left.recency.keys)
    (evictions : left.evictions = store.evictions) (capacity : left.capacity = store.capacity)
  /-- A key that is held becomes the one accessed last. -/
  | renews {key : String} (accessed : store.accessed? now request = some key)
    (held : key ∈ store.recency.keys)
    (order : left.recency.keys = store.recency.keys.filter (· ≠ key) ++ [key])
    (evictions : left.evictions = store.evictions) (capacity : left.capacity = store.capacity)
  /-- A key that is not held comes to the store. -/
  | brings {key : String} {slot : Slot} (accessed : store.accessed? now request = some key)
    (outside : key ∉ store.recency.keys) (inserted : left = store.insert key slot now)

/-- A request about one key leaves the room as it is. -/
theorem Effect.capacity_eq {request : Request} {left : MemoryStore}
    (effect : Effect store request now left) : left.capacity = store.capacity := by
  cases effect with
  | keeps accessed fewer spared evictions capacity => exact capacity
  | renews accessed held order evictions capacity => exact capacity
  | brings accessed outside inserted =>
    rw [inserted]
    exact capacity_insert _ _ _ _

namespace Coherent

variable {request : Request} {key : String}

/-- A request that uses a key and no more. -/
theorem effect_use (coherent : store.Coherent)
    (accessed : store.accessed? now request =
      if (store.find? key now).isSome then some key else none) :
    Effect store request now (store.use key now).2 := by
  have answered := store.use_fst key now
  have usage := coherent.usage key now
  generalize store.use key now = used at usage answered
  cases usage with
  | absent outside =>
    rw [← answered] at accessed
    exact .keeps accessed (.refl _) (fun _ held _ => .inr held) rfl rfl
  | expired held =>
    rw [← answered] at accessed
    have order : (store.remove key).recency.keys = store.recency.keys.filter (· ≠ key) :=
      coherent.recency.keys_remove key
    refine .keeps accessed ?_ (fun other inside live => .inr ?_) rfl rfl
    · rw [order]
      exact List.filter_sublist
    · rw [order, List.mem_filter, decide_eq_true_eq]
      refine ⟨inside, fun same => ?_⟩
      rw [same, ← answered] at live
      exact absurd live Bool.false_ne_true
  | live held =>
    rw [← answered] at accessed
    exact .renews accessed held (coherent.recency.keys_touch key) rfl rfl

/-- A request that inserts a slot. -/
theorem effect_insert (coherent : store.Coherent)
    (accessed : store.accessed? now request = some key) (slot : Slot) :
    Effect store request now (store.insert key slot now) := by
  by_cases held : key ∈ store.recency.keys
  · rw [coherent.insert_held held]
    exact .renews accessed held (coherent.recency.keys_touch key) rfl rfl
  · exact .brings accessed held rfl

/-- A request that uses a key and then inserts a slot under it. -/
theorem effect_write (coherent : store.Coherent)
    (accessed : store.accessed? now request = some key) (slot : Slot) :
    Effect store request now ((store.use key now).2.insert key slot now) := by
  have coherent' := coherent.use key now
  have usage := coherent.usage key now
  generalize store.use key now = used at usage coherent'
  cases usage with
  | absent outside => exact .brings accessed outside rfl
  | expired held =>
    have order : (store.remove key).recency.keys = store.recency.keys.filter (· ≠ key) :=
      coherent.recency.keys_remove key
    have outside : key ∉ (store.remove key).recency.keys := by
      rw [order]
      exact fun inside => absurd rfl (of_decide_eq_true (List.mem_filter.1 inside).2)
    -- What has expired under the key has gone, so there is room for the key again.
    have room : (store.remove key).slots.size < (store.remove key).capacity := by
      have shorter := length_filter_ne coherent.recency.nodup_keys held
      have size := coherent.size_eq
      have fits := coherent.fits
      have capacity : (store.remove key).capacity = store.capacity := rfl
      rw [coherent'.size_eq, order, capacity]
      omega
    have arrived := (coherent'.insert_new outside slot now).room room
    rw [order] at arrived
    exact .renews accessed held arrived.1 arrived.2 (capacity_insert _ _ _ _)
  | live held =>
    have order := coherent.recency.keys_touch key
    have inside : key ∈ (store.recency.touch key).keys := by
      rw [order]
      exact List.mem_append_right _ (List.mem_singleton_self key)
    rw [coherent'.insert_held inside]
    refine .renews accessed held ?_ rfl rfl
    rw [coherent'.recency.keys_touch, order]
    simp [List.filter_filter]

/-- A key that is live is held. -/
theorem mem_keys_of_find? (coherent : store.Coherent) {slot : Slot}
    (live : store.find? key now = some slot) : key ∈ store.recency.keys := by
  rw [coherent.mem_keys, (Option.filter_eq_some_iff.1 live).1]
  rfl

/-- A deletion of one key. -/
theorem effect_delete (coherent : store.Coherent) (key : String) (now : Millis) :
    Effect store (.delete [key]) now (store.delete [key] now).2 := by
  have spared : ∀ {left : MemoryStore},
      left.recency.keys = store.recency.keys.filter (· ≠ key) →
      ∀ other ∈ store.recency.keys, (store.find? other now).isSome →
        (Request.delete [key]).Drops other ∨ other ∈ left.recency.keys := by
    intro left order other inside _
    rw [order, List.mem_filter, decide_eq_true_eq]
    by_cases same : other = key
    · exact .inl (List.mem_singleton.2 same)
    · exact .inr ⟨inside, same⟩
  have usage := coherent.usage key now
  rw [MemoryStore.delete]
  generalize store.use key now = used at usage
  cases usage with
  | absent outside => exact .keeps rfl (.refl _) (fun _ held _ => .inr held) rfl rfl
  | expired held =>
    have order : (store.remove key).recency.keys = store.recency.keys.filter (· ≠ key) :=
      coherent.recency.keys_remove key
    exact .keeps rfl (order ▸ List.filter_sublist) (spared order) rfl rfl
  | live held =>
    have touched := coherent.recency.touch key
    have order : ((store.recency.touch key).remove key).keys =
        store.recency.keys.filter (· ≠ key) := by
      rw [touched.keys_remove, coherent.recency.keys_touch]
      simp [List.filter_filter]
    exact .keeps rfl (order ▸ List.filter_sublist) (spared order) rfl rfl

/-- An addition to a counter. -/
theorem effect_increment (coherent : store.Coherent) (key : String) (amount : Int)
    (now : Millis) :
    Effect store (.increment key amount) now (store.increment key amount now).2 := by
  have accessed : store.accessed? now (.increment key amount) =
      if (store.find? key now).isSome || (addToCounter? 0 amount).isSome then some key
      else none := rfl
  cases addition : addition? (store.find? key now) amount with
  | none =>
    rw [(increment_refused addition).2]
    refine coherent.effect_use (accessed.trans ?_)
    cases found : store.find? key now with
    | none =>
      rw [found] at addition
      have overflows : addToCounter? 0 amount = none := Option.map_eq_none_iff.1 addition
      rw [overflows]
      rfl
    | some slot => rfl
  | some counted =>
    rw [increment_counted addition]
    refine coherent.effect_write (accessed.trans (if_pos ?_)) _
    cases found : store.find? key now with
    | none =>
      rw [found] at addition
      obtain ⟨sum, added, -⟩ := Option.map_eq_some_iff.1 addition
      rw [added]
      rfl
    | some slot => rfl

/-- An addition of a member to one key. -/
theorem effect_addMember (coherent : store.Coherent) (key member : String) (lifetime : Seconds)
    (now : Millis) :
    Effect store (.addMember [key] member lifetime) now
      (store.addMember [key] member lifetime now).2 := by
  have answered := store.use_fst key now
  have written : Effect store (.addMember [key] member lifetime) now
      ((store.use key now).2.insert key
        (.set (.singleton member) (deadlineAfter now lifetime)) now) :=
    coherent.effect_write rfl _
  rw [MemoryStore.addMember]
  rcases used : store.use key now with ⟨_ | slot, left⟩
  · rw [used] at written
    exact written
  · rw [used] at answered
    have live : store.find? key now = some slot := answered.symm
    have held := coherent.mem_keys_of_find? live
    rw [use_of_live live] at used
    obtain ⟨-, rfl⟩ := Prod.mk.inj used
    cases slot with
    | value entry => exact .renews rfl held (coherent.recency.keys_touch key) rfl rfl
    | set members deadline => exact .renews rfl held (coherent.recency.keys_touch key) rfl rfl

/-- A request about one key does one of the three things. -/
theorem effect_answer [Libraries] (coherent : store.Coherent) (single : request.IsSingle)
    (now : Millis) :
    Effect store request now (store.answer request now).2 := by
  cases request with
  | ping => exact .keeps rfl (.refl _) (fun _ held _ => .inr held) rfl rfl
  | close => exact .keeps rfl (List.nil_sublist _) (fun _ _ _ => .inl trivial) rfl rfl
  | get key =>
    have left : (store.answer (.get key) now).2 = (store.use key now).2 := get_snd store key now
    rw [left]
    exact coherent.effect_use rfl
  | set key payload lifetime => exact coherent.effect_insert rfl _
  | delete keys =>
    obtain ⟨key, rfl⟩ := single
    exact coherent.effect_delete key now
  | probe key => exact coherent.effect_use rfl
  | increment key amount => exact coherent.effect_increment key amount now
  | scan cursor pattern count => exact .keeps rfl (.refl _) (fun _ held _ => .inr held) rfl rfl
  | getMany keys => exact absurd single id
  | setMany items lifetime => exact absurd single id
  | addMember keys member lifetime =>
    obtain ⟨key, rfl⟩ := single
    exact coherent.effect_addMember key member lifetime now
  | members key =>
    have left : (store.answer (.members key) now).2 = (store.use key now).2 :=
      members_snd store key now
    rw [left]
    exact coherent.effect_use rfl

end Coherent

end MemoryStore

end FailOpenCache
