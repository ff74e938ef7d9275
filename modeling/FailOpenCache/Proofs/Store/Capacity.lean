import FailOpenCache.Libraries.Plain
import FailOpenCache.Proofs.Store.Effects
import Mathlib.Data.List.Dedup

/-!
# Room for so many keys

The store in memory never holds more keys than it has room for, and its order of use is the order in
which the keys that it holds were accessed last. Both are kept by every request about one key, and
so by every run, taken to such pieces. What gives way to a key that comes to a full store is told by
the accesses alone: when nothing has expired it is the key whose last access is the oldest.
-/

namespace FailOpenCache

/-- A part of a list without repetition is told by its members. -/
theorem eq_filter_of_sublist {part whole : List String} (inside : part.Sublist whole)
    (distinct : whole.Nodup) : part = whole.filter fun key => key ∈ part := by
  have self : part.filter (fun key => key ∈ part) = part :=
    List.filter_eq_self.2 fun key held => decide_eq_true held
  have within : part.Sublist (whole.filter fun key => key ∈ part) := by
    have filtered := inside.filter fun key => key ∈ part
    rwa [self] at filtered
  have same : part.Perm (whole.filter fun key => key ∈ part) := by
    refine (List.perm_ext_iff_of_nodup (inside.nodup distinct) (distinct.filter _)).2 fun key => ?_
    rw [List.mem_filter, decide_eq_true_eq]
    exact ⟨fun held => ⟨inside.subset held, held⟩, And.right⟩
  exact within.eq_of_length same.length_eq

/-- The last one accessed is the last in the order of last accesses. -/
theorem dedup_concat (accesses : List String) (key : String) :
    (accesses ++ [key]).dedup = accesses.dedup.filter (· ≠ key) ++ [key] := by
  induction accesses with
  | nil => rfl
  | cons first rest ih =>
    rw [List.cons_append]
    by_cases again : first ∈ rest
    · rw [List.dedup_cons_of_mem (List.mem_append_left _ again), List.dedup_cons_of_mem again, ih]
    · rw [List.dedup_cons_of_notMem again]
      by_cases same : first = key
      · have later : first ∈ rest ++ [key] := by simp [same]
        rw [List.dedup_cons_of_mem later, ih]
        simp [same]
      · have never : first ∉ rest ++ [key] := by simp [again, same]
        rw [List.dedup_cons_of_notMem never, ih]
        simp [same]

namespace MemoryStore

variable {store left : MemoryStore} {request : Request} {now : Millis}

/-- The keys that requests about one key each access, in order. -/
def accesses [Libraries] (store : MemoryStore) : List (Millis × Request) → List String
  | [] => []
  | (now, request) :: rest =>
    (store.accessed? now request).toList ++ (store.answer request now).2.accesses rest

/-- A coherent store whose order of use is the order in which the keys that it holds were accessed
last, the oldest access first. -/
structure Follows (store : MemoryStore) (accesses : List String) : Prop where
  /-- The store is coherent. -/
  coherent : store.Coherent
  /-- The keys stand in the order of their last accesses. -/
  order : store.recency.keys = accesses.dedup.filter fun key => store.slots.contains key

/-- A new store follows no accesses. -/
theorem follows_ofCapacity (capacity : Nat) : (ofCapacity capacity).Follows [] :=
  ⟨.ofCapacity capacity, rfl⟩

/-- A request about one key accesses a key at most, which is the last one then. -/
theorem Effect.kept (effect : Effect store request now left) (coherent : store.Coherent) :
    ∃ kept, kept.Sublist store.recency.keys ∧
      left.recency.keys = kept ++ (store.accessed? now request).toList := by
  cases effect with
  | keeps accessed fewer spared evictions capacity =>
    exact ⟨left.recency.keys, fewer, by simp [accessed]⟩
  | @renews key accessed held order evictions capacity =>
    exact ⟨store.recency.keys.filter (· ≠ key), List.filter_sublist, by simp [accessed, order]⟩
  | brings accessed outside inserted =>
    obtain ⟨kept, part, order⟩ := (inserted ▸ coherent.insert_new outside _ now).kept coherent.fits
    exact ⟨kept, part, by simp [accessed, order]⟩

/-- A request about one key is followed. -/
theorem Follows.answer [Libraries] {accesses : List String} (follows : store.Follows accesses)
    (single : request.IsSingle) (now : Millis) :
    (store.answer request now).2.Follows (accesses ++ (store.accessed? now request).toList) := by
  have coherent := follows.coherent.answer request now
  have effect := follows.coherent.effect_answer single now
  obtain ⟨kept, part, order⟩ := effect.kept follows.coherent
  have distinct := coherent.recency.nodup_keys
  have held := coherent.mem_keys
  rw [order] at distinct held
  refine ⟨coherent, order.trans ?_⟩
  have inside : kept.Sublist accesses.dedup := by
    rw [follows.order] at part
    exact part.trans List.filter_sublist
  -- The keys that stay are a part of the last accesses, so it is enough to compare members.
  have told := eq_filter_of_sublist inside (List.nodup_dedup accesses)
  cases accessed : store.accessed? now request with
  | none =>
    rw [accessed] at held
    simp only [Option.toList_none, List.append_nil] at held ⊢
    refine told.trans (List.filter_congr fun key _ => ?_)
    rw [Bool.eq_iff_iff, decide_eq_true_eq]
    exact held key
  | some key =>
    rw [accessed] at held distinct
    simp only [Option.toList_some, List.mem_append, List.mem_singleton] at held distinct ⊢
    have last : (store.answer request now).2.slots.contains key = true := (held key).1 (.inr rfl)
    have once : key ∉ kept := by
      intro again
      exact (List.nodup_append.1 distinct).2.2 key again key (List.mem_singleton_self key) rfl
    rw [dedup_concat, List.filter_append, List.filter_cons_of_pos last, List.filter_filter]
    refine congrArg (· ++ [key]) (told.trans (List.filter_congr fun other _ => ?_))
    rw [Bool.eq_iff_iff, decide_eq_true_eq, Bool.and_eq_true, decide_eq_true_eq]
    constructor
    · intro stays
      exact ⟨(held other).1 (.inl stays), fun same => once (same ▸ stays)⟩
    · rintro ⟨contained, differs⟩
      exact ((held other).2 contained).resolve_right differs

/-- Requests about one key each are followed. -/
theorem Follows.after [Libraries] {accesses : List String} (follows : store.Follows accesses)
    {calls : List (Millis × Request)} (single : ∀ call ∈ calls, call.2.IsSingle) :
    (store.after calls).Follows (accesses ++ store.accesses calls) := by
  induction calls generalizing store accesses with
  | nil =>
    rw [MemoryStore.accesses, List.append_nil]
    exact follows
  | cons call rest ih =>
    obtain ⟨instant, request⟩ := call
    have first := follows.answer (single _ List.mem_cons_self) instant
    have later := ih first fun call held => single call (List.mem_cons_of_mem _ held)
    rw [MemoryStore.accesses, ← List.append_assoc]
    exact later

/-- Requests about one key each leave the room as it is. -/
theorem Coherent.capacity_after [Libraries] (coherent : store.Coherent)
    {calls : List (Millis × Request)}
    (single : ∀ call ∈ calls, call.2.IsSingle) :
    (store.after calls).capacity = store.capacity := by
  induction calls generalizing store with
  | nil => rfl
  | cons call rest ih =>
    obtain ⟨instant, request⟩ := call
    have first : (store.answer request instant).2.capacity = store.capacity :=
      (coherent.effect_answer (single _ List.mem_cons_self) instant).capacity_eq
    rw [after_cons, ih (coherent.answer request instant) fun call held =>
      single call (List.mem_cons_of_mem _ held), first]

/-- What a request does to the keys that a store holds, when it is full and when it is not. -/
structure KeepsRoom (store left : MemoryStore) (request : Request) (now : Millis) : Prop where
  /-- A key comes to the store: it takes room that is there, or the room of what has expired, or
  else that of the key whose last use is the oldest. -/
  arrival : ∀ key, store.slots.contains key = false → left.slots.contains key = true →
    Arrival store left key now
  /-- No key comes to the store: nothing gives way, and no live key goes unless on purpose. -/
  stays : (∀ key, left.slots.contains key = true → store.slots.contains key = true) →
    left.evictions = store.evictions ∧
      ∀ key, (store.find? key now).isSome → request.Drops key ∨ left.slots.contains key = true

/-- Where no key comes to the store, only what stays is in question. -/
theorem keepsRoom_of_subset (coherent : store.Coherent) (coherent' : left.Coherent)
    (fewer : ∀ key ∈ left.recency.keys, key ∈ store.recency.keys)
    (evictions : left.evictions = store.evictions)
    (spared : ∀ key ∈ store.recency.keys, (store.find? key now).isSome →
      request.Drops key ∨ key ∈ left.recency.keys) : KeepsRoom store left request now := by
  refine ⟨fun key absent present => ?_, fun _ => ⟨evictions, fun key live => ?_⟩⟩
  · have inside : store.slots.contains key = true :=
      (coherent.mem_keys key).1 (fewer key ((coherent'.mem_keys key).2 present))
    rw [absent] at inside
    exact absurd inside Bool.false_ne_true
  · obtain ⟨slot, found⟩ := Option.isSome_iff_exists.1 live
    have stays := spared key (coherent.mem_keys_of_find? found) live
    exact stays.imp_right (coherent'.mem_keys key).1

/-- Where one key comes to the store as it should, it is the only one. -/
theorem keepsRoom_of_arrival (coherent : store.Coherent) (coherent' : left.Coherent)
    {key : String} (outside : key ∉ store.recency.keys) (arrival : Arrival store left key now) :
    KeepsRoom store left request now := by
  obtain ⟨kept, part, order⟩ := arrival.kept coherent.fits
  have members : ∀ other, other ∈ left.recency.keys ↔ other ∈ kept ∨ other = key := by
    intro other
    rw [order, List.mem_append, List.mem_singleton]
  refine ⟨fun other absent present => ?_, fun fewer => ?_⟩
  · rcases (members other).1 ((coherent'.mem_keys other).2 present) with before | rfl
    · have inside : store.slots.contains other = true :=
        (coherent.mem_keys other).1 (part.subset before)
      rw [absent] at inside
      exact absurd inside Bool.false_ne_true
    · exact arrival
  · have last : left.slots.contains key = true :=
      (coherent'.mem_keys key).1 ((members key).2 (.inr rfl))
    exact absurd ((coherent.mem_keys key).2 (fewer key last)) outside

/-- What a request about one key does keeps room. -/
theorem Effect.keepsRoom (effect : Effect store request now left) (coherent : store.Coherent)
    (coherent' : left.Coherent) : KeepsRoom store left request now := by
  cases effect with
  | keeps accessed fewer spared evictions capacity =>
    exact keepsRoom_of_subset coherent coherent' (fun _ inside => fewer.subset inside) evictions
      spared
  | @renews key accessed held order evictions capacity =>
    have same : ∀ other, other ∈ left.recency.keys ↔ other ∈ store.recency.keys := by
      intro other
      rw [order, List.mem_append, List.mem_filter, List.mem_singleton, decide_eq_true_eq]
      by_cases here : other = key
      · simp [here, held]
      · simp [here]
    exact keepsRoom_of_subset coherent coherent' (fun other => (same other).1) evictions
      fun other there _ => .inr ((same other).2 there)
  | @brings key slot accessed outside inserted =>
    have arrival : Arrival store left key now := inserted ▸ coherent.insert_new outside slot now
    exact keepsRoom_of_arrival coherent coherent' outside arrival

/-- A store for so many keys that is in order behind accesses. -/
structure InOrder (store : MemoryStore) (maxEntries : Nat) (accesses : List String) : Prop where
  /-- The room is for so many keys, and for one at least. -/
  capacity : store.capacity = max maxEntries 1
  /-- There are no more keys than that. -/
  size : store.size ≤ max maxEntries 1
  /-- The order of use holds exactly the keys of the slots. -/
  tracked : store.Tracked
  /-- It holds each of them once. -/
  distinct : store.recency.keys.Nodup
  /-- The keys stand in the order of their last accesses. -/
  order : store.recency.keys = accesses.dedup.filter fun key => store.slots.contains key

/-- In every state of every run of a store in memory, taken to requests about one key each, there
are no more keys than room, the order of use holds exactly the keys of the slots, each once, and
they stand in the order of their last accesses. And whatever request comes next, a key that it
brings to a full store makes all keys go that have expired, and if there are none it makes one key
give way, the one whose last access is the oldest; otherwise nothing gives way. -/
theorem keepsRoom_pieces [Libraries] (maxEntries : Nat) (calls : List (Millis × Request)) :
    (ofCapacity maxEntries).after ((ofCapacity maxEntries).pieces calls) =
        (ofCapacity maxEntries).after calls ∧
      ∀ before later, (ofCapacity maxEntries).pieces calls = before ++ later →
        ((ofCapacity maxEntries).after before).InOrder maxEntries
            ((ofCapacity maxEntries).accesses before) ∧
          ∀ now request rest, later = (now, request) :: rest →
            KeepsRoom ((ofCapacity maxEntries).after before)
              (((ofCapacity maxEntries).after before).answer request now).2 request now := by
  refine ⟨after_pieces _ calls, fun before later split => ?_⟩
  have single : ∀ call ∈ before ++ later, call.2.IsSingle := by
    intro call held
    rw [← split] at held
    exact isSingle_of_mem_pieces held
  have single' : ∀ call ∈ before, call.2.IsSingle := fun call held =>
    single call (List.mem_append_left _ held)
  have capacity : ((ofCapacity maxEntries).after before).capacity = max maxEntries 1 :=
    (Coherent.ofCapacity maxEntries).capacity_after single'
  have follows := (follows_ofCapacity maxEntries).after single'
  have coherent := follows.coherent
  have size : ((ofCapacity maxEntries).after before).size ≤ max maxEntries 1 :=
    capacity ▸ coherent.fits
  constructor
  · exact ⟨capacity, size, coherent.toTracked, coherent.recency.nodup_keys, follows.order⟩
  · rintro now request rest rfl
    have next : request.IsSingle :=
      single (now, request) (List.mem_append_right _ List.mem_cons_self)
    exact (coherent.effect_answer next now).keepsRoom coherent (coherent.answer request now)

/-- Two keys fill the store, the first is read again, and two more are written at once. -/
def crossingCalls : List (Millis × Request) :=
  [(0, .set "a" "1" 0), (0, .set "b" "2" 1), (0, .getMany ["x", "a"]),
    (999, .setMany [("c", "3"), ("d", "4")] 0)]

open scoped Libraries.Plain

/-- The first key written gives way second, for it was read later than the other one. -/
theorem keepsRoom_pieces_crossing :
    let before : List (Millis × Request) :=
      [(0, .set "a" "1" 0), (0, .set "b" "2" 1), (0, .get "x"), (0, .get "a")]
    let store := (ofCapacity 2).after before
    let left := (store.answer (.set "c" "3" 0) 999).2
    store.InOrder 2 ["a", "b", "a"] ∧ KeepsRoom store left (.set "c" "3" 0) 999 ∧
      store.recency.keys = ["b", "a"] ∧ left.recency.keys = ["a", "c"] ∧ left.evictions = 1 ∧
      ((ofCapacity 2).after crossingCalls).recency.keys = ["c", "d"] := by
  have split : (ofCapacity 2).pieces crossingCalls =
      [(0, .set "a" "1" 0), (0, .set "b" "2" 1), (0, .get "x"), (0, .get "a")] ++
        [(999, .set "c" "3" 0), (999, .set "d" "4" 0)] := by decide
  obtain ⟨inOrder, keeps⟩ := (keepsRoom_pieces 2 crossingCalls).2 _ _ split
  exact ⟨inOrder, keeps 999 _ _ rfl, by decide, by decide, by decide, by decide⟩

end MemoryStore

end FailOpenCache
