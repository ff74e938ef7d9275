import FailOpenCache.Proofs.Payload
import FailOpenCache.Proofs.Store.Records

/-!
# What the fallback store holds

The view of the fallback store is the value and the record that are live under each key. An
operation changes it under the keys that it is given only, and what is live later is what is live
now, until its deadline passes. A counter is a value whose payload is a numeral; an absent one
counts from zero.
-/

namespace FailOpenCache

/-- An amount in the range of counters can be added to zero. -/
theorem addToCounter?_zero {amount : Int} (low : leastCounter ≤ amount)
    (high : amount ≤ greatestCounter) : addToCounter? 0 amount = some amount := by
  rw [addToCounter?, Int.zero_add, if_pos ⟨low, high⟩]

namespace FallbackStore

/-- The value that is live under a key. -/
def value? (store : FallbackStore) (key : String) (now : Millis) : Option Entry :=
  (store.entries.find? key).filter fun entry => !entry.isExpired now

/-- The record that is live under a key. -/
def record? (store : FallbackStore) (key : String) (now : Millis) : Option MemberRecord :=
  (store.sets.find? key).filter fun record => !record.isExpired now

/-- What is live later is live now, and its deadline has not passed by then. -/
theorem filter_later {α : Type} (deadline : α → Option Millis) {now later : Millis}
    (ordered : now ≤ later) (held : Option α) :
    held.filter (fun value => !hasPassed (deadline value) later) =
      (held.filter fun value => !hasPassed (deadline value) now).filter
        fun value => !hasPassed (deadline value) later := by
  cases held with
  | none => rfl
  | some value =>
    by_cases passed : hasPassed (deadline value) now = true
    · have stays := hasPassed_mono ordered passed
      simp [Option.filter, passed, stays]
    · simp [Option.filter, passed]

/-- A value that is live later is live now, and has not expired by then. -/
theorem value?_later {now later : Millis} (ordered : now ≤ later) (store : FallbackStore)
    (key : String) :
    store.value? key later =
      (store.value? key now).filter fun entry => !entry.isExpired later :=
  filter_later Entry.deadline ordered _

/-- A record that is live later is live now, and has not expired by then. -/
theorem record?_later {now later : Millis} (ordered : now ≤ later) (store : FallbackStore)
    (key : String) :
    store.record? key later =
      (store.record? key now).filter fun record => !record.isExpired later :=
  filter_later MemberRecord.deadline ordered _

/-- A read answers the payload of a live value. -/
theorem get_fst (store : FallbackStore) (key : String) (now : Millis) :
    (store.get key now).1 = (store.value? key now).map Entry.payload := by
  rw [get, value?]
  cases store.entries.find? key with
  | none => rfl
  | some entry => cases expired : entry.isExpired now <;> simp [Option.filter, expired]

/-- A read settles the value under its key. -/
theorem entries_get (store : FallbackStore) (key : String) (now : Millis) :
    (store.get key now).2.entries = store.entries.settle (fun entry => entry.isExpired now) key ∧
      (store.get key now).2.sets = store.sets := by
  rw [get, Table.settle]
  cases store.entries.find? key with
  | none => exact ⟨rfl, rfl⟩
  | some entry =>
    dsimp only
    split
    · exact ⟨rfl, rfl⟩
    · exact ⟨rfl, rfl⟩

/-- A read changes nothing of what is live. -/
theorem get_snd (store : FallbackStore) (key other : String) (now : Millis) :
    (store.get key now).2.value? other now = store.value? other now ∧
      (store.get key now).2.record? other now = store.record? other now := by
  obtain ⟨entries, sets⟩ := store.entries_get key now
  constructor
  · rw [value?, entries]
    exact Table.filter_settle _ _ _ _
  · rw [record?, sets, record?]

/-- A write leaves its entry under its key, unless that has expired at once. -/
theorem value?_set (store : FallbackStore) (key other payload : String) (lifetime : Seconds)
    (now : Millis) :
    (store.set key payload lifetime now).value? other now =
      if other = key then
        (some (Entry.write payload lifetime now)).filter fun entry => !entry.isExpired now
      else store.value? other now := by
  unfold value? set
  rw [Table.find?_put]
  split <;> rfl

/-- Dropping a key leaves nothing under it and touches no other. -/
theorem find?_remove (store : FallbackStore) (key other : String) (now : Millis) :
    (store.remove key).value? other now =
        (if other = key then none else store.value? other now) ∧
      (store.remove key).record? other now =
        (if other = key then none else store.record? other now) := by
  unfold value? record? remove
  rw [Table.find?_erase, Table.find?_erase]
  constructor
  · split <;> rfl
  · split <;> rfl

/-- A deletion leaves nothing under its keys and touches no other. -/
theorem find?_delete (keys : List String) (store : FallbackStore) (other : String)
    (now : Millis) :
    (store.delete keys).2.value? other now =
        (if other ∈ keys then none else store.value? other now) ∧
      (store.delete keys).2.record? other now =
        (if other ∈ keys then none else store.record? other now) := by
  induction keys generalizing store with
  | nil => simp [delete]
  | cons key rest ih =>
    obtain ⟨value, record⟩ := ih (store.remove key)
    obtain ⟨value', record'⟩ := find?_remove store key other now
    rw [delete]
    dsimp only
    rw [value, record, value', record']
    by_cases here : other = key
    · simp [here]
    · simp [here]

/-- A use of a record answers it if it is live. -/
theorem useSet_fst (store : FallbackStore) (key : String) (now : Millis) :
    (store.useSet key now).1 = store.record? key now := by
  rw [useSet, record?]
  cases store.sets.find? key with
  | none => rfl
  | some record => cases expired : record.isExpired now <;> simp [Option.filter, expired]

/-- A use of a record settles the record under its key. -/
theorem sets_useSet (store : FallbackStore) (key : String) (now : Millis) :
    (store.useSet key now).2.sets = store.sets.settle (fun record => record.isExpired now) key ∧
      (store.useSet key now).2.entries = store.entries := by
  rw [useSet, Table.settle]
  cases store.sets.find? key with
  | none => exact ⟨rfl, rfl⟩
  | some record =>
    dsimp only
    split
    · exact ⟨rfl, rfl⟩
    · exact ⟨rfl, rfl⟩

/-- A use of a record changes nothing of what is live. -/
theorem useSet_snd (store : FallbackStore) (key other : String) (now : Millis) :
    (store.useSet key now).2.value? other now = store.value? other now ∧
      (store.useSet key now).2.record? other now = store.record? other now := by
  obtain ⟨sets, entries⟩ := store.sets_useSet key now
  constructor
  · rw [value?, entries, value?]
  · rw [record?, sets]
    exact Table.filter_settle _ _ _ _

/-- The members of a live record are answered, and none otherwise. -/
theorem members_fst (store : FallbackStore) (key : String) (now : Millis) :
    (store.members key now).1 =
      ((store.record? key now).map fun record => record.members.names).getD [] := by
  rw [members, ← useSet_fst]
  dsimp only
  cases (store.useSet key now).1 <;> rfl

/-- Adding a member puts the record with the member in the place of the live one. -/
theorem sets_addMember (store : FallbackStore) (key member : String) (lifetime : Seconds)
    (now : Millis) :
    (store.addMember key member lifetime now).sets =
      store.sets.put key (MemberRecord.added member lifetime now (store.record? key now)) := by
  have anew : (⟨NameSet.empty.insert member,
      if lifetime = 0 then none else deadlineAfter now lifetime⟩ : MemberRecord) =
        MemberRecord.added member lifetime now none := by
    rw [MemberRecord.added, deadlineAfter]
    split <;> rfl
  rw [addMember, record?]
  cases store.sets.find? key with
  | none => exact congrArg (store.sets.put key) anew
  | some held =>
    cases expired : held.isExpired now with
    | true =>
      simp only [Option.filter, expired, Bool.not_true, ↓reduceIte, Bool.false_eq_true]
      exact congrArg (store.sets.put key) anew
    | false =>
      simp only [Option.filter, expired, Bool.not_false, Bool.false_eq_true, ↓reduceIte]
      rfl

/-- Adding a member renews the record of its key. -/
theorem record?_addMember (store : FallbackStore) (key other member : String)
    (lifetime : Seconds) (now : Millis) :
    (store.addMember key member lifetime now).record? other now =
      if other = key then MemberRecord.renewed member lifetime now (store.record? key now)
      else store.record? other now := by
  rw [record?, sets_addMember, Table.find?_put]
  split <;> rfl

/-- A record that is live has not expired. -/
theorem isExpired_of_record? {store : FallbackStore} {key : String} {now : Millis} :
    ∀ held ∈ store.record? key now, held.isExpired now = false := by
  intro held found
  have live := (Option.filter_eq_some_iff.1 found).2
  simpa using live

/-- Adding a member to several records renews them and touches neither others nor values. -/
theorem foldl_addMember (keys : List String) (store : FallbackStore) (member : String)
    (lifetime : Seconds) (now : Millis) (other : String) :
    (keys.foldl (fun recorded key => recorded.addMember key member lifetime now) store).value?
        other now = store.value? other now ∧
      (keys.foldl (fun recorded key => recorded.addMember key member lifetime now) store).record?
          other now =
        if reaches (fun _ => true) other keys then
          MemberRecord.renewed member lifetime now (store.record? other now)
        else store.record? other now := by
  induction keys generalizing store with
  | nil => exact ⟨rfl, rfl⟩
  | cons key rest ih =>
    obtain ⟨value, record⟩ := ih (store.addMember key member lifetime now)
    rw [List.foldl_cons]
    refine ⟨value, ?_⟩
    rw [record, record?_addMember, reaches, Bool.true_and]
    by_cases same : other = key
    · subst same
      rw [if_pos rfl, MemberRecord.renewed_renewed isExpired_of_record?, BEq.rfl, Bool.true_or,
        ite_self, if_pos rfl]
    · have differs : (key == other) = false := by
        rw [beq_eq_false_iff_ne]
        exact Ne.symm same
      rw [if_neg same, differs, Bool.false_or]

/-- The counter under a key is the live value, or one at zero that has no deadline. -/
theorem counter_eq (store : FallbackStore) (key : String) (now : Millis) :
    store.counter key now = (store.value? key now).getD ⟨"0", none⟩ := by
  rw [counter, value?]
  cases store.entries.find? key with
  | none => rfl
  | some entry => cases expired : entry.isExpired now <;> simp [Option.filter, expired]

/-- Putting an entry leaves it under its key, unless it has expired at once. -/
theorem value?_put (store : FallbackStore) (key other : String) (entry : Entry) (now : Millis) :
    value? { store with entries := store.entries.put key entry } other now =
      if other = key then (some entry).filter fun entry => !entry.isExpired now
      else store.value? other now := by
  unfold value?
  rw [Table.find?_put]
  split <;> rfl

/-- A value that is live has not expired. -/
theorem isExpired_of_value? {store : FallbackStore} {key : String} {now : Millis} {entry : Entry}
    (found : store.value? key now = some entry) : entry.isExpired now = false := by
  have live := (Option.filter_eq_some_iff.1 found).2
  simpa using live

/-- A probe answers whether a value or a record is live. -/
theorem probe_fst (store : FallbackStore) (key : String) (now : Millis) :
    (store.probe key now).1 =
      ((store.value? key now).isSome || (store.record? key now).isSome) := by
  have value := store.get_fst key now
  have record := (store.get_snd key key now).2
  rw [probe]
  rcases shape : store.get key now with ⟨_ | payload, read⟩
  · rw [shape] at value record
    rw [← record, Option.map_eq_none_iff.1 value.symm]
    exact congrArg Option.isSome (read.useSet_fst key now)
  · rw [shape] at value
    have live : (store.value? key now).isSome = true := by
      rw [← Option.isSome_map, ← value]
      rfl
    rw [live]
    rfl

/-- A probe changes nothing of what is live. -/
theorem probe_snd (store : FallbackStore) (key other : String) (now : Millis) :
    (store.probe key now).2.value? other now = store.value? other now ∧
      (store.probe key now).2.record? other now = store.record? other now := by
  have same := store.get_snd key other now
  rw [probe]
  rcases shape : store.get key now with ⟨_ | payload, read⟩
  · rw [shape] at same
    obtain ⟨value, record⟩ := read.useSet_snd key other now
    exact ⟨value.trans same.1, record.trans same.2⟩
  · rw [shape] at same
    exact same

open MemoryStore (addition?)

/-- An addition that comes to a sum answers it and puts its entry. -/
theorem increment_counted {store : FallbackStore} {key : String} {amount sum : Int} {entry : Entry}
    {now : Millis}
    (counted : addition? ((store.value? key now).map Slot.value) amount = some (sum, entry)) :
    store.increment key amount now =
      (some sum, { store with entries := store.entries.put key entry }) := by
  rw [increment, counter_eq]
  rcases found : store.value? key now with _ | held
  · rw [found] at counted
    have zero : readCounter? "0" = some 0 := by decide
    obtain ⟨total, added, same⟩ := Option.map_eq_some_iff.1 counted
    obtain ⟨rfl, rfl⟩ := Prod.mk.inj same
    simp only [Option.getD_none, zero, Option.bind_some, added]
  · rw [found] at counted
    obtain ⟨count, current, rest⟩ := Option.bind_eq_some_iff.1 counted
    obtain ⟨total, added, same⟩ := Option.map_eq_some_iff.1 rest
    obtain ⟨rfl, rfl⟩ := Prod.mk.inj same
    simp only [Option.getD_some, current, Option.bind_some, added]

/-- An addition that comes to nothing answers nothing and puts the live entry back. -/
theorem increment_refused {store : FallbackStore} {key : String} {amount : Int} {entry : Entry}
    {now : Millis} (found : store.value? key now = some entry)
    (refused : addition? (some (.value entry)) amount = none) :
    store.increment key amount now =
      (none, { store with entries := store.entries.put key entry }) := by
  rw [increment, counter_eq, found, Option.getD_some]
  dsimp only [addition?] at refused ⊢
  cases current : readCounter? entry.payload with
  | none => rfl
  | some count =>
    rw [current] at refused
    have overflows : addToCounter? count amount = none := Option.map_eq_none_iff.1 refused
    rw [Option.bind_some, overflows]

/-- The keys like a pattern are those that match it and under which something is live. -/
theorem mem_keysLike {store : FallbackStore} {pattern : Pattern} {now : Millis} {key : String} :
    key ∈ store.keysLike pattern now ↔
      ((store.value? key now).isSome || (store.record? key now).isSome) = true ∧
        pattern.matchesKey key = true := by
  rw [keysLike, List.mem_filter, List.mem_append, Table.mem_names_iff, Table.mem_names_iff,
    Table.find?_filter, Table.find?_filter, Bool.or_eq_true]
  rfl

/-- The keys like a pattern are distinct, if no key has a value and a record. -/
theorem nodup_keysLike {store : FallbackStore} {now : Millis} (pattern : Pattern)
    (apart : ∀ key, (store.value? key now).isSome → store.record? key now = none) :
    (store.keysLike pattern now).Nodup := by
  refine List.filter_sublist.nodup (List.nodup_append.2 ⟨Table.distinct _, Table.distinct _, ?_⟩)
  intro key value other record same
  subst same
  rw [Table.mem_names_iff, Table.find?_filter] at value record
  have none : store.record? key now = .none := apart key value
  rw [record?] at none
  rw [none] at record
  exact absurd record Bool.false_ne_true

/-- A deletion of distinct keys under which something is live counts them all. -/
theorem delete_live {store : FallbackStore} {keys : List String} {now : Millis}
    (distinct : keys.Nodup)
    (live : ∀ key ∈ keys, ((store.value? key now).isSome || (store.record? key now).isSome) = true) :
    (store.delete keys).1 = keys.length := by
  induction keys generalizing store with
  | nil => rfl
  | cons key rest ih =>
    obtain ⟨once, distinct'⟩ := List.nodup_cons.1 distinct
    have held : store.holds key = true := by
      have found := live key List.mem_cons_self
      rw [holds, Table.contains, Table.contains, Bool.or_eq_true]
      rw [Bool.or_eq_true] at found
      exact found.imp (Option.isSome_of_isSome_filter _ _) (Option.isSome_of_isSome_filter _ _)
    have rest' := @ih (store.remove key) distinct' fun other inside => by
      have differs : other ≠ key := fun same => once (same ▸ inside)
      obtain ⟨value, record⟩ := store.find?_remove key other now
      rw [value, record, if_neg differs, if_neg differs]
      exact live other (List.mem_cons_of_mem _ inside)
    rw [delete]
    dsimp only
    rw [if_pos held, rest', List.length_cons]

/-- A purge changes nothing of what is live. -/
theorem purge_snd (store : FallbackStore) (key : String) (now : Millis) :
    (store.purge now).2.value? key now = store.value? key now ∧
      (store.purge now).2.record? key now = store.record? key now := by
  constructor
  · simp only [purge, value?, Table.find?_filter, Option.filter_filter, Bool.and_self]
  · simp only [purge, record?, Table.find?_filter, Option.filter_filter, Bool.and_self]

end FallbackStore

end FailOpenCache
