import FailOpenCache.Cache.Batches
import FailOpenCache.Key
import FailOpenCache.Proofs.Store.EagerAnswers
import FailOpenCache.Proofs.Store.Fallback

/-!
# The store in memory and the fallback store as twins

The two stores are built differently: one has a single namespace in which a key holds a value or a
set, the other keeps values and sets apart. They are twins when the same values and the same records
are live in both, values only under keys that are not those of tag records, and records only under
those that are. Every operation on keys of the right kind is answered alike by twins and leaves
twins, as long as no key gives way to another.
-/

namespace FailOpenCache

/-- A key is that of the record of a tag. -/
def Key.IsRecord (key : String) : Prop := ∃ tag, key = Key.ofTag tag

/-- A key is that of a record if it starts like one. -/
theorem Key.isRecord_iff (key : String) :
    Key.IsRecord key ↔ (Key.ofTag "").toList <+: key.toList := by
  constructor
  · rintro ⟨tag, rfl⟩
    exact ⟨tag.toList, by simp [Key.ofTag]⟩
  · rintro ⟨tag, same⟩
    refine ⟨String.ofList tag, String.toList_inj.1 ?_⟩
    rw [← same]
    simp [Key.ofTag]

instance : DecidablePred Key.IsRecord := fun key => decidable_of_iff _ (Key.isRecord_iff key).symm

/-- The same values and records are live in the store in memory and in the fallback store, each
under keys of its kind. -/
structure Twins (memory : MemoryStore) (fallback : FallbackStore) (now : Millis) : Prop where
  /-- The store in memory is coherent. -/
  coherent : memory.Coherent
  /-- The same values are live. -/
  value : ∀ key, memory.value? key now = fallback.value? key now
  /-- The same records are live. -/
  record : ∀ key, memory.record? key now = fallback.record? key now
  /-- No value is live under the key of a record. -/
  bare : ∀ key, Key.IsRecord key → fallback.value? key now = none
  /-- No record is live under another key. -/
  plain : ∀ key, ¬ Key.IsRecord key → fallback.record? key now = none

/-- What a request to the store in memory comes to, beside what an operation on its twin comes to:
evictions are counted, and without one the answers agree and twins are left. -/
structure Beside {α β : Type} (agree : Option α → β → Prop) (now : Millis) (memory : MemoryStore)
    (asked : Except StoreError α × MemoryStore) (served : β × FallbackStore) : Prop where
  /-- Evictions are counted. -/
  counted : memory.evictions ≤ asked.2.evictions
  /-- Without an eviction the answers agree and twins are left. -/
  twins : asked.2.evictions = memory.evictions →
    agree asked.1.toOption served.1 ∧ Twins asked.2 served.2 now

namespace Twins

variable {memory : MemoryStore} {fallback : FallbackStore} {now : Millis} {key : String}

/-- Under a key that is not that of a record the store in memory holds the live value. -/
theorem find?_plain (twins : Twins memory fallback now) (plain : ¬ Key.IsRecord key) :
    memory.find? key now = (fallback.value? key now).map Slot.value := by
  have value := twins.value key
  have record := (twins.record key).trans (twins.plain key plain)
  rw [← value]
  rw [MemoryStore.value?, MemoryStore.record?] at *
  rcases found : memory.find? key now with _ | slot
  · rfl
  · cases slot with
    | value entry => rfl
    | set members deadline =>
      rw [found] at record
      exact absurd record (by simp [Slot.record?])

/-- The store in memory holds something under a key exactly when a value or a record is live. -/
theorem isSome_find? (twins : Twins memory fallback now) (key : String) :
    (memory.find? key now).isSome =
      ((fallback.value? key now).isSome || (fallback.record? key now).isSome) := by
  rw [← twins.value, ← twins.record, MemoryStore.isSome_find?]

/-- A key accepts members if it is that of a record. -/
theorem accepts (twins : Twins memory fallback now) (isRecord : Key.IsRecord key) :
    memory.accepts now key = true := by
  rw [MemoryStore.accepts, twins.value, twins.bare key isRecord]
  rfl

/-- New stores are twins. -/
theorem empty (capacity : Nat) (now : Millis) :
    Twins (.ofCapacity capacity) .empty now where
  coherent := .ofCapacity capacity
  value _ := rfl
  record _ := rfl
  bare _ _ := rfl
  plain _ _ := rfl

/-- Twins are twins later. -/
theorem later (twins : Twins memory fallback now) {instant : Millis} (ordered : now ≤ instant) :
    Twins memory fallback instant where
  coherent := twins.coherent
  value key := by
    rw [MemoryStore.value?_later ordered, FallbackStore.value?_later ordered, twins.value]
  record key := by
    rw [MemoryStore.record?_later ordered, FallbackStore.record?_later ordered, twins.record]
  bare key isRecord := by
    rw [FallbackStore.value?_later ordered, twins.bare key isRecord]
    rfl
  plain key plain := by
    rw [FallbackStore.record?_later ordered, twins.plain key plain]
    rfl

/-- Stores that hold what twins hold are twins. -/
theorem same (twins : Twins memory fallback now) {memory' : MemoryStore}
    {fallback' : FallbackStore} (coherent : memory'.Coherent)
    (found : ∀ key, memory'.find? key now = memory.find? key now)
    (held : ∀ key, fallback'.value? key now = fallback.value? key now ∧
      fallback'.record? key now = fallback.record? key now) : Twins memory' fallback' now where
  coherent := coherent
  value key := by rw [(held key).1, ← twins.value, MemoryStore.value?, MemoryStore.value?, found]
  record key := by
    rw [(held key).2, ← twins.record, MemoryStore.record?, MemoryStore.record?, found]
  bare key isRecord := (held key).1.trans (twins.bare key isRecord)
  plain key plain := (held key).2.trans (twins.plain key plain)

/-- Twins in which the same entry is put under a key that is not that of a record are twins. -/
theorem put (twins : Twins memory fallback now) (plain : ¬ Key.IsRecord key) {entry : Entry}
    {memory' : MemoryStore} {fallback' : FallbackStore} (coherent : memory'.Coherent)
    (found : ∀ other, memory'.find? other now =
      if other = key then MemoryStore.live (.value entry) now else memory.find? other now)
    (held : ∀ other, fallback'.value? other now =
        (if other = key then (some entry).filter fun entry => !entry.isExpired now
          else fallback.value? other now) ∧
      fallback'.record? other now = fallback.record? other now) :
    Twins memory' fallback' now where
  coherent := coherent
  value other := by
    rw [(held other).1, MemoryStore.value?, found]
    split
    · exact MemoryStore.value_live entry now
    · exact twins.value other
  record other := by
    rw [(held other).2, MemoryStore.record?, found]
    split
    · rename_i here
      rw [here, twins.plain key plain, MemoryStore.live, Option.filter]
      split <;> rfl
    · exact twins.record other
  bare other isRecord := by
    have differs : other ≠ key := fun here => plain (here ▸ isRecord)
    rw [(held other).1, if_neg differs]
    exact twins.bare other isRecord
  plain other plain := (held other).2.trans (twins.plain other plain)

/-- A read. -/
theorem get (twins : Twins memory fallback now) (plain : ¬ Key.IsRecord key) :
    Beside (fun reply found => reply = some found) now memory (memory.get key now)
      (fallback.get key now) where
  counted := by
    rw [MemoryStore.get_snd]
    exact Nat.le_of_eq (memory.evictions_use key now).symm
  twins _ := by
    constructor
    · rw [MemoryStore.get_fst, FallbackStore.get_fst, twins.find?_plain plain]
      cases fallback.value? key now <;> rfl
    · refine twins.same (twins.coherent.mirrored_get key now).coherent (fun other => ?_)
        fun other => FallbackStore.get_snd fallback key other now
      rw [MemoryStore.get_snd, MemoryStore.find?_use]

/-- A write. -/
theorem set (twins : Twins memory fallback now) (plain : ¬ Key.IsRecord key) (payload : String)
    (lifetime : Seconds) {α : Type} (reply : Except StoreError α) :
    Beside (fun _ _ => True) now memory (reply, memory.set key payload lifetime now)
      ((), fallback.set key payload lifetime now) where
  counted := memory.evictions_le_insert ..
  twins kept := ⟨trivial, twins.put plain (twins.coherent.insert ..)
    (MemoryStore.find?_insert kept) fun other =>
      ⟨FallbackStore.value?_set fallback key other payload lifetime now, rfl⟩⟩

/-- A deletion; the twins may count differently. -/
theorem delete (twins : Twins memory fallback now) (keys : List String) :
    Twins (memory.delete keys now).2 (fallback.delete keys).2 now where
  coherent := (twins.coherent.mirrored_delete keys now).coherent
  value key := by
    rw [MemoryStore.value?, MemoryStore.find?_delete, (FallbackStore.find?_delete ..).1]
    split
    · rfl
    · exact twins.value key
  record key := by
    rw [MemoryStore.record?, MemoryStore.find?_delete, (FallbackStore.find?_delete ..).2]
    split
    · rfl
    · exact twins.record key
  bare key isRecord := by
    rw [(FallbackStore.find?_delete ..).1, twins.bare key isRecord, ite_self]
  plain key plain := by
    rw [(FallbackStore.find?_delete ..).2, twins.plain key plain, ite_self]

/-- A probe. -/
theorem probe [Libraries] (twins : Twins memory fallback now) (key : String) :
    Beside (fun reply held => reply = some held) now memory (memory.answer (.probe key) now)
      (fallback.probe key now) where
  counted := Nat.le_of_eq (memory.evictions_use key now).symm
  twins _ := by
    constructor
    · refine congrArg some ?_
      rw [FallbackStore.probe_fst, ← twins.isSome_find?, ← MemoryStore.use_fst]
      rfl
    · exact twins.same (twins.coherent.use key now) (fun other => memory.find?_use key other now)
        fun other => fallback.probe_snd key other now

/-- An addition to a counter. -/
theorem increment (twins : Twins memory fallback now) (plain : ¬ Key.IsRecord key) {amount : Int}
    (low : leastCounter ≤ amount) (high : amount ≤ greatestCounter) :
    Beside (fun reply sum => reply = sum) now memory (memory.increment key amount now)
      (fallback.increment key amount now) := by
  have held := twins.find?_plain plain
  have coherent := (twins.coherent.mirrored_increment key amount now).coherent
  cases addition : MemoryStore.addition? (memory.find? key now) amount with
  | none =>
    obtain ⟨⟨error, answered⟩, left⟩ := MemoryStore.increment_refused addition
    refine ⟨?_, fun _ => ?_⟩
    · rw [left]
      exact Nat.le_of_eq (memory.evictions_use key now).symm
    · rw [held] at addition
      cases found : fallback.value? key now with
      | none =>
        rw [found] at addition
        simp only [Option.map_none, MemoryStore.addition?, addToCounter?_zero low high,
          Option.map_some, reduceCtorEq] at addition
      | some entry =>
        rw [found] at addition
        rw [FallbackStore.increment_refused found addition, answered]
        refine ⟨rfl, twins.same coherent (fun other => ?_) fun other => ⟨?_, rfl⟩⟩
        · rw [left, MemoryStore.find?_use]
        · rw [FallbackStore.value?_put]
          split
          · rename_i here
            rw [here, found]
            simp [Option.filter, FallbackStore.isExpired_of_value? found]
          · rfl
  | some counted =>
    obtain ⟨sum, entry⟩ := counted
    have answered := MemoryStore.increment_counted addition
    have used := memory.evictions_use key now
    rw [answered] at coherent ⊢
    rw [held] at addition
    rw [FallbackStore.increment_counted addition]
    refine ⟨used ▸ MemoryStore.evictions_le_insert .., fun kept => ⟨rfl, ?_⟩⟩
    refine twins.put plain coherent (fun other => ?_) fun other =>
      ⟨FallbackStore.value?_put .., rfl⟩
    dsimp only at kept ⊢
    rw [MemoryStore.find?_insert (kept.trans used.symm), MemoryStore.find?_use]

/-- Adding a member to records. -/
theorem addMember (twins : Twins memory fallback now) {keys : List String}
    (records : ∀ key ∈ keys, Key.IsRecord key) (member : String) (lifetime : Seconds) :
    Beside (fun _ _ => True) now memory (memory.addMember keys member lifetime now)
      ((), keys.foldl (fun recorded key => recorded.addMember key member lifetime now)
        fallback) where
  counted := MemoryStore.evictions_le_addMember ..
  twins kept := by
    have written := MemoryStore.addMember_spec kept
    have served := FallbackStore.foldl_addMember keys fallback member lifetime now
    have accepted := reaches_of_accepted fun key held => twins.accepts (records key held)
    refine ⟨trivial, (twins.coherent.mirrored_addMember keys member lifetime now).coherent,
      fun key => ?_, fun key => ?_, fun key isRecord => ?_, fun key plain => ?_⟩
    · rw [(written key).1, (served key).1, twins.value]
    · rw [(written key).2, (served key).2, accepted, twins.record]
    · rw [(served key).1, twins.bare key isRecord]
    · have unreached : ¬ reaches (fun _ => true) key keys = true :=
        fun reached => plain (records key (mem_of_reaches reached))
      rw [(served key).2, if_neg unreached, twins.plain key plain]

/-- Reading the members of a record. -/
theorem members (twins : Twins memory fallback now) (isRecord : Key.IsRecord key) :
    Beside (fun reply names => reply = some names) now memory (memory.members key now)
      (fallback.members key now) where
  counted := by
    rw [MemoryStore.members_snd]
    exact Nat.le_of_eq (memory.evictions_use key now).symm
  twins _ := by
    constructor
    · rw [MemoryStore.members_fst, twins.accepts isRecord, if_pos rfl, FallbackStore.members_fst,
        twins.record]
      rfl
    · refine twins.same (twins.coherent.mirrored_members key now).coherent (fun other => ?_)
        fun other => FallbackStore.useSet_snd fallback key other now
      rw [MemoryStore.members_snd, MemoryStore.find?_use]

/-- Reads of several keys. -/
theorem getMany (twins : Twins memory fallback now) {keys : List String}
    (plain : ∀ key ∈ keys, ¬ Key.IsRecord key) :
    Beside (fun reply found => reply = some found) now memory (memory.getMany keys now)
      (Connection.getEach now fallback keys) := by
  induction keys generalizing memory fallback with
  | nil => exact ⟨Nat.le_refl _, fun _ => ⟨rfl, twins⟩⟩
  | cons key rest ih =>
    have first := twins.get (plain key List.mem_cons_self)
    rw [MemoryStore.getMany, Connection.getEach]
    have kept := memory.evictions_use key now
    rw [← MemoryStore.get_snd] at kept
    obtain ⟨answered, left⟩ := first.twins kept
    rcases shape : memory.get key now with ⟨error | found, used⟩
    · rw [shape] at answered
      exact absurd answered (by simp [Except.toOption])
    · rw [shape] at kept answered left
      obtain rfl : found = (fallback.get key now).1 := Option.some.inj answered
      have later := ih left fun other held => plain other (List.mem_cons_of_mem _ held)
      refine ⟨kept ▸ later.counted, fun whole => ?_⟩
      obtain ⟨agree, twins'⟩ := later.twins (whole.trans kept.symm)
      refine ⟨?_, twins'⟩
      dsimp only at agree ⊢
      cases answers : (used.getMany rest now).1 with
      | error error =>
        rw [answers] at agree
        exact absurd agree (by simp [Except.toOption])
      | ok values =>
        rw [answers] at agree
        exact congrArg (Option.map ((fallback.get key now).1 :: ·)) agree

/-- Writes of several keys with one lifetime. -/
theorem setMany (twins : Twins memory fallback now) {items : List (String × String)}
    (plain : ∀ item ∈ items, ¬ Key.IsRecord item.1) (lifetime : Seconds) {α : Type}
    (reply : Except StoreError α) :
    Beside (fun _ _ => True) now memory (reply, memory.setMany items lifetime now)
      ((), items.foldl (fun written item => written.set item.1 item.2 lifetime now)
        fallback) := by
  induction items generalizing memory fallback with
  | nil => exact ⟨Nat.le_refl _, fun _ => ⟨trivial, twins⟩⟩
  | cons item rest ih =>
    have first := twins.set (plain item List.mem_cons_self) item.2 lifetime reply
    have later := MemoryStore.evictions_le_setMany rest
      (memory.set item.1 item.2 lifetime now) lifetime now
    refine ⟨Nat.le_trans first.counted later, fun kept => ?_⟩
    have keptFirst := Nat.le_antisymm (kept ▸ later) first.counted
    exact (ih (first.twins keptFirst).2 fun other held =>
      plain other (List.mem_cons_of_mem _ held)).twins (kept.trans keptFirst.symm)

/-- A purge leaves twins. -/
theorem purge (twins : Twins memory fallback now) : Twins memory (fallback.purge now).2 now :=
  twins.same twins.coherent (fun _ => rfl) fun other => fallback.purge_snd other now

/-- No key has a value and a record that are live. -/
theorem apart (twins : Twins memory fallback now) (key : String)
    (value : (fallback.value? key now).isSome) : fallback.record? key now = none := by
  by_cases isRecord : Key.IsRecord key
  · rw [twins.bare key isRecord] at value
    exact absurd value Bool.false_ne_true
  · exact twins.plain key isRecord

end Twins

end FailOpenCache
