import FailOpenCache.Proofs.Store.Changes

/-!
# What every slot satisfies

A store in memory writes slots of a few kinds only: values, and sets to which a member has just been
added. Everything else that it does drops slots or leaves them alone. So what is true of values, and
of a set with a member more, is true of every slot that the store ever holds: that a set lists a
member, for one.
-/

namespace FailOpenCache

namespace MemoryStore

/-- Every slot satisfies a property. -/
def EachSlot (property : Slot → Prop) (store : MemoryStore) : Prop :=
  ∀ key, ∀ slot ∈ store.slots.find? key, property slot

/-- The property holds of every slot that a request may write: of values, of a set of one member,
and of a set that satisfies it with a member more. -/
structure HoldsOfWrites (property : Slot → Prop) : Prop where
  /-- It holds of a value. -/
  value : ∀ entry, property (.value entry)
  /-- It holds of a new set. -/
  singleton : ∀ member deadline, property (.set (.singleton member) deadline)
  /-- It holds of a set with a member more. -/
  insert : ∀ members deadline member deadline', property (.set members deadline) →
    property (.set (members.insert member) deadline')

/-- A new slot is a value or a set of one member. -/
theorem HoldsOfWrites.of_isNew {property : Slot → Prop} (written : HoldsOfWrites property)
    {slot : Slot} (new : slot.IsNew) : property slot := by
  cases new with
  | value entry => exact written.value entry
  | singleton member deadline => exact written.singleton member deadline

namespace EachSlot

variable {property : Slot → Prop} {store : MemoryStore}

/-- A new store has no slot. -/
theorem ofCapacity (capacity : Nat) : EachSlot property (MemoryStore.ofCapacity capacity) :=
  fun _ _ held => absurd held nofun

/-- A slot that is put under a key satisfies the property as well. -/
theorem put (each : EachSlot property store) {slot : Slot} (holds : property slot) (key : String)
    (recency : Recency) :
    EachSlot property { store with slots := store.slots.put key slot, recency := recency } := by
  intro other found held
  rw [Table.find?_put] at held
  split at held
  · obtain rfl := Option.some.inj held
    exact holds
  · exact each other found held

/-- A key is dropped. -/
theorem erase (each : EachSlot property store) (key : String) (recency : Recency)
    (evictions : Nat) :
    EachSlot property
      { store with
        slots := store.slots.erase key
        recency := recency
        evictions := evictions } := by
  intro other found held
  rw [Table.find?_erase] at held
  split at held
  · exact absurd held nofun
  · exact each other found held

/-- A small change keeps what is true of every write. -/
theorem change (each : EachSlot property store) (written : HoldsOfWrites property)
    {left : MemoryStore} (change : Change store left) : EachSlot property left := by
  cases change with
  | remove key => exact each.erase key _ _
  | touch key => exact each
  | giveWay taken => exact each.erase _ _ _
  | put key new => exact each.put (written.of_isNew new) key _
  | @join key members deadline held member renewed =>
    exact each.put (written.insert members deadline member renewed (each key _ held)) key _

/-- Small changes keep what is true of every write. -/
theorem changes (each : EachSlot property store) (written : HoldsOfWrites property)
    {left : MemoryStore} (changes : Changes store left) : EachSlot property left := by
  induction changes with
  | refl => exact each
  | tail _ last ih => exact ih.change written last

/-- Whatever is requested, the property is kept. -/
theorem answer [Libraries] (each : EachSlot property store) (written : HoldsOfWrites property)
    (request : Request) (now : Millis) : EachSlot property (store.answer request now).2 := by
  by_cases stays : request = .close
  · rw [stays]
    exact fun _ _ held => absurd held nofun
  · exact each.changes written (store.changes_answer stays now)

end EachSlot

/-- A set lists a member. -/
def Lists : Slot → Prop
  | .value _ => True
  | .set members _ => members.names ≠ []

/-- What is written lists a member, if it is a set. -/
theorem written_lists : HoldsOfWrites Lists where
  value _ := trivial
  singleton member _ := List.cons_ne_nil member []
  insert members _ member _ _ :=
    List.ne_nil_of_mem ((members.mem_insert member member).2 (.inl rfl))

end MemoryStore

end FailOpenCache
