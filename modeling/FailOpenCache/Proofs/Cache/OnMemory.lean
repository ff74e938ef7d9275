import FailOpenCache.Cache.Batches
import FailOpenCache.Proofs.Cache.Connection
import FailOpenCache.Proofs.Store.Memory
import FailOpenCache.Store.Either

/-!
# Operations over the store in memory

The store in memory declares everything, so every operation reaches it. What an operation answers
is read off the view of the store, and what it leaves is the store after one request. The store may
be one of several kinds that a connection can have, as long as it answers as it does on its own.
-/

namespace FailOpenCache

variable [Libraries]

/-- The store in memory is one of the stores of a type: it declares everything there, and answers
as it does on its own. -/
structure Embeds {σ : Type} [BackingStore σ] (embed : MemoryStore → σ) : Prop where
  /-- Everything is declared. -/
  capabilities : ∀ memory, BackingStore.capabilities (embed memory) = .all
  /-- A request is answered as by the store on its own. -/
  answer : ∀ request now memory, BackingStore.answer request now (embed memory) =
    ((memory.answer request now).1, embed (memory.answer request now).2)

/-- The store in memory is a store on its own. -/
theorem embeds_self : Embeds fun memory : MemoryStore => memory :=
  ⟨fun _ => rfl, fun _ _ _ => rfl⟩

/-- The store in memory is one of two stores. -/
theorem embeds_inl {τ : Type} [BackingStore τ] :
    Embeds fun memory => (.inl memory : MemoryStore ⊕ τ) :=
  ⟨fun _ => rfl, fun _ _ _ => rfl⟩

namespace Connection

open MemoryStore (addition?)

variable {σ : Type} [BackingStore σ] {embed : MemoryStore → σ} {α : Type} [Storable α]
  {connection : Connection σ} {memory : MemoryStore}

/-- The store declares every group of operations. -/
theorem declares_onMemory (embeds : Embeds embed) (store : connection.store = embed memory)
    (group : OperationGroup) :
    (BackingStore.capabilities connection.store).declares group = true := by
  rw [store, embeds.capabilities]
  exact Capabilities.declares_all group

/-- A request that the store answers. -/
theorem ask_onMemory (embeds : Embeds embed) (store : connection.store = embed memory)
    (asked : Request) {reply : asked.Reply}
    (answered : (memory.answer asked connection.now).1 = .ok reply) :
    ask asked connection =
      (some reply, { connection with
        store := embed (memory.answer asked connection.now).2 }) := by
  have whole := embeds.answer asked connection.now memory
  rw [← store] at whole
  rw [ask_ok ((congrArg Prod.fst whole).trans answered), whole]

/-- A request that the store refuses. -/
theorem ask_refused_onMemory (embeds : Embeds embed) (store : connection.store = embed memory)
    (asked : Request) {error : StoreError}
    (answered : (memory.answer asked connection.now).1 = .error error) :
    ask asked connection =
      (none, { connection with
        cache := connection.cache.record .storeError
        store := embed (memory.answer asked connection.now).2 }) := by
  have whole := embeds.answer asked connection.now memory
  rw [← store] at whole
  rw [ask_error ((congrArg Prod.fst whole).trans answered), whole]

/-- Answered or refused, a request leaves the store as it does on its own. -/
theorem ask_store_onMemory (embeds : Embeds embed) (store : connection.store = embed memory)
    (asked : Request) :
    (ask asked connection).2.store = embed (memory.answer asked connection.now).2 := by
  have whole := embeds.answer asked connection.now memory
  rw [← store] at whole
  rw [ask_store, whole]

/-- The document that a slot holds for readers. -/
def documentOf? : Option Slot → Option Document
  | some (.value entry) => (Payload.decode entry.payload).toOption
  | _ => none

omit [Libraries] [BackingStore σ] in
/-- A settled payload is its document, and neither the store nor the fallback store is asked. -/
theorem settle_spec (found : Option String) (connection : Connection σ) :
    (settle found connection).1 = found.bind (fun payload => (Payload.decode payload).toOption) ∧
      (settle found connection).2.store = connection.store ∧
      (settle found connection).2.cache.fallback = connection.cache.fallback := by
  cases found with
  | none => exact ⟨rfl, rfl, rfl⟩
  | some payload =>
    rw [settle]
    dsimp only [Option.bind]
    cases Payload.decode payload with
    | ok document => exact ⟨rfl, rfl, rfl⟩
    | error fault => exact ⟨rfl, rfl, rfl⟩

omit [Libraries] [BackingStore σ] in
/-- Settled payloads are put into the table under their keys, one after the other. -/
theorem settleAll_fst (answers : Table (Option Document)) (found : List (String × Option String))
    (connection : Connection σ) :
    (settleAll answers found connection).1 = found.foldl (fun table position =>
      table.put position.1
        (position.2.bind fun payload => (Payload.decode payload).toOption)) answers := by
  induction found generalizing answers connection with
  | nil => rfl
  | cons position rest ih =>
    rw [settleAll, bind_apply, (settle_spec position.2 connection).1]
    exact ih _ _

/-- A read answers the document of a live value, and uses the key. -/
theorem get_onMemory (embeds : Embeds embed) (store : connection.store = embed memory)
    (key : String) :
    (get key connection).1 = documentOf? (memory.find? key connection.now) ∧
      (get key connection).2.store = embed (memory.use key connection.now).2 := by
  have declared := declares_onMemory embeds store .keyValue
  have answered := memory.get_fst key connection.now
  have left := memory.get_snd key connection.now
  simp only [get, readPayload, bind_apply, declares_apply, declared, ↓reduceIte]
  cases held : memory.find? key connection.now with
  | none =>
    rw [held] at answered
    rw [ask_onMemory embeds store (.get key) answered]
    obtain ⟨document, same, -⟩ := settle_spec none { connection with
      store := embed (memory.answer (.get key) connection.now).2 }
    exact ⟨document, same.trans (congrArg embed left)⟩
  | some slot =>
    rw [held] at answered
    cases slot with
    | value entry =>
      rw [ask_onMemory embeds store (.get key) answered]
      obtain ⟨document, same, -⟩ := settle_spec (some entry.payload) { connection with
        store := embed (memory.answer (.get key) connection.now).2 }
      exact ⟨document, same.trans (congrArg embed left)⟩
    | set members deadline =>
      rw [ask_refused_onMemory embeds store (.get key) answered]
      exact ⟨rfl, congrArg embed left⟩

/-- A write of a value with a written form is one write to the store. -/
theorem set_onMemory (embeds : Embeds embed) (store : connection.store = embed memory)
    {value : α} {document : Document} (written : Storable.write? value = some document)
    (key : String) (stated : Option Seconds) :
    (set key value stated connection).2.store =
      embed (memory.set key
        (Payload.encode connection.cache.configuration.compressionThreshold document)
        (connection.cache.rules.resolve key stated) connection.now) := by
  have declared := declares_onMemory embeds store .keyValue
  simp only [set, payloadOf, bind_apply, get_apply, pure_apply, written, Option.map_some,
    writePayload, lifetimeOf_apply, declares_apply, declared, ↓reduceIte, discard_apply]
  exact ask_store_onMemory embeds store _

/-- A value without a written form is not written. -/
theorem set_unwritten {value : α} (unwritten : Storable.write? value = none)
    (key : String) (stated : Option Seconds) (connection : Connection σ) :
    set key value stated connection = ((), connection) := by
  simp only [set, payloadOf, bind_apply, get_apply, pure_apply, unwritten, Option.map_none]

/-- A deletion of keys is one deletion in the store. -/
theorem deleteAll_onMemory (embeds : Embeds embed) (store : connection.store = embed memory)
    (keys : List String) :
    (deleteAll keys connection).2.store = embed (memory.delete keys connection.now).2 := by
  have declared := declares_onMemory embeds store .keyValue
  cases keys with
  | nil => exact store
  | cons key rest =>
    simp only [deleteAll, List.isEmpty_cons, Bool.false_eq_true, ↓reduceIte, bind_apply,
      declares_apply, declared]
    exact ask_store_onMemory embeds store (.delete (key :: rest))

/-- A probe answers whether the key is live, and uses it. -/
theorem probe_onMemory (embeds : Embeds embed) (store : connection.store = embed memory)
    (key : String) :
    (probe key connection).1 = (memory.find? key connection.now).isSome ∧
      (probe key connection).2.store = embed (memory.use key connection.now).2 := by
  have declared := declares_onMemory embeds store .keyValue
  have answered : (memory.answer (.probe key) connection.now).1 =
      .ok (memory.find? key connection.now).isSome := by
    rw [← MemoryStore.use_fst]
    rfl
  have asked := ask_onMemory embeds store (.probe key) answered
  simp only [probe, bind_apply, declares_apply, declared, ↓reduceIte]
  exact ⟨congrArg (fun left : Option Bool × Connection σ => left.1.getD false) asked,
    congrArg (fun left : Option Bool × Connection σ => left.2.store) asked⟩

/-- An addition that is refused answers zero, and uses the key. -/
theorem increment_refused_onMemory (embeds : Embeds embed)
    (store : connection.store = embed memory) {key : String} {amount : Int}
    (refused : addition? (memory.find? key connection.now) amount = none) :
    (increment key amount connection).1 = 0 ∧
      (increment key amount connection).2.store =
        embed (memory.use key connection.now).2 := by
  have declared := declares_onMemory embeds store .counters
  obtain ⟨⟨error, answered⟩, left⟩ := MemoryStore.increment_refused refused
  have asked := ask_refused_onMemory embeds store (.increment key amount) answered
  simp only [increment, bind_apply, declares_apply, declared, ↓reduceIte]
  exact ⟨congrArg (fun left : Option Int × Connection σ => left.1.getD 0) asked,
    (congrArg (fun left : Option Int × Connection σ => left.2.store) asked).trans
      (congrArg embed left)⟩

/-- An addition that comes to a sum answers it, and writes its entry. -/
theorem increment_counted_onMemory (embeds : Embeds embed)
    (store : connection.store = embed memory) {key : String} {amount sum : Int} {entry : Entry}
    (counted : addition? (memory.find? key connection.now) amount = some (sum, entry)) :
    (increment key amount connection).1 = sum ∧
      (increment key amount connection).2.store =
        embed ((memory.use key connection.now).2.insert key (.value entry) connection.now) := by
  have declared := declares_onMemory embeds store .counters
  have answered := MemoryStore.increment_counted counted
  have reply : (memory.answer (.increment key amount) connection.now).1 = .ok sum :=
    congrArg Prod.fst answered
  have asked := ask_onMemory embeds store (.increment key amount) reply
  simp only [increment, bind_apply, declares_apply, declared, ↓reduceIte]
  exact ⟨congrArg (fun left : Option Int × Connection σ => left.1.getD 0) asked,
    (congrArg (fun left : Option Int × Connection σ => left.2.store) asked).trans
      (congrArg embed (congrArg Prod.snd answered))⟩

end Connection

end FailOpenCache
