import FailOpenCache.Libraries.Plain
import FailOpenCache.Proofs.Cache.Bookkeeping
import FailOpenCache.Proofs.Cache.Recomputations

/-!
# Reads of several keys

A read of several keys goes one of three ways: it is served in the process, it is one request for
all keys, or it is one request for each. In the process and request by request every key is answered
as a read of it alone would be. One request for all keys is different: the store in memory refuses
it as a whole when one of the keys holds the record of a tag, and then no key is answered, the
readable ones no more than that one.
-/

namespace FailOpenCache

namespace FallbackStore

/-- Reads answer the payloads of the live values. -/
theorem getEach_fst (store : FallbackStore) (keys : List String) (now : Millis) :
    (Connection.getEach now store keys).1 =
      keys.map fun key => (store.value? key now).map Entry.payload := by
  induction keys generalizing store with
  | nil => rfl
  | cons key rest ih =>
    have later : ∀ other, (store.get key now).2.value? other now = store.value? other now :=
      fun other => (store.get_snd key other now).1
    rw [Connection.getEach]
    dsimp only
    rw [ih, store.get_fst, List.map_cons]
    simp only [later]

end FallbackStore

namespace MemoryStore

/-- A read answers the payload of the live value, unless the key holds a record. -/
theorem get_fst_of_contents (store : MemoryStore) (key : String) (now : Millis) :
    (store.get key now).1 =
      if (store.record? key now).isSome then .error (.backend .wrongKind)
      else .ok ((store.value? key now).map Entry.payload) := by
  rw [get_fst, record?, value?]
  rcases store.find? key now with _ | slot
  · rfl
  · cases slot <;> rfl

/-- A read of several keys is refused if one of them holds a record. Otherwise it answers the
payloads of the live values. -/
theorem getMany_fst (store : MemoryStore) (keys : List String) (now : Millis) :
    (store.getMany keys now).1 =
      if keys.any fun key => (store.record? key now).isSome then .error (.backend .wrongKind)
      else .ok (keys.map fun key => (store.value? key now).map Entry.payload) := by
  induction keys generalizing store with
  | nil => rfl
  | cons key rest ih =>
    have later : ∀ other, (store.get key now).2.find? other now = store.find? other now := by
      intro other
      rw [get_snd, find?_use]
    have value : ∀ other, (store.get key now).2.value? other now = store.value? other now :=
      fun other => congrArg (Option.bind · Slot.entry?) (later other)
    have record : ∀ other, (store.get key now).2.record? other now = store.record? other now :=
      fun other => congrArg (Option.bind · Slot.record?) (later other)
    have first := store.get_fst_of_contents key now
    have behind := ih (store.get key now).2
    simp only [value, record] at behind
    rw [getMany, List.any_cons, List.map_cons]
    generalize store.get key now = read at first behind ⊢
    obtain ⟨answer, used⟩ := read
    dsimp only at first behind
    cases here : (store.record? key now).isSome with
    | true =>
      rw [here, if_pos rfl] at first
      rw [first]
      rfl
    | false =>
      rw [here, if_neg Bool.false_ne_true] at first
      rw [first]
      dsimp only
      rw [behind, Bool.false_or]
      split <;> rfl

end MemoryStore

namespace Connection

/-- The ways of a read of several keys. -/
theorem readPayloads_ways {σ : Type} [BackingStore σ] (keys : List String)
    (connection : Connection σ) :
    (readPayloads keys connection).1 =
      if (BackingStore.capabilities connection.store).declares .keyValue then
        if (BackingStore.capabilities connection.store).declares .pipeline then
          (ask (.getMany keys) connection).1
        else some (readEach keys connection).1
      else some (getEach connection.now connection.cache.fallback keys).1 := by
  rw [readPayloads, bind_apply, declares_apply]
  dsimp only
  cases (BackingStore.capabilities connection.store).declares .keyValue with
  | false => rfl
  | true =>
    rw [if_neg (by decide), bind_apply, declares_apply]
    cases (BackingStore.capabilities connection.store).declares .pipeline with
    | false => rfl
    | true => rfl

variable {connection : Connection (ObservedStore MemoryStore)}

/-- The payload of the value that is live under a key. -/
def payloadAt (connection : Connection (ObservedStore MemoryStore)) (key : String) :
    Option String :=
  (connection.contents key).value.map Entry.payload

/-- All keys are read with one request, and one of them holds a record. -/
def meetsRecord (connection : Connection (ObservedStore MemoryStore)) (keys : List String) : Bool :=
  connection.store.declared.keyValue && connection.store.declared.pipeline &&
    keys.any fun key => (connection.contents key).record.isSome

section

variable [Libraries]

/-- Without faults a read answers the document of the payload. -/
theorem get_fst_payload (unplanned : connection.store.plans = []) (key : String) :
    (get key connection).1 = documentIn (connection.payloadAt key) := by
  rw [get_fst_contents unplanned, payloadAt, documentIn, Option.bind_map]
  rfl

omit [Libraries] in
/-- Where values are declared, they are those of the store. -/
theorem payloadAt_of_declared (values : connection.store.declared.keyValue = true) (key : String) :
    connection.payloadAt key =
      (connection.store.store.value? key connection.now).map Entry.payload := by
  rw [payloadAt, contents, if_pos values]
  rfl

/-- A read request finds the payload of the live value, and leaves every value as it is. -/
theorem ask_get_observed (unplanned : connection.store.plans = [])
    (values : connection.store.declared.keyValue = true) (key : String) :
    ((ask (.get key) connection).1 : Option (Option String)).getD none =
        connection.payloadAt key ∧
      (ask (.get key) connection).2.store.plans = [] ∧
      (ask (.get key) connection).2.store.declared.keyValue = true ∧
      ∀ other, (ask (.get key) connection).2.payloadAt other = connection.payloadAt other := by
  have spared := ObservedStore.strikesAhead_of_unplanned unplanned (Request.get key).operation 1
  obtain ⟨answer, store⟩ := ask_unstruck (.get key) spared
  have spent := spent_ask (.get key) connection
  have values' : (ask (.get key) connection).2.store.declared.keyValue = true := by
    rw [spent.declared]
    exact values
  have read : BackingStore.answer (.get key) connection.now connection.store.store =
      connection.store.store.get key connection.now := rfl
  refine ⟨?_, spent.plans.trans unplanned, values', fun other => ?_⟩
  · rw [read, MemoryStore.get_fst_of_contents] at answer
    rw [payloadAt_of_declared values, MemoryStore.value?]
    rw [MemoryStore.record?, MemoryStore.value?] at answer
    rw [answer]
    rcases connection.store.store.find? key connection.now with _ | slot
    · rfl
    · cases slot <;> rfl
  · rw [payloadAt_of_declared values', payloadAt_of_declared values, store, spent.now, read,
      MemoryStore.get_snd, MemoryStore.value?, MemoryStore.value?, MemoryStore.find?_use]

/-- Request by request the payloads of the live values are read. -/
theorem readEach_fst (unplanned : connection.store.plans = [])
    (values : connection.store.declared.keyValue = true) (keys : List String) :
    (readEach keys connection).1 = keys.map connection.payloadAt := by
  induction keys generalizing connection with
  | nil => rfl
  | cons key rest ih =>
    obtain ⟨found, unplanned', values', later⟩ := ask_get_observed unplanned values key
    have behind := ih unplanned' values'
    have ran : (readEach (key :: rest) connection).1 =
        ((ask (.get key) connection).1 : Option (Option String)).getD none ::
          (readEach rest (ask (.get key) connection).2).1 := rfl
    rw [ran, found, behind, funext later]
    rfl

/-- One request for all keys is refused if one of them holds a record. -/
theorem ask_getMany_observed (unplanned : connection.store.plans = [])
    (whole : connection.store.longestAnswer = none)
    (values : connection.store.declared.keyValue = true) (keys : List String) :
    (ask (.getMany keys) connection).1 =
      if keys.any fun key => (connection.contents key).record.isSome then none
      else some (keys.map connection.payloadAt) := by
  have spared := ObservedStore.strikesAhead_of_unplanned unplanned Operation.getMany 1
  obtain ⟨answer, -⟩ := ask_unstruck (.getMany keys) spared
  have read : BackingStore.answer (.getMany keys) connection.now connection.store.store =
      connection.store.store.getMany keys connection.now := rfl
  have records : ∀ key, (connection.contents key).record =
      connection.store.store.record? key connection.now := by
    intro key
    rw [contents, if_pos values]
    rfl
  have payloads : connection.payloadAt =
      fun key => (connection.store.store.value? key connection.now).map Entry.payload :=
    funext (payloadAt_of_declared values)
  rw [read, MemoryStore.getMany_fst, whole] at answer
  rw [answer, payloads]
  simp only [records]
  split <;> rfl

/-- A read of several keys finds the payloads of the live values, unless it is one request that
meets a record. -/
theorem readPayloads_fst (unplanned : connection.store.plans = [])
    (whole : connection.store.longestAnswer = none) (keys : List String) :
    (readPayloads keys connection).1 =
      if connection.meetsRecord keys then none else some (keys.map connection.payloadAt) := by
  have ways := readPayloads_ways keys connection
  have groups : (BackingStore.capabilities connection.store) = connection.store.declared := rfl
  rw [ways, groups, Capabilities.declares, Capabilities.declares, meetsRecord]
  by_cases values : connection.store.declared.keyValue = true
  · rw [if_pos values, values, Bool.true_and]
    by_cases pipelined : connection.store.declared.pipeline = true
    · rw [if_pos pipelined, pipelined, Bool.true_and]
      exact ask_getMany_observed unplanned whole values keys
    · rw [if_neg pipelined, Bool.eq_false_iff.2 pipelined]
      exact congrArg some (readEach_fst unplanned values keys)
  · have payloads : connection.payloadAt =
        fun key => (connection.cache.fallback.value? key connection.now).map Entry.payload := by
      funext key
      rw [payloadAt, contents, if_neg values]
      rfl
    rw [if_neg values, Bool.eq_false_iff.2 values, payloads, FallbackStore.getEach_fst]
    rfl

omit [Libraries] in
/-- What a position of a read of several keys finds is put under its key. -/
theorem find?_foldl_put (keys : List String) (found : String → Option Document)
    (table : Table (Option Document)) (key : String) :
    ((keys.map fun key => (key, found key)).foldl
      (fun table position => table.put position.1 position.2) table).find? key =
        if key ∈ keys then some (found key) else table.find? key := by
  induction keys generalizing table with
  | nil => rfl
  | cons first rest ih =>
    rw [List.map_cons, List.foldl_cons, ih, Table.find?_put]
    by_cases later : key ∈ rest
    · simp [later]
    · by_cases here : key = first
      · simp [here]
      · simp [later, here]

/-- A read of several keys answers what single reads of them answer, unless it is one request that
meets a record. Then no key is answered at all. -/
theorem find?_getMany (unplanned : connection.store.plans = [])
    (whole : connection.store.longestAnswer = none) (keys : List String) (key : String) :
    (getMany keys connection).1.find? key =
      if key ∈ keys then
        some (if connection.meetsRecord keys then none else (get key connection).1)
      else none := by
  have absent := CacheCommand.find?_unanswered keys key
  rw [getMany_fst, positions, readPayloads_fst unplanned whole]
  cases connection.meetsRecord keys with
  | true =>
    rw [if_pos rfl, if_pos rfl, Option.getD_none, List.zip_nil_right]
    exact absent
  | false =>
    have positioned : (keys.zip (keys.map connection.payloadAt)).map
        (fun position => (position.1, documentIn position.2)) =
          keys.map fun key => (key, documentIn (connection.payloadAt key)) := by
      rw [← List.map_prod_left_eq_zip]
      exact List.map_map
    rw [if_neg Bool.false_ne_true, if_neg Bool.false_ne_true, Option.getD_some, positioned,
      find?_foldl_put, absent, get_fst_payload unplanned]
    split <;> rfl

/-- Without faults a read of several keys answers each as a read of it alone would, however often it
is asked for and whatever is declared, unless the keys are read with one request and one of them
holds the record of a tag. Then none is answered, so that the answers are those of single reads only
if there is nothing to answer under any of the keys. -/
theorem getMany_answersSingly (unplanned : connection.store.plans = [])
    (whole : connection.store.longestAnswer = none) (keys : List String) :
    (∀ key, (getMany keys connection).1.find? key =
        if key ∈ keys then
          some (if connection.meetsRecord keys then none else (get key connection).1)
        else none) ∧
      ((∀ key ∈ keys, (getMany keys connection).1.find? key = some (get key connection).1) ↔
        connection.meetsRecord keys = false ∨ ∀ key ∈ keys, (get key connection).1 = none) := by
  have answers := find?_getMany unplanned whole keys
  refine ⟨answers, ?_⟩
  cases meets : connection.meetsRecord keys with
  | false =>
    constructor
    · exact fun _ => .inl rfl
    · intro _ key asked
      rw [answers, if_pos asked, meets]
      rfl
  | true =>
    have lost : ∀ key ∈ keys, (getMany keys connection).1.find? key = some none := by
      intro key asked
      rw [answers, if_pos asked, meets]
      rfl
    constructor
    · intro agree
      refine .inr fun key asked => ?_
      have same := agree key asked
      rw [lost key asked] at same
      exact (Option.some.inj same).symm
    · rintro (nothing | nothing)
      · exact absurd nothing Bool.noConfusion
      · intro key asked
        rw [lost key asked, nothing key asked]

end

open scoped Libraries.Plain

/-- A value under a tag, where these groups are declared. -/
def taggedOver (declared : Capabilities) : Connection (ObservedStore MemoryStore) :=
  (setTagged "a" (Document.integer 1) ["t"] none
    (.opened .standard ⟨.ofCapacity 9, declared, [], none, []⟩ 0)).2

/-- A value is read together with the record of its tag if there is a request for each key, and is
not read if there is one request for both. -/
theorem getMany_answersSingly_tagged :
    let keys := ["a", "tag:t", "a"]
    let singly := taggedOver ⟨true, true, true, false, true⟩
    let together := taggedOver .all
    (get "a" singly).1 = some (.integer 1) ∧
      (getMany keys singly).1.find? "a" = some (some (.integer 1)) ∧
      (get "a" together).1 = some (.integer 1) ∧
      (getMany keys together).1.find? "a" = some none := by
  intro keys singly together
  have read : (get "a" singly).1 = some (.integer 1) := by decide +kernel
  have read' : (get "a" together).1 = some (.integer 1) := by decide +kernel
  have apart : singly.meetsRecord keys = false := by decide +kernel
  have meets : together.meetsRecord keys = true := by decide +kernel
  obtain ⟨-, agree⟩ := @getMany_answersSingly singly _ rfl rfl keys
  obtain ⟨answers, -⟩ := @getMany_answersSingly together _ rfl rfl keys
  refine ⟨read, ?_, read', ?_⟩
  · rw [agree.2 (.inl apart) "a" List.mem_cons_self, read]
  · rw [answers, if_pos List.mem_cons_self, meets]
    rfl

end Connection

end FailOpenCache
