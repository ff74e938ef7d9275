import FailOpenCache.Cache.Computation
import FailOpenCache.Proofs.Payload

/-!
# Operations on a connection, step by step

An operation is run on a connection one step after the other. The lemmas of the first section say
what each step answers and leaves behind. Those of the second follow what no operation on values
touches, which are the settings, the rules, the guards, the clock and the count of computations: it
is enough that the steps leave them alone.
-/

namespace FailOpenCache

/-- The document that a reader gets of an entry. -/
def Entry.document? (entry : Entry) : Option Document := (Payload.decode entry.payload).toOption

namespace Connection

variable {σ α β : Type}

/-- The connection of a new cache to a store. -/
def opened (configuration : Configuration) (store : σ) (now : Millis) : Connection σ :=
  ⟨.ofConfiguration configuration, store, now⟩

/-- The session that has a connection. -/
def session (connection : Connection σ) : Session σ :=
  ⟨connection.cache, .connected connection.store, connection.now⟩

/-! ## What a step answers and leaves -/

/-- An answer alone leaves the connection as it is. -/
@[simp] theorem pure_apply (answer : α) (connection : Connection σ) :
    (pure answer : StateM (Connection σ) α) connection = (answer, connection) := rfl

/-- The second step runs on what the first one leaves. -/
@[simp] theorem bind_apply (first : StateM (Connection σ) α) (later : α → StateM (Connection σ) β)
    (connection : Connection σ) :
    (first >>= later) connection = later (first connection).1 (first connection).2 := rfl

/-- Looking at the connection leaves it as it is. -/
@[simp] theorem get_apply (connection : Connection σ) :
    (MonadState.get : StateM (Connection σ) (Connection σ)) connection =
      (connection, connection) := rfl

/-- An operation without its answer leaves the same. -/
@[simp] theorem discard_apply (operation : StateM (Connection σ) α) (connection : Connection σ) :
    (discard operation : StateM (Connection σ) PUnit) connection =
      (PUnit.unit, (operation connection).2) := rfl

/-- A choice between operations is made before either runs. -/
@[simp] theorem ite_apply (condition : Prop) [Decidable condition]
    (first later : StateM (Connection σ) α) (connection : Connection σ) :
    (if condition then first else later) connection =
      if condition then first connection else later connection := by
  split <;> rfl

/-- Counting an event changes the counters alone. -/
@[simp] theorem count_apply (event : Event) (connection : Connection σ) :
    count event connection =
      (PUnit.unit, { connection with cache := connection.cache.record event }) := rfl

/-- A declaration is looked up in the store. -/
@[simp] theorem declares_apply [BackingStore σ] (group : OperationGroup)
    (connection : Connection σ) :
    declares group connection =
      ((BackingStore.capabilities connection.store).declares group, connection) := rfl

/-- A lifetime is looked up in the rules. -/
@[simp] theorem lifetimeOf_apply (key : String) (stated : Option Seconds)
    (connection : Connection σ) :
    lifetimeOf key stated connection =
      (connection.cache.rules.resolve key stated, connection) := rfl

/-- Serving an operation in the process counts it and changes the fallback store. -/
@[simp] theorem serve_apply (operation : Millis → FallbackStore → α × FallbackStore)
    (connection : Connection σ) :
    serve operation connection =
      ((operation connection.now connection.cache.fallback).1,
        { connection with
          cache := { connection.cache.record .fallback with
            fallback := (operation connection.now connection.cache.fallback).2 } }) := rfl

/-- Calling the fallback store changes it alone. -/
@[simp] theorem inProcess_apply (operation : Millis → FallbackStore → α × FallbackStore)
    (connection : Connection σ) :
    inProcess operation connection =
      ((operation connection.now connection.cache.fallback).1,
        { connection with
          cache := { connection.cache with
            fallback := (operation connection.now connection.cache.fallback).2 } }) := rfl

/-- Taking a ticket changes the guards alone. -/
@[simp] theorem takeTicket_apply (key : String) (connection : Connection σ) :
    takeTicket key connection =
      ((connection.cache.guards.take key).1,
        { connection with
          cache := { connection.cache with guards := (connection.cache.guards.take key).2 } }) :=
  rfl

/-- Giving a ticket back changes the guards alone. -/
@[simp] theorem giveBack_apply (ticket : Ticket) (connection : Connection σ) :
    giveBack ticket connection =
      (PUnit.unit, { connection with
        cache := { connection.cache with
          guards := connection.cache.guards.giveBack ticket } }) := rfl

/-- The answer to a request that the store answers. -/
theorem ask_ok [BackingStore σ] {asked : Request} {connection : Connection σ}
    {reply : asked.Reply}
    (answered : (BackingStore.answer asked connection.now connection.store).1 = .ok reply) :
    ask asked connection =
      (some reply, { connection with
        store := (BackingStore.answer asked connection.now connection.store).2 }) := by
  simp only [ask, request, bind_apply]
  rw [answered]
  rfl

/-- A request that the store does not answer is counted. -/
theorem ask_error [BackingStore σ] {asked : Request} {connection : Connection σ}
    {error : StoreError}
    (answered : (BackingStore.answer asked connection.now connection.store).1 = .error error) :
    ask asked connection =
      (none, { connection with
        cache := connection.cache.record .storeError
        store := (BackingStore.answer asked connection.now connection.store).2 }) := by
  simp only [ask, request, bind_apply]
  rw [answered]
  rfl

/-- Whatever it answers, the store is left as the request leaves it. -/
@[simp] theorem ask_store [BackingStore σ] (asked : Request) (connection : Connection σ) :
    (ask asked connection).2.store =
      (BackingStore.answer asked connection.now connection.store).2 := by
  cases answered : (BackingStore.answer asked connection.now connection.store).1 with
  | ok reply => rw [ask_ok answered]
  | error error => rw [ask_error answered]

/-! ## What operations on values leave alone -/

/-- The settings, the rules, the guards, the clock and the count of computations are the same. -/
structure Alike (before after : Connection σ) : Prop where
  /-- The settings are the same. -/
  configuration : after.cache.configuration = before.cache.configuration
  /-- The rules are the same. -/
  rules : after.cache.rules = before.cache.rules
  /-- The guards are the same. -/
  guards : after.cache.guards = before.cache.guards
  /-- The clock is the same. -/
  now : after.now = before.now
  /-- The count of computations is the same. -/
  computations : after.cache.counters.computations = before.cache.counters.computations

/-- Every connection is like itself. -/
theorem Alike.refl (connection : Connection σ) : Alike connection connection :=
  ⟨rfl, rfl, rfl, rfl, rfl⟩

/-- What two steps leave alone is left alone by both together. -/
theorem Alike.trans {first second third : Connection σ} (early : Alike first second)
    (late : Alike second third) : Alike first third where
  configuration := late.configuration.trans early.configuration
  rules := late.rules.trans early.rules
  guards := late.guards.trans early.guards
  now := late.now.trans early.now
  computations := late.computations.trans early.computations

/-- The operation leaves the settings, the rules, the guards, the clock and the count of
computations alone. -/
def Quiet (operation : StateM (Connection σ) α) : Prop :=
  ∀ connection, Alike connection (operation connection).2

/-- An answer alone is quiet. -/
theorem quiet_pure (answer : α) : Quiet (pure answer : StateM (Connection σ) α) :=
  fun connection => .refl connection

/-- Two quiet steps are quiet together. -/
theorem quiet_bind {first : StateM (Connection σ) α} {later : α → StateM (Connection σ) β}
    (early : Quiet first) (late : ∀ answer, Quiet (later answer)) : Quiet (first >>= later) :=
  fun connection => (early connection).trans (late _ _)

/-- Dropping the answer of a quiet operation is quiet. -/
theorem quiet_discard {operation : StateM (Connection σ) α} (quiet : Quiet operation) :
    Quiet (discard operation : StateM (Connection σ) PUnit) :=
  fun connection => quiet connection

/-- Looking at the connection is quiet. -/
theorem quiet_get : Quiet (MonadState.get : StateM (Connection σ) (Connection σ)) :=
  fun connection => .refl connection

/-- Counting an event other than a computation is quiet. -/
theorem quiet_count {event : Event} (other : event ≠ .computation) :
    Quiet (count event : StateM (Connection σ) Unit) := by
  intro connection
  refine ⟨rfl, rfl, rfl, rfl, ?_⟩
  cases event with
  | computation => exact absurd rfl other
  | _ => rfl

/-- Serving an operation in the process is quiet. -/
theorem quiet_serve (operation : Millis → FallbackStore → α × FallbackStore) :
    Quiet (serve operation : StateM (Connection σ) α) :=
  fun _ => ⟨rfl, rfl, rfl, rfl, rfl⟩

/-- Calling the fallback store is quiet. -/
theorem quiet_inProcess (operation : Millis → FallbackStore → α × FallbackStore) :
    Quiet (inProcess operation : StateM (Connection σ) α) :=
  fun _ => ⟨rfl, rfl, rfl, rfl, rfl⟩

/-- Looking up a lifetime is quiet. -/
theorem quiet_lifetimeOf (key : String) (stated : Option Seconds) :
    Quiet (lifetimeOf key stated : StateM (Connection σ) Seconds) :=
  fun connection => .refl connection

/-- Counting a hit or a miss is quiet. -/
theorem quiet_settle (found : Option String) :
    Quiet (settle found : StateM (Connection σ) (Option Document)) := by
  cases found with
  | none => exact quiet_bind (quiet_count (by decide)) fun _ => quiet_pure _
  | some payload =>
    rw [settle]
    cases Payload.decode payload with
    | ok document => exact quiet_bind (quiet_count (by decide)) fun _ => quiet_pure _
    | error fault =>
      exact quiet_bind (quiet_count (by decide)) fun _ =>
        quiet_bind (quiet_count (by decide)) fun _ => quiet_pure _

variable [BackingStore σ] [Storable α]

/-- Looking up a declaration is quiet. -/
theorem quiet_declares (group : OperationGroup) :
    Quiet (declares group : StateM (Connection σ) Bool) :=
  fun connection => .refl connection

/-- A request is quiet, answered or not. -/
theorem quiet_ask (asked : Request) :
    Quiet (ask asked : StateM (Connection σ) (Option asked.Reply)) := by
  intro connection
  cases answered : (BackingStore.answer asked connection.now connection.store).1 with
  | ok reply =>
    rw [ask_ok answered]
    exact ⟨rfl, rfl, rfl, rfl, rfl⟩
  | error error =>
    rw [ask_error answered]
    exact ⟨rfl, rfl, rfl, rfl, rfl⟩

/-- Deleting the keys of a page is quiet. -/
theorem quiet_deletePage (keys : List String) :
    Quiet (deletePage keys : StateM (Connection σ) (Option Nat)) := by
  cases keys with
  | nil => exact quiet_pure _
  | cons key rest => exact quiet_ask (.delete (key :: rest))

/-- Reading is quiet. -/
theorem quiet_getKey (key : String) :
    Quiet (Connection.get key : StateM (Connection σ) (Option Document)) := by
  refine quiet_bind (quiet_bind (quiet_declares _) fun declared => ?_) fun found => ?_
  · cases declared with
    | true => exact quiet_ask _
    | false => exact quiet_bind (quiet_serve _) fun _ => quiet_pure _
  · cases found with
    | none => exact quiet_pure _
    | some payload => exact quiet_settle payload

/-- Writing is quiet. -/
theorem quiet_set [Libraries] (key : String) (value : α) (stated : Option Seconds) :
    Quiet (set key value stated : StateM (Connection σ) Unit) := by
  refine quiet_bind (quiet_bind quiet_get fun _ => quiet_pure _) fun payload => ?_
  cases payload with
  | none => exact quiet_pure _
  | some payload =>
    refine quiet_bind (quiet_lifetimeOf key stated) fun lifetime => ?_
    refine quiet_bind (quiet_declares _) fun declared => ?_
    cases declared with
    | true => exact quiet_discard (quiet_ask _)
    | false => exact quiet_serve _

/-- Deleting is quiet. -/
theorem quiet_deleteAll (keys : List String) :
    Quiet (deleteAll keys : StateM (Connection σ) Nat) := by
  rw [deleteAll]
  split
  · exact quiet_pure _
  · refine quiet_bind (quiet_declares _) fun declared => ?_
    cases declared with
    | true => exact quiet_bind (quiet_ask _) fun _ => quiet_pure _
    | false => exact quiet_serve _

/-- Probing is quiet. -/
theorem quiet_probe (key : String) : Quiet (probe key : StateM (Connection σ) Bool) := by
  refine quiet_bind (quiet_declares _) fun declared => ?_
  cases declared with
  | true => exact quiet_bind (quiet_ask _) fun _ => quiet_pure _
  | false => exact quiet_serve _

/-- Counting is quiet. -/
theorem quiet_increment (key : String) (amount : Int) :
    Quiet (increment key amount : StateM (Connection σ) Int) := by
  refine quiet_bind (quiet_declares _) fun declared => ?_
  cases declared with
  | true => exact quiet_bind (quiet_ask _) fun _ => quiet_pure _
  | false => exact quiet_bind (quiet_serve _) fun _ => quiet_pure _

/-- Recording tags is quiet. -/
theorem quiet_recordTags (key : String) (tags : List String) (stated : Option Seconds) :
    Quiet (recordTags key tags stated : StateM (Connection σ) Unit) := by
  refine quiet_bind (quiet_bind quiet_get fun _ => quiet_pure _) fun tracked => ?_
  cases tracked with
  | true => exact quiet_discard (quiet_ask _)
  | false => exact quiet_serve _

/-- Writing under tags is quiet. -/
theorem quiet_setTagged [Libraries] (key : String) (value : α) (tags : List String)
    (stated : Option Seconds) :
    Quiet (setTagged key value tags stated : StateM (Connection σ) Unit) := by
  refine quiet_bind (quiet_set key value stated) fun _ => ?_
  split
  · exact quiet_pure _
  · exact quiet_recordTags key tags stated

/-! ## What a write of a document leaves -/

omit [BackingStore σ] in
/-- The entry that a write of a document leaves. -/
def entryOf [Libraries] (connection : Connection σ) (key : String) (document : Document)
    (stated : Option Seconds) : Entry :=
  .write (Payload.encode connection.cache.configuration.compressionThreshold document)
    (connection.cache.rules.resolve key stated) connection.now

omit [BackingStore σ] in
/-- What a reader gets of an entry of a document is what the text of the document is read as. -/
theorem document?_entryOf [Libraries] {document : Document} (formed : document.WellFormed)
    (connection : Connection σ) (key : String) (stated : Option Seconds) :
    (connection.entryOf key document stated).document? = document.reread? := by
  have read : Payload.decode (connection.entryOf key document stated).payload =
      Payload.ofReread document.reread? := Payload.decode_encode _ formed
  rw [Entry.document?, read]
  cases document.reread? <;> rfl

end Connection

end FailOpenCache
