import FailOpenCache.Libraries.Plain
import FailOpenCache.Proofs.Cache.Cancellations
import FailOpenCache.Proofs.Cache.Steps
import FailOpenCache.Proofs.Store.Sweeps

/-!
# Transparent computations

A cache may spare a computation, and that is all that a caller sees of it. Whatever a store answers
to the reads and the writes of one computed value, the caller gets what a read of the key finds or
what its own computation comes to. What is asked of the store is told by the relation `Asked`, which
composes along the operation: the reads of the key first, and then, if the computation ran and has a
value, the requests of the write and no others.
-/

namespace FailOpenCache

namespace Connection

variable {σ : Type} [BackingStore σ] {α ε : Type} [Storable α]
variable {connection before middle after : Connection (TranscribedStore σ)}

/-- An operation that is asked of the store or served in the process is chosen by what the store
declares. -/
theorem either_apply {τ : Type} [BackingStore τ] {β : Type} (group : OperationGroup)
    (asked served : StateM (Connection τ) β) (connection : Connection τ) :
    (do if ← declares group then asked else served) connection =
      if (BackingStore.capabilities connection.store).declares group then asked connection
      else served connection := by
  rw [bind_apply, declares_apply, ite_apply]

/-! ## What is asked -/

/-- From a connection to a later one the store is asked these requests, whatever it answers. -/
structure Asked (requests : List Request) (before after : Connection (TranscribedStore σ)) :
    Prop where
  /-- The declarations are the same. -/
  declared : after.store.declared = before.store.declared
  /-- The requests are written down behind the earlier ones. -/
  lines : ∃ added, after.store.lines = before.store.lines ++ added ∧
    added.map TranscriptLine.request = requests

namespace Asked

omit [BackingStore σ] in
/-- Nothing is asked as long as the store is the same. -/
theorem of_store (same : after.store = before.store) : Asked [] before after :=
  ⟨congrArg TranscribedStore.declared same, [], by rw [same, List.append_nil], rfl⟩

omit [BackingStore σ] in
/-- What is asked first and what is asked then. -/
theorem trans {first later : List Request} (early : Asked first before middle)
    (late : Asked later middle after) : Asked (first ++ later) before after := by
  obtain ⟨added, lines, rfl⟩ := early.lines
  obtain ⟨added', lines', rfl⟩ := late.lines
  exact ⟨late.declared.trans early.declared, added ++ added',
    by rw [lines', lines, List.append_assoc], List.map_append⟩

/-- A request is asked. -/
theorem ask (asked : Request) (connection : Connection (TranscribedStore σ)) :
    Asked [asked] connection (Connection.ask asked connection).2 := by
  rw [ask_transcribed]
  exact ⟨rfl, _, rfl, rfl⟩

end Asked

/-! ## What a read leaves -/

/-- A connection is one that is left after so many reads of a key. -/
structure Consulted (key : String) (count : Nat)
    (before after : Connection (TranscribedStore σ)) : Prop where
  /-- The store is asked for nothing but the key. -/
  asked : Asked (if before.store.declared.keyValue then List.replicate count (.get key) else [])
    before after
  /-- Nothing comes into the fallback store, and nothing that is live leaves it or changes. -/
  fallback : FallbackStore.Thinned before.now after.cache.fallback before.cache.fallback
  /-- The settings are the same. -/
  configuration : after.cache.configuration = before.cache.configuration
  /-- The rules are the same. -/
  rules : after.cache.rules = before.cache.rules
  /-- The clock is the same. -/
  now : after.now = before.now

namespace Consulted

variable {key : String} {count more : Nat}

omit [BackingStore σ] in
/-- Some reads and then more of them. -/
theorem trans (early : Consulted key count before middle) (late : Consulted key more middle after) :
    Consulted key (count + more) before after where
  asked := by
    have asked := early.asked.trans late.asked
    rw [early.asked.declared] at asked
    cases declared : before.store.declared.keyValue with
    | false => simpa [declared] using asked
    | true => simpa [declared, List.replicate_append_replicate] using asked
  fallback := early.fallback.trans (early.now ▸ late.fallback)
  configuration := late.configuration.trans early.configuration
  rules := late.rules.trans early.rules
  now := late.now.trans early.now

omit [BackingStore σ] in
/-- Counters and guards play no part. -/
theorem of_same (store : after.store = before.store)
    (fallback : after.cache.fallback = before.cache.fallback)
    (configuration : after.cache.configuration = before.cache.configuration)
    (rules : after.cache.rules = before.cache.rules) (now : after.now = before.now) :
    Consulted key 0 before after where
  asked := by simpa using Asked.of_store store
  fallback := fallback ▸ .refl _ _
  configuration := configuration
  rules := rules
  now := now

/-- A payload is looked for. -/
theorem readPayload (key : String) (connection : Connection (TranscribedStore σ)) :
    Consulted key 1 connection (Connection.readPayload key connection).2 := by
  cases declared : connection.store.declared.keyValue with
  | true =>
    have chosen : Connection.readPayload key connection = Connection.ask (.get key) connection :=
      (either_apply _ _ _ connection).trans (if_pos declared)
    have quiet := quiet_ask (.get key) connection
    rw [chosen]
    refine ⟨?_, ?_, quiet.configuration, quiet.rules, quiet.now⟩
    · rw [declared]
      exact .ask _ _
    · rw [ask_transcribed]
      exact .refl _ _
  | false =>
    have undeclared : ¬ (BackingStore.capabilities connection.store).declares .keyValue = true :=
      Bool.eq_false_iff.1 declared
    have chosen : (Connection.readPayload key connection).2 =
        (serve (fun now fallback => fallback.get key now) connection).2 :=
      congrArg Prod.snd ((either_apply _ _ _ connection).trans (if_neg undeclared))
    rw [chosen]
    refine ⟨?_, ?_, rfl, rfl, rfl⟩
    · rw [declared]
      exact .of_store rfl
    · exact .of_get _ _ _

/-- A value is looked for. -/
theorem getAs (α : Type) [Storable α] (key : String)
    (connection : Connection (TranscribedStore σ)) :
    Consulted key 1 connection (Connection.getAs α key connection).2 := by
  have looked : (Connection.getAs α key connection).2 = (Connection.get key connection).2 := rfl
  rw [looked, Connection.get, bind_apply]
  have read := readPayload key connection
  rcases reading : Connection.readPayload key connection with ⟨_ | found, left⟩
  · rw [reading] at read
    exact read
  · rw [reading] at read
    have quiet := quiet_settle found left
    obtain ⟨-, store, fallback⟩ := settle_spec found left
    exact read.trans (.of_same store fallback quiet.configuration quiet.rules quiet.now)

end Consulted

/-! ## What a write asks -/

/-- The requests of a write of a value. -/
def writeRequests [Libraries] (key : String) (value : α) (stated : Option Seconds)
    (connection : Connection (TranscribedStore σ)) : List Request :=
  match Storable.write? value with
  | none => []
  | some document =>
    if connection.store.declared.keyValue then
      [.set key (Payload.encode connection.cache.configuration.compressionThreshold document)
        (connection.cache.rules.resolve key stated)]
    else []

/-- The requests of the records of tags. -/
def tagRequests (key : String) (tags : List String) (stated : Option Seconds)
    (connection : Connection (TranscribedStore σ)) : List Request :=
  if connection.store.declared.keepsTags then
    [.addMember (tags.map Key.ofTag) key (stated.getD 0)]
  else []

omit [Storable α] in
/-- A write of a payload asks for one request, if the store is asked at all. -/
theorem asked_writePayload (key payload : String) (lifetime : Seconds)
    (connection : Connection (TranscribedStore σ)) :
    Asked (if connection.store.declared.keyValue then [.set key payload lifetime] else [])
      connection (writePayload key payload lifetime connection).2 := by
  have chosen := either_apply .keyValue (discard <| Connection.ask (.set key payload lifetime))
    (serve fun now fallback => ((), fallback.set key payload lifetime now)) connection
  cases declared : connection.store.declared.keyValue with
  | true =>
    have asked : (writePayload key payload lifetime connection).2 =
        (Connection.ask (.set key payload lifetime) connection).2 :=
      congrArg Prod.snd (chosen.trans (if_pos declared))
    rw [asked]
    exact .ask _ _
  | false =>
    have served : (writePayload key payload lifetime connection).2.store = connection.store :=
      congrArg (fun run => run.2.store) (chosen.trans (if_neg (Bool.eq_false_iff.1 declared)))
    exact .of_store served

/-- A write of a value asks for its requests, whatever becomes of them. -/
theorem asked_set [Libraries] (key : String) (value : α) (stated : Option Seconds)
    (connection : Connection (TranscribedStore σ)) :
    Asked (writeRequests key value stated connection) connection
      (set key value stated connection).2 := by
  have payload : payloadOf value connection =
      ((Storable.write? value).map
        (Payload.encode connection.cache.configuration.compressionThreshold), connection) := rfl
  rw [writeRequests, set, bind_apply, payload]
  cases Storable.write? value with
  | none => exact .of_store rfl
  | some document => exact asked_writePayload _ _ _ _

/-- A record of tags asks for its requests, whatever becomes of them. -/
theorem asked_recordTags (key : String) (tags : List String) (stated : Option Seconds)
    (connection : Connection (TranscribedStore σ)) :
    Asked (tagRequests key tags stated connection) connection
      (recordTags key tags stated connection).2 := by
  have tracked : tracksTags connection = (connection.store.declared.keepsTags, connection) := rfl
  rw [tagRequests, recordTags, bind_apply, tracked]
  dsimp only
  cases connection.store.declared.keepsTags with
  | true => exact Asked.ask _ _
  | false => exact .of_store rfl

/-- Write a value of a computation. -/
def writeOf [Libraries] (computation : Computation α ε) (value : α) : StateM (Connection σ) Unit :=
  if computation.tags.isEmpty then set computation.key value computation.stated
  else setTagged computation.key value computation.tags computation.stated

/-- A computation that comes to a value writes it. -/
theorem keep_of_ok [Libraries] {computation : Computation α ε} {value : α}
    (succeeds : computation.outcome = .ok value) :
    (keep computation : StateM (Connection σ) Unit) = writeOf computation value := by
  rw [keep, succeeds]
  rfl

/-- The requests of a write of a value of a computation. -/
def keepRequests [Libraries] (computation : Computation α ε) (value : α)
    (connection : Connection (TranscribedStore σ)) : List Request :=
  writeRequests computation.key value computation.stated connection ++
    if computation.tags.isEmpty then []
    else tagRequests computation.key computation.tags computation.stated connection

/-- A write of a value of a computation asks for its requests, whatever becomes of them. -/
theorem asked_writeOf [Libraries] (computation : Computation α ε) (value : α)
    (connection : Connection (TranscribedStore σ)) :
    Asked (keepRequests computation value connection) connection
      (writeOf computation value connection).2 := by
  have written := asked_set computation.key value computation.stated connection
  rw [keepRequests, writeOf]
  cases untagged : computation.tags.isEmpty with
  | true =>
    rw [if_pos rfl, if_pos rfl, List.append_nil]
    exact written
  | false =>
    have tagged := asked_recordTags computation.key computation.tags computation.stated
      (set computation.key value computation.stated connection).2
    have same : tagRequests computation.key computation.tags computation.stated
        (set computation.key value computation.stated connection).2 =
        tagRequests computation.key computation.tags computation.stated connection := by
      rw [tagRequests, tagRequests, written.declared]
    have both : (setTagged computation.key value computation.tags computation.stated
        connection).2 = (recordTags computation.key computation.tags computation.stated
          (set computation.key value computation.stated connection).2).2 := by
      rw [setTagged, bind_apply, untagged]
      rfl
    rw [if_neg Bool.false_ne_true, if_neg Bool.false_ne_true, both]
    exact written.trans (same ▸ tagged)

omit [BackingStore σ] in
/-- The requests of a write are the same after reads. -/
theorem Consulted.keepRequests_eq [Libraries] {key : String} {count : Nat}
    (consulted : Consulted key count before after) (computation : Computation α ε) (value : α) :
    keepRequests computation value after = keepRequests computation value before := by
  rw [keepRequests, keepRequests, writeRequests, writeRequests, tagRequests, tagRequests,
    consulted.configuration, consulted.rules, consulted.asked.declared]

/-! ## One computed value -/

/-- Where a caller that found nothing stands behind the lock of its key, with its ticket. -/
def behindLock (α : Type) [Storable α] (key : String) (connection : Connection σ) :
    Ticket × Connection σ :=
  takeTicket key (getAs α key connection).2

/-- Where a computation begins, once nothing was found behind the lock either. -/
def beginning (α : Type) [Storable α] (key : String) (connection : Connection σ) : Connection σ :=
  (lookAgain α key (behindLock α key connection).2).2

/-- The ways of a computed value. -/
inductive Comes [Libraries] (computation : Computation α ε) (connection : Connection σ) :
    Computed α ε × Connection σ → Prop where
  /-- The value is found at once. -/
  | found {value : α} (first : (getAs α computation.key connection).1 = some value) :
    Comes computation connection (⟨.ok value, false⟩, (getAs α computation.key connection).2)
  /-- The value is found behind the lock. -/
  | foundAgain {value : α} (first : (getAs α computation.key connection).1 = none)
    (second : (getAs α computation.key (behindLock α computation.key connection).2).1 =
      some value) :
    Comes computation connection (⟨.ok value, false⟩,
      (giveBack (behindLock α computation.key connection).1
        (beginning α computation.key connection)).2)
  /-- Nothing is found, and the computation runs. -/
  | ran (first : (getAs α computation.key connection).1 = none)
    (second : (getAs α computation.key (behindLock α computation.key connection).2).1 = none) :
    Comes computation connection (⟨computation.outcome, true⟩,
      (giveBack (behindLock α computation.key connection).1
        (keep computation (beginning α computation.key connection)).2).2)

/-- A value is looked for behind its lock as it is anywhere else. -/
theorem lookAgain_fst (α : Type) [Storable α] (key : String) (connection : Connection σ) :
    (lookAgain α key connection).1 = (getAs α key connection).1 := by
  rw [lookAgain, bind_apply]
  cases (getAs α key connection).1 <;> rfl

/-- A computed value is found at once, or behind the lock, or else computed and written. -/
theorem compute_comes [Libraries] (computation : Computation α ε) (connection : Connection σ) :
    Comes computation connection (compute computation connection) := by
  cases first : (getAs α computation.key connection).1 with
  | some value =>
    have computed : compute computation connection =
        (⟨.ok value, false⟩, (getAs α computation.key connection).2) := by
      rw [compute, bind_apply, first]
      rfl
    rw [computed]
    exact .found first
  | none =>
    have locked : compute computation connection =
        goOn computation (behindLock α computation.key connection).1
          (behindLock α computation.key connection).2 := by
      rw [compute, bind_apply, first]
      rfl
    have looked := lookAgain_fst α computation.key (behindLock α computation.key connection).2
    rw [locked, goOn, bind_apply, looked]
    cases second : (getAs α computation.key (behindLock α computation.key connection).2).1 with
    | some value => exact .foundAgain first second
    | none => exact .ran first second

/-- A look behind the lock reads the key once, and counts the computation that begins. -/
theorem lookAgain_spec (α : Type) [Storable α] (key : String)
    (connection : Connection (TranscribedStore σ)) :
    Consulted key 1 connection (lookAgain α key connection).2 ∧
      (lookAgain α key connection).2.cache.counters.computations =
        connection.cache.counters.computations +
          if (getAs α key connection).1.isSome then 0 else 1 := by
  have read := Consulted.getAs α key connection
  have counted : (getAs α key connection).2.cache.counters.computations =
      connection.cache.counters.computations := (quiet_getKey key connection).computations
  rw [lookAgain, bind_apply]
  cases (getAs α key connection).1 with
  | some value => exact ⟨read, counted⟩
  | none =>
    have begins : Consulted key 0 (getAs α key connection).2
        (count .computation (getAs α key connection).2).2 := .of_same rfl rfl rfl rfl rfl
    exact ⟨read.trans begins, congrArg (· + 1) counted⟩

/-- Up to the lock the key is read once. -/
theorem consulted_behindLock (α : Type) [Storable α] (key : String)
    (connection : Connection (TranscribedStore σ)) :
    Consulted key 1 connection (behindLock α key connection).2 := by
  have locks : Consulted key 0 (getAs α key connection).2 (behindLock α key connection).2 :=
    .of_same rfl rfl rfl rfl rfl
  exact (Consulted.getAs α key connection).trans locks

/-- Up to the beginning of a computation the key is read twice. -/
theorem consulted_beginning (α : Type) [Storable α] (key : String)
    (connection : Connection (TranscribedStore σ)) :
    Consulted key 2 connection (beginning α key connection) :=
  (consulted_behindLock α key connection).trans (lookAgain_spec α key _).1

/-- The ticket of a caller is the next one for its key. -/
theorem guards_behindLock (α : Type) [Storable α] (key : String) (connection : Connection σ) :
    (behindLock α key connection).1 = (connection.cache.guards.take key).1 ∧
      (behindLock α key connection).2.cache.guards = (connection.cache.guards.take key).2 := by
  have alike := quiet_getKey key connection
  have looked : (getAs α key connection).2 = (get key connection).2 := rfl
  rw [behindLock, takeTicket_apply, looked]
  dsimp only
  rw [alike.guards]
  exact ⟨rfl, rfl⟩

/-- A computed value leaves the tickets as they were. -/
theorem compute_tickets [Libraries] {connection : Connection σ}
    (coherent : connection.cache.guards.Coherent)
    (computation : Computation α ε) :
    (compute computation connection).2.cache.guards.Coherent ∧
      (compute computation connection).2.cache.guards.tickets =
        connection.cache.guards.tickets := by
  have alike := quiet_getKey computation.key connection
  have looked : (getAs α computation.key connection).2 = (get computation.key connection).2 := rfl
  obtain ⟨ticket, guards⟩ := guards_behindLock α computation.key connection
  have back : (goOn computation (behindLock α computation.key connection).1
      (behindLock α computation.key connection).2).2.cache.guards =
        (connection.cache.guards.take computation.key).2.giveBack
          (connection.cache.guards.take computation.key).1 := by
    rw [goOn_guards, guards, ticket]
  rw [compute, bind_apply]
  cases (getAs α computation.key connection).1 with
  | some value =>
    rw [looked]
    exact ⟨alike.guards.symm ▸ coherent, congrArg Guards.tickets alike.guards⟩
  | none =>
    have taken := (Guards.take_spec coherent computation.key).1
    change (goOn computation (behindLock α computation.key connection).1
      (behindLock α computation.key connection).2).2.cache.guards.Coherent ∧ _
    refine ⟨back.symm ▸ taken.giveBack _, ?_⟩
    exact (congrArg Guards.tickets back).trans (coherent.tickets_take_giveBack computation.key)

/-- A cache is transparent to a computed value that comes to a result and leaves a connection. -/
structure Transparent [Libraries] (computation : Computation α ε)
    (connection : Connection (TranscribedStore σ))
    (computed : Computed α ε) (left : Connection (TranscribedStore σ)) : Prop where
  /-- The computation is counted once if it runs, and else it is not. -/
  once : left.cache.counters.computations =
    connection.cache.counters.computations + if computed.ran then 1 else 0
  /-- A value that is not computed is what a read of the key finds, at once or behind the lock. -/
  found : computed.ran = false → ∃ value, computed.result = .ok value ∧
    ((getAs α computation.key connection).1 = some value ∨
      (getAs α computation.key connection).1 = none ∧
        (getAs α computation.key (behindLock α computation.key connection).2).1 = some value)
  /-- A computation runs where neither read finds a value, and then its outcome is the result. -/
  ran : computed.ran = true → (getAs α computation.key connection).1 = none ∧
    (getAs α computation.key (behindLock α computation.key connection).2).1 = none ∧
    computed.result = computation.outcome
  /-- Without a new value nothing but the reads is left. -/
  unwritten : (computed.ran = false ∨ ∃ error, computation.outcome = .error error) →
    ∃ count ≤ 2, Consulted computation.key count connection left
  /-- The requests for a new value are the two reads and those of its write. -/
  asked : computed.ran = true → ∀ value, computation.outcome = .ok value → ∃ reads writes,
    (∀ request ∈ reads, request = .get computation.key) ∧
      Asked (reads ++ writes) connection left ∧
      Asked writes connection (writeOf computation value connection).2
  /-- What a new value leaves is what its write leaves where the computation began. -/
  written : computed.ran = true → ∀ value, computation.outcome = .ok value →
    let start := beginning α computation.key connection
    Consulted computation.key 2 connection start ∧
      left.store = (writeOf computation value start).2.store ∧
      left.cache.fallback = (writeOf computation value start).2.cache.fallback

/-- A computed value leaves no lock behind. -/
structure Released (computation : Computation α ε) (connection left : Connection σ) : Prop where
  /-- The lock of the key would be owned at once. -/
  owned : (behindLock α computation.key connection).2.cache.guards.owns
    (behindLock α computation.key connection).1 = true
  /-- The guards are coherent. -/
  coherent : left.cache.guards.Coherent
  /-- The tickets are those of others. -/
  tickets : left.cache.guards.tickets = connection.cache.guards.tickets
  /-- Nobody owns the lock of the key. -/
  free : ∀ ticket, left.cache.guards.owns ticket = true → ticket.key ≠ computation.key

/-- A computed value whose key nobody stands in line for leaves no lock behind. -/
theorem compute_released [Libraries] {connection : Connection σ}
    (coherent : connection.cache.guards.Coherent)
    {computation : Computation α ε} (free : connection.cache.guards.line computation.key = []) :
    Released computation connection (compute computation connection).2 where
  owned := by
    obtain ⟨ticket, guards⟩ := guards_behindLock α computation.key connection
    rw [ticket, guards]
    exact coherent.owns_take free
  coherent := (compute_tickets coherent computation).1
  tickets := (compute_tickets coherent computation).2
  free := by
    intro ticket owns own
    have held := (Guards.mem_of_owner? ((Guards.owns_iff _ _).1 owns)).1
    rw [(compute_tickets coherent computation).2] at held
    have stands := Guards.mem_line.2 ⟨held, own⟩
    rw [free] at stands
    exact List.not_mem_nil stands

/-- A computation that comes to an error writes nothing. -/
theorem keep_of_error [Libraries] {computation : Computation α ε} {error : ε}
    (fails : computation.outcome = .error error) (connection : Connection σ) :
    keep computation connection = ((), connection) := by
  rw [keep, fails]
  rfl

omit [BackingStore σ] in
/-- A ticket that is given back is no matter of the store. -/
theorem Consulted.giveBack {key : String} {count : Nat}
    (consulted : Consulted key count before after) (ticket : Ticket) :
    Consulted key count before (giveBack ticket after).2 :=
  ⟨⟨consulted.asked.declared, consulted.asked.lines⟩, consulted.fallback, consulted.configuration,
    consulted.rules, consulted.now⟩

/-- The computations that have begun are counted. -/
theorem computations_beginning (α : Type) [Storable α] (key : String)
    (connection : Connection (TranscribedStore σ)) :
    (beginning α key connection).cache.counters.computations =
      connection.cache.counters.computations +
        if (getAs α key (behindLock α key connection).2).1.isSome then 0 else 1 := by
  have locked : (behindLock α key connection).2.cache.counters.computations =
      connection.cache.counters.computations := (quiet_getKey key connection).computations
  rw [beginning, (lookAgain_spec α key _).2, locked]

/-- A cache is transparent to a value that is found at once. -/
theorem transparent_found [Libraries] {computation : Computation α ε} {value : α}
    (first : (getAs α computation.key connection).1 = some value) :
    Transparent computation connection ⟨.ok value, false⟩
      (getAs α computation.key connection).2 where
  once := (quiet_getKey computation.key connection).computations
  found _ := ⟨value, rfl, .inl first⟩
  ran ran := absurd ran Bool.false_ne_true
  unwritten _ := ⟨1, by decide, .getAs ..⟩
  asked ran := absurd ran Bool.false_ne_true
  written ran := absurd ran Bool.false_ne_true

/-- A cache is transparent to a value that is found behind its lock. -/
theorem transparent_foundAgain [Libraries] {computation : Computation α ε} {value : α}
    (first : (getAs α computation.key connection).1 = none)
    (second : (getAs α computation.key (behindLock α computation.key connection).2).1 =
      some value) :
    Transparent computation connection ⟨.ok value, false⟩
      (giveBack (behindLock α computation.key connection).1
        (beginning α computation.key connection)).2 where
  once := by
    have counted := computations_beginning α computation.key connection
    rw [second] at counted
    exact counted
  found _ := ⟨value, rfl, .inr ⟨first, second⟩⟩
  ran ran := absurd ran Bool.false_ne_true
  unwritten _ := ⟨2, by decide, (consulted_beginning ..).giveBack _⟩
  asked ran := absurd ran Bool.false_ne_true
  written ran := absurd ran Bool.false_ne_true

/-- A cache is transparent to a value that is computed. -/
theorem transparent_ran [Libraries] {computation : Computation α ε}
    (first : (getAs α computation.key connection).1 = none)
    (second : (getAs α computation.key (behindLock α computation.key connection).2).1 = none) :
    Transparent computation connection ⟨computation.outcome, true⟩
      (giveBack (behindLock α computation.key connection).1
        (keep computation (beginning α computation.key connection)).2).2 where
  once := by
    have counted := computations_beginning α computation.key connection
    rw [second] at counted
    exact (quiet_keep computation _).computations.trans counted
  found found := absurd found.symm Bool.false_ne_true
  ran _ := ⟨first, second, rfl⟩
  unwritten stays := by
    rcases stays with found | ⟨error, fails⟩
    · exact absurd found.symm Bool.false_ne_true
    · rw [keep_of_error fails]
      exact ⟨2, by decide, (consulted_beginning ..).giveBack _⟩
  asked _ value succeeds := by
    have consulted := consulted_beginning α computation.key connection
    have wrote := asked_writeOf computation value (beginning α computation.key connection)
    have asked := consulted.asked.trans wrote
    rw [consulted.keepRequests_eq, ← keep_of_ok succeeds] at asked
    refine ⟨_, _, ?_, ⟨asked.declared, asked.lines⟩, asked_writeOf computation value connection⟩
    intro request held
    split at held
    · exact List.eq_of_mem_replicate held
    · exact absurd held List.not_mem_nil
  written _ value succeeds := by
    rw [keep_of_ok succeeds]
    exact ⟨consulted_beginning .., rfl, rfl⟩

/-- A cache is transparent to a computed value, whatever it holds behind coherent guards, whatever
is stored and whichever requests fail. The computation runs once at most. If it does not run, the
caller gets what a read of the key finds; if it runs, the caller gets its outcome. An error leaves
nothing but two reads behind, so no value or record of a tag is written and nothing live is touched;
a value is written as it would be without the reads, under the same key and tags and with the same
lifetime. A caller whose key nobody stands in line for owns the lock at once and leaves it free.
This holds for the results of request handlers as well, which are computed values under the keys of
their policies. -/
theorem compute_transparent [Libraries] (coherent : connection.cache.guards.Coherent)
    (computation : Computation α ε)
    (uncontended : connection.cache.guards.line computation.key = []) :
    let computed := (compute computation connection).1
    let left := (compute computation connection).2
    Session.compute computation connection.session = (computed, left.session) ∧
      (∀ (policy : Key.EndpointPolicy) user keywords,
        computation =
            ⟨policy.key user keywords, policy.lifetime, policy.tags, computation.outcome⟩ →
          Session.computeEndpoint policy user keywords computation.outcome connection.session =
            (computed, left.session)) ∧
      Transparent computation connection computed left ∧
      Released computation connection left := by
  intro computed left
  have run : Session.compute computation connection.session = (computed, left.session) := rfl
  refine ⟨run, fun policy user keywords same => ?_, ?_, compute_released coherent uncontended⟩
  · rw [Session.computeEndpoint, ← same, run]
  have comes : Comes computation connection (computed, left) :=
    compute_comes computation connection
  generalize computed = result at comes ⊢
  generalize left = last at comes ⊢
  cases comes with
  | found first => exact transparent_found first
  | foundAgain first second => exact transparent_foundAgain first second
  | ran first second => exact transparent_ran first second

/-- A cache on a store that refuses every value. -/
def refusedCache : Connection (TranscribedStore (ObservedStore MemoryStore)) :=
  .opened .standard ⟨⟨.ofCapacity 9, .all, [(.set, .all)], none, []⟩, .all, []⟩ 0

/-- A value to be computed and written under a tag. -/
def taggedComputation : Computation Document String :=
  ⟨"k", some 60, ["t"], .ok (.integer 1)⟩

open scoped Libraries.Plain

/-- The caller gets the value though the store refuses it, and its tag is recorded even so. -/
theorem compute_transparent_refused :
    refusedCache.cache.guards.Coherent ∧ refusedCache.cache.guards.line "k" = [] ∧
      (compute taggedComputation refusedCache).1.result = .ok (.integer 1) ∧
      ∃ reads, (∀ request ∈ reads, request = .get "k") ∧
        Asked (reads ++ [.set "k" "0|1" 60, .addMember ["tag:t"] "k" 60]) refusedCache
          (compute taggedComputation refusedCache).2 := by
  have coherent : refusedCache.cache.guards.Coherent := Guards.coherent_ofBound _
  obtain ⟨-, -, transparent, -⟩ := compute_transparent coherent taggedComputation rfl
  have ran : (compute taggedComputation refusedCache).1.ran = true := by decide +kernel
  obtain ⟨reads, writes, only, asked, wrote⟩ := transparent.asked ran (.integer 1) rfl
  obtain ⟨added, lines, rfl⟩ := wrote.lines
  have requests : (writeOf taggedComputation (.integer 1) refusedCache).2.store.lines.map
      TranscriptLine.request = [.set "k" "0|1" 60, .addMember ["tag:t"] "k" 60] := by
    decide +kernel
  rw [lines] at requests
  exact ⟨coherent, rfl, (transparent.ran ran).2.2, reads, only, requests ▸ asked⟩

end Connection

end FailOpenCache
