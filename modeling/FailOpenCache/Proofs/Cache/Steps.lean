import FailOpenCache.Proofs.Cache.Connection
import FailOpenCache.Proofs.Store.Transcripts
import FailOpenCache.Cache.Batches
import FailOpenCache.Cache.Concurrency
import Mathlib.Logic.Relation

/-!
# Operations as steps

On a connection whose requests are written down every operation is a sequence of elementary steps: a
request of a group that the store declares, the count of an event, or a change of what is kept in
the process. An operation may count some events only, and only one that counts computations touches
the guards. What every elementary step keeps true is kept by every operation, whatever the store
answers: that the books are in order, for one.
-/

namespace FailOpenCache

/-- The books are in order: each fault in the transcript is counted once as a failed call, every
request was of a declared group, the errors are answers of stores of the kind, and whatever could
not be decoded was a miss as well. -/
structure BooksKept (σ : Type) [BackingStore σ] (counters : Counters)
    (lines : List TranscriptLine) : Prop where
  /-- Each fault is counted once. -/
  faults : counters.storeErrors = lines.countP TranscriptLine.isFault
  /-- A request is of a declared group, if it is of any. -/
  offered : ∀ line ∈ lines, ∀ group, line.request.operation.group? = some group →
    line.declared.declares group = true
  /-- The errors are answers of stores. -/
  genuine : ∀ line ∈ lines, ∃ (now : Millis) (store : σ),
    line.refusal = refusalOf (BackingStore.answer line.request now store).1
  /-- Whatever could not be decoded was a miss. -/
  decoded : counters.decodeErrors ≤ counters.misses

variable {σ : Type} [BackingStore σ]

/-- A request of a declared group is counted if it met an error. -/
def Counters.afterRequest (counters : Counters) (line : TranscriptLine) : Counters :=
  if line.isFault then counters.record .storeError else counters

/-- A request that is written down and counted keeps the books in order. -/
theorem BooksKept.request {counters : Counters} {lines : List TranscriptLine}
    (books : BooksKept σ counters lines) (asked : Request) (declared : Capabilities)
    (now : Millis) (store : σ)
    (offered : ∀ group, asked.operation.group? = some group → declared.declares group = true) :
    BooksKept σ
      (counters.afterRequest ⟨asked, declared, refusalOf (BackingStore.answer asked now store).1⟩)
      (lines ++ [⟨asked, declared, refusalOf (BackingStore.answer asked now store).1⟩]) where
  faults := by
    rw [List.countP_append, List.countP_singleton, ← books.faults, Counters.afterRequest]
    split <;> rfl
  offered line held := by
    rcases List.mem_append.1 held with before | last
    · exact books.offered line before
    · exact List.mem_singleton.1 last ▸ offered
  genuine line held := by
    rcases List.mem_append.1 held with before | last
    · exact books.genuine line before
    · exact List.mem_singleton.1 last ▸ ⟨now, store, rfl⟩
  decoded := by
    rw [Counters.afterRequest]
    split
    · exact books.decoded
    · exact books.decoded

namespace Connection

variable {α β ε : Type}

/-- A request that is written down: the answer is the store's, and an error is counted. -/
theorem ask_transcribed (asked : Request) (connection : Connection (TranscribedStore σ)) :
    ask asked connection =
      ((BackingStore.answer asked connection.now connection.store.store).1.toOption,
        { connection with
          cache := { connection.cache with
            counters :=
              if (refusalOf (BackingStore.answer asked connection.now
                connection.store.store).1).isSome then connection.cache.counters.record .storeError
              else connection.cache.counters }
          store := (TranscribedStore.answer asked connection.now connection.store).2 }) := by
  have answered : (BackingStore.answer asked connection.now connection.store).1 =
      (BackingStore.answer asked connection.now connection.store.store).1 := rfl
  cases reply : (BackingStore.answer asked connection.now connection.store.store).1 with
  | ok found => exact ask_ok (answered.trans reply)
  | error fault => exact ask_error (answered.trans reply)

/-! ## Elementary steps -/

/-- An elementary step of an operation that may count certain events. -/
inductive Step (counted : Event → Prop) (before : Connection (TranscribedStore σ)) :
    Connection (TranscribedStore σ) → Prop where
  /-- A request of a group that the store declares. -/
  | ask (asked : Request) (offered : before.store.declared.Offers asked) :
    Step counted before (ask asked before).2
  /-- The count of an event that has nothing to do with errors. -/
  | note (event : Event) (may : counted event)
    (plain : event ≠ .storeError ∧ event ≠ .decodeError) :
    Step counted before (count event before).2
  /-- The counts of a payload that could not be decoded. -/
  | unreadable (may : counted .decodeError) (missed : counted .miss) :
    Step counted before (count .miss (count .decodeError before).2).2
  /-- A change of what the fallback store holds. -/
  | inProcess (fallback : FallbackStore) :
    Step counted before { before with cache := { before.cache with fallback := fallback } }
  /-- A change of the guards. -/
  | guards (guards : Guards) (may : counted .computation) :
    Step counted before { before with cache := { before.cache with guards := guards } }

/-- Elementary steps, one after the other. -/
abbrev Steps (counted : Event → Prop) :
    Connection (TranscribedStore σ) → Connection (TranscribedStore σ) → Prop :=
  Relation.ReflTransGen (Step counted)

section Kept

variable {counted : Event → Prop} {before after : Connection (TranscribedStore σ)}

/-- A step leaves the declarations alone. -/
theorem Step.declared (step : Step counted before after) :
    after.store.declared = before.store.declared := by
  cases step with
  | ask asked offered => rw [ask_transcribed]; rfl
  | note event may plain => rfl
  | unreadable may missed => rfl
  | inProcess fallback => rfl
  | guards guards may => rfl

/-- A step adds to the transcript at its end. -/
theorem Step.lines (step : Step counted before after) :
    before.store.lines <+: after.store.lines := by
  cases step with
  | ask asked offered => rw [ask_transcribed]; exact List.prefix_append _ _
  | note event may plain => exact List.prefix_rfl
  | unreadable may missed => exact List.prefix_rfl
  | inProcess fallback => exact List.prefix_rfl
  | guards guards may => exact List.prefix_rfl

/-- A step keeps the books in order. -/
theorem Step.books (step : Step counted before after)
    (books : BooksKept σ before.cache.counters before.store.lines) :
    BooksKept σ after.cache.counters after.store.lines := by
  cases step with
  | ask asked offered =>
    rw [ask_transcribed]
    obtain ⟨group, belongs, declares⟩ := offered
    have kept := books.request asked before.store.declared before.now before.store.store
      fun other same => Option.some.inj (belongs.symm.trans same) ▸ declares
    rw [Counters.afterRequest, TranscriptLine.isFault, belongs, Option.isSome_some,
      Bool.true_and] at kept
    exact kept
  | note event may plain =>
    cases event with
    | storeError => exact absurd rfl plain.1
    | decodeError => exact absurd rfl plain.2
    | hit => exact ⟨books.faults, books.offered, books.genuine, books.decoded⟩
    | miss =>
      exact ⟨books.faults, books.offered, books.genuine, Nat.le_succ_of_le books.decoded⟩
    | fallback => exact ⟨books.faults, books.offered, books.genuine, books.decoded⟩
    | computation => exact ⟨books.faults, books.offered, books.genuine, books.decoded⟩
  | unreadable may missed =>
    exact ⟨books.faults, books.offered, books.genuine, Nat.succ_le_succ books.decoded⟩
  | inProcess fallback => exact books
  | guards guards may => exact books

/-- A step that counts no computation leaves the guards alone. -/
theorem Step.guards_eq (step : Step counted before after) (uncounted : ¬ counted .computation) :
    after.cache.guards = before.cache.guards := by
  cases step with
  | ask asked offered => rw [ask_transcribed]
  | note event may plain => rfl
  | unreadable may missed => rfl
  | inProcess fallback => rfl
  | guards guards may => exact absurd may uncounted

/-- A step that counts neither hits nor misses leaves their counts alone. -/
theorem Step.reads_eq (step : Step counted before after) (unhit : ¬ counted .hit)
    (unmissed : ¬ counted .miss) :
    after.cache.counters.hits = before.cache.counters.hits ∧
      after.cache.counters.misses = before.cache.counters.misses := by
  cases step with
  | ask asked offered =>
    rw [ask_transcribed]
    dsimp only
    split <;> exact ⟨rfl, rfl⟩
  | note event may plain =>
    cases event with
    | hit => exact absurd may unhit
    | miss => exact absurd may unmissed
    | _ => exact ⟨rfl, rfl⟩
  | unreadable may missed => exact absurd missed unmissed
  | inProcess fallback => exact ⟨rfl, rfl⟩
  | guards guards may => exact ⟨rfl, rfl⟩

/-- Steps leave the declarations alone. -/
theorem Steps.declared (steps : Steps counted before after) :
    after.store.declared = before.store.declared := by
  induction steps with
  | refl => rfl
  | tail _ step ih => exact step.declared.trans ih

/-- Steps add to the transcript at its end. -/
theorem Steps.lines (steps : Steps counted before after) :
    before.store.lines <+: after.store.lines := by
  induction steps with
  | refl => exact List.prefix_rfl
  | tail _ step ih => exact ih.trans step.lines

/-- Steps keep the books in order. -/
theorem Steps.books (steps : Steps counted before after)
    (books : BooksKept σ before.cache.counters before.store.lines) :
    BooksKept σ after.cache.counters after.store.lines := by
  induction steps with
  | refl => exact books
  | tail _ step ih => exact step.books ih

/-- Steps that count no computation leave the guards alone. -/
theorem Steps.guards_eq (steps : Steps counted before after) (uncounted : ¬ counted .computation) :
    after.cache.guards = before.cache.guards := by
  induction steps with
  | refl => rfl
  | tail _ step ih => exact (step.guards_eq uncounted).trans ih

/-- Steps that count neither hits nor misses leave their counts alone. -/
theorem Steps.reads_eq (steps : Steps counted before after) (unhit : ¬ counted .hit)
    (unmissed : ¬ counted .miss) :
    after.cache.counters.hits = before.cache.counters.hits ∧
      after.cache.counters.misses = before.cache.counters.misses := by
  induction steps with
  | refl => exact ⟨rfl, rfl⟩
  | tail _ step ih =>
    obtain ⟨hits, misses⟩ := step.reads_eq unhit unmissed
    exact ⟨hits.trans ih.1, misses.trans ih.2⟩

end Kept

/-! ## Operations -/

/-- Over a store with these declarations the operation is a sequence of steps. -/
def Stepwise (declared : Capabilities) (counted : Event → Prop)
    (operation : StateM (Connection (TranscribedStore σ)) α) : Prop :=
  ∀ connection, connection.store.declared = declared →
    Steps counted connection (operation connection).2

variable {declared : Capabilities} {counted : Event → Prop}

/-- An operation that leaves everything as it is. -/
theorem stepwise_of_same {operation : StateM (Connection (TranscribedStore σ)) α}
    (same : ∀ connection, (operation connection).2 = connection) :
    Stepwise declared counted operation := by
  intro connection _
  rw [same connection]

/-- An answer alone. -/
theorem stepwise_pure (answer : α) :
    Stepwise declared counted (pure answer : StateM (Connection (TranscribedStore σ)) α) :=
  stepwise_of_same fun _ => rfl

/-- Two operations, one after the other. -/
theorem stepwise_bind {first : StateM (Connection (TranscribedStore σ)) α}
    {later : α → StateM (Connection (TranscribedStore σ)) β}
    (early : Stepwise declared counted first)
    (late : ∀ answer, Stepwise declared counted (later answer)) :
    Stepwise declared counted (first >>= later) := fun connection declares =>
  (early connection declares).trans
    (late _ _ ((early connection declares).declared.trans declares))

/-- An operation without its answer. -/
theorem stepwise_discard {operation : StateM (Connection (TranscribedStore σ)) α}
    (stepwise : Stepwise declared counted operation) :
    Stepwise declared counted
      (discard operation : StateM (Connection (TranscribedStore σ)) PUnit) :=
  fun connection declares => stepwise connection declares

/-- A choice between operations. -/
theorem stepwise_ite {condition : Prop} [Decidable condition]
    {first later : StateM (Connection (TranscribedStore σ)) α}
    (early : condition → Stepwise declared counted first)
    (late : ¬ condition → Stepwise declared counted later) :
    Stepwise declared counted (if condition then first else later) := by
  split
  · exact early ‹_›
  · exact late ‹_›

/-- An operation that goes on with what the store declares. -/
theorem stepwise_declares {group : OperationGroup}
    {rest : Bool → StateM (Connection (TranscribedStore σ)) α}
    (goesOn : Stepwise declared counted (rest (declared.declares group))) :
    Stepwise declared counted (declares group >>= rest) := by
  intro connection same
  rw [bind_apply, declares_apply]
  have known : BackingStore.capabilities connection.store = declared := same
  rw [known]
  exact goesOn connection same

/-- An operation that is asked of the store if it declares a group, and done otherwise if not. -/
theorem stepwise_either {group : OperationGroup}
    {asked served : StateM (Connection (TranscribedStore σ)) α}
    (asks : declared.declares group = true → Stepwise declared counted asked)
    (serves : Stepwise declared counted served) :
    Stepwise declared counted (do if ← declares group then asked else served) :=
  stepwise_declares (stepwise_ite asks fun _ => serves)

/-- An operation on the records of tags, which the store keeps only if it can drop them as well. -/
theorem stepwise_tracked {asked served : StateM (Connection (TranscribedStore σ)) α}
    (asks : declared.sets = true → declared.keyValue = true → Stepwise declared counted asked)
    (serves : Stepwise declared counted served) :
    Stepwise declared counted (do if ← tracksTags then asked else served) := by
  intro connection same
  have known : BackingStore.capabilities connection.store = declared := same
  simp only [tracksTags, bind_apply, get_apply, pure_apply, known]
  cases keeps : declared.keepsTags with
  | true =>
    obtain ⟨sets, values⟩ := Bool.and_eq_true_iff.1 keeps
    exact asks sets values connection same
  | false => exact serves connection same

/-- A request of a declared group. -/
theorem stepwise_ask {asked : Request} (group : OperationGroup)
    (declares : declared.declares group = true)
    (belongs : asked.operation.group? = some group) :
    Stepwise declared counted
      (ask asked : StateM (Connection (TranscribedStore σ)) (Option asked.Reply)) := by
  intro connection same
  exact .single (.ask asked ⟨group, belongs, same ▸ declares⟩)

/-- The count of an event that has nothing to do with errors. -/
theorem stepwise_count {event : Event} (may : counted event)
    (plain : event ≠ .storeError ∧ event ≠ .decodeError) :
    Stepwise declared counted
      (count event : StateM (Connection (TranscribedStore σ)) Unit) :=
  fun _ _ => .single (.note event may plain)

/-- A call of the fallback store. -/
theorem stepwise_inProcess (operation : Millis → FallbackStore → α × FallbackStore) :
    Stepwise declared counted
      (inProcess operation : StateM (Connection (TranscribedStore σ)) α) :=
  fun _ _ => .single (.inProcess _)

/-- A ticket that is taken. -/
theorem stepwise_takeTicket (may : counted .computation) (key : String) :
    Stepwise declared counted
      (takeTicket key : StateM (Connection (TranscribedStore σ)) Ticket) :=
  fun _ _ => .single (.guards _ may)

/-- A ticket that is given back. -/
theorem stepwise_giveBack (may : counted .computation) (ticket : Ticket) :
    Stepwise declared counted
      (giveBack ticket : StateM (Connection (TranscribedStore σ)) Unit) :=
  fun _ _ => .single (.guards _ may)

variable [Storable α]

/-! ## Writes and deletions -/

section Writes

variable (served : counted .fallback)

include served

/-- An operation that is served in the process. -/
theorem stepwise_serve (operation : Millis → FallbackStore → β × FallbackStore) :
    Stepwise declared counted (serve operation : StateM (Connection (TranscribedStore σ)) β) :=
  stepwise_bind (stepwise_count served (by decide)) fun _ => stepwise_inProcess _

/-- A write. -/
theorem stepwise_set [Libraries] (key : String) (value : α) (stated : Option Seconds) :
    Stepwise declared counted
      (set key value stated : StateM (Connection (TranscribedStore σ)) Unit) := by
  refine stepwise_bind (stepwise_of_same fun _ => rfl) fun payload => ?_
  cases payload with
  | none => exact stepwise_pure _
  | some payload =>
    refine stepwise_bind (stepwise_of_same fun _ => rfl) fun lifetime => ?_
    exact stepwise_either (fun values => stepwise_discard (stepwise_ask _ values rfl))
      (stepwise_serve served _)

/-- A deletion. -/
theorem stepwise_deleteAll (keys : List String) :
    Stepwise declared counted
      (deleteAll keys : StateM (Connection (TranscribedStore σ)) Nat) := by
  refine stepwise_ite (fun _ => stepwise_pure _) fun _ => stepwise_either (fun values => ?_)
    (stepwise_serve served _)
  exact stepwise_bind (stepwise_ask _ values rfl) fun _ => stepwise_pure _

/-- A probe. -/
theorem stepwise_probe (key : String) :
    Stepwise declared counted (probe key : StateM (Connection (TranscribedStore σ)) Bool) := by
  refine stepwise_either (fun values => ?_) (stepwise_serve served _)
  exact stepwise_bind (stepwise_ask _ values rfl) fun _ => stepwise_pure _

/-- An addition to a counter. -/
theorem stepwise_increment (key : String) (amount : Int) :
    Stepwise declared counted
      (increment key amount : StateM (Connection (TranscribedStore σ)) Int) := by
  refine stepwise_either (fun counts => ?_)
    (stepwise_bind (stepwise_serve served _) fun _ => stepwise_pure _)
  exact stepwise_bind (stepwise_ask _ counts rfl) fun _ => stepwise_pure _

omit served [Storable α] in
/-- The payloads of a group, one by one. -/
theorem stepwise_writeEach (values : declared.keyValue = true) (lifetime : Seconds)
    (items : List (String × String)) :
    Stepwise declared counted
      (writeEach lifetime items : StateM (Connection (TranscribedStore σ)) Unit) := by
  induction items with
  | nil => exact stepwise_pure _
  | cons item rest ih =>
    exact stepwise_bind (stepwise_discard (stepwise_ask .keyValue values rfl))
      fun _ => ih

/-- A group of payloads. -/
theorem stepwise_writeGroup (group : WriteGroup) :
    Stepwise declared counted
      (writeGroup group : StateM (Connection (TranscribedStore σ)) Unit) := by
  refine stepwise_declares (stepwise_ite (fun _ => stepwise_serve served _) fun values => ?_)
  rw [Bool.not_eq_true, Bool.not_eq_false'] at values
  exact stepwise_either (fun pipelined => stepwise_discard (stepwise_ask _ pipelined rfl))
    (stepwise_writeEach values _ _)

/-- A write of several values. -/
theorem stepwise_setMany [Libraries] (items : List (String × α)) (stated : Option Seconds) :
    Stepwise declared counted
      (setMany items stated : StateM (Connection (TranscribedStore σ)) Unit) := by
  refine stepwise_bind (stepwise_of_same fun _ => rfl) fun groups => ?_
  induction groups with
  | nil => exact stepwise_pure _
  | cons group rest ih => exact stepwise_bind (stepwise_writeGroup served group) fun _ => ih

/-- A write under tags. -/
theorem stepwise_setTagged [Libraries] (key : String) (value : α) (tags : List String)
    (stated : Option Seconds) :
    Stepwise declared counted
      (setTagged key value tags stated : StateM (Connection (TranscribedStore σ)) Unit) := by
  refine stepwise_bind (stepwise_set served key value stated) fun _ =>
    stepwise_ite (fun _ => stepwise_pure _) fun _ => ?_
  exact stepwise_tracked
    (fun sets _ => stepwise_discard (stepwise_ask .sets sets rfl))
    (stepwise_serve served _)

/-- An invalidation by a tag: the record is read and dropped by requests of two groups. -/
theorem stepwise_invalidateTag (tag : String) :
    Stepwise declared counted
      (invalidateTag tag : StateM (Connection (TranscribedStore σ)) Nat) := by
  refine stepwise_bind (stepwise_tracked
    (fun sets _ => stepwise_ask .sets sets rfl)
    (stepwise_bind (stepwise_serve served _) fun _ => stepwise_pure _)) fun found => ?_
  rcases found with _ | _ | ⟨member, rest⟩
  · exact stepwise_pure _
  · exact stepwise_pure _
  · refine stepwise_bind (stepwise_deleteAll served _) fun _ =>
      stepwise_bind (stepwise_tracked (fun _ values => ?_) ?_) fun _ => stepwise_pure _
    · exact stepwise_discard (stepwise_ask .keyValue values rfl)
    · exact stepwise_discard (stepwise_inProcess _)

omit served [Storable α] in
/-- A walk, whose pages are read and deleted by requests of two groups. -/
theorem stepwise_walk (scans : declared.scan = true) (values : declared.keyValue = true)
    (pattern : String) (cursor removed pages : Nat) :
    Stepwise declared counted
      (walk pattern cursor removed pages :
        StateM (Connection (TranscribedStore σ)) (Ending Walk)) := by
  induction pages generalizing cursor removed with
  | zero => exact stepwise_pure _
  | succ pages ih =>
    refine stepwise_bind (stepwise_of_same fun _ => rfl) fun _ =>
      stepwise_bind (stepwise_ask .scan scans rfl) fun scanned? => ?_
    rcases scanned? with _ | page | _ | _
    · exact stepwise_pure _
    · refine stepwise_bind (stepwise_ite (fun _ => stepwise_pure _) fun _ =>
        stepwise_ask .keyValue values rfl) fun deleted? => ?_
      cases deleted? with
      | none => exact stepwise_pure _
      | some deleted => exact stepwise_ite (fun _ => stepwise_pure _) fun _ => ih _ _
    · exact stepwise_pure _
    · exact stepwise_pure _

omit served [Storable α] in
/-- An invalidation by a pattern: a store that cannot both scan and delete is not walked. -/
theorem stepwise_invalidate [Libraries] (pattern : String) :
    Stepwise declared counted
      (invalidate pattern : StateM (Connection (TranscribedStore σ)) (Ending Nat)) := by
  refine stepwise_bind (fun connection same => ?_) fun ending => ?_
  · have walks : Stepwise declared counted
        (if declared.deletesByWalk then
          walk pattern 0 0 (BackingStore.pageBound connection.store)
          else pure (.returned ⟨0, true⟩) :
          StateM (Connection (TranscribedStore σ)) (Ending Walk)) :=
      stepwise_ite (fun both => stepwise_walk (Bool.and_eq_true_iff.1 both).1
        (Bool.and_eq_true_iff.1 both).2 _ _ _ _) fun _ => stepwise_pure _
    have once := walks connection same
    rw [← (same : BackingStore.capabilities connection.store = declared)] at once
    exact once
  · cases ending with
    | panicked | running => exact stepwise_pure _
    | returned walked =>
      exact stepwise_ite (fun _ => stepwise_bind (stepwise_inProcess _) fun _ => stepwise_pure _)
        fun _ => stepwise_pure _

end Writes

/-! ## Reads -/

section Reads

variable (reads : ∀ event, event ≠ .computation → counted event)

include reads

/-- What a read found is settled. -/
theorem stepwise_settle (found : Option String) :
    Stepwise declared counted
      (settle found : StateM (Connection (TranscribedStore σ)) (Option Document)) := by
  have misses := reads .miss (by decide)
  cases found with
  | none => exact stepwise_bind (stepwise_count misses (by decide)) fun _ => stepwise_pure _
  | some payload =>
    rw [settle]
    cases Payload.decode payload with
    | ok document =>
      exact stepwise_bind (stepwise_count (reads .hit (by decide)) (by decide))
        fun _ => stepwise_pure _
    | error fault =>
      -- The two counts are one step, because only both together keep the books in order.
      exact fun connection _ => .single (.unreadable (reads .decodeError (by decide)) misses)

omit reads [Storable α] in
/-- The payload under a key. -/
theorem stepwise_readPayload (served : counted .fallback) (key : String) :
    Stepwise declared counted
      (readPayload key : StateM (Connection (TranscribedStore σ)) (Option (Option String))) :=
  stepwise_either (fun values => stepwise_ask _ values rfl)
    (stepwise_bind (stepwise_serve served _) fun _ => stepwise_pure _)

/-- A read. -/
theorem stepwise_get (key : String) :
    Stepwise declared counted
      (Connection.get key : StateM (Connection (TranscribedStore σ)) (Option Document)) := by
  refine stepwise_bind (stepwise_readPayload (reads .fallback (by decide)) key) fun found => ?_
  cases found with
  | none => exact stepwise_pure _
  | some found => exact stepwise_settle reads found

/-- A read of a shape. -/
theorem stepwise_getAs (key : String) :
    Stepwise declared counted
      (getAs α key : StateM (Connection (TranscribedStore σ)) (Option α)) :=
  stepwise_bind (stepwise_get reads key) fun _ => stepwise_pure _

omit reads [Storable α] in
/-- The payloads under several keys. -/
theorem stepwise_readPayloads (served : counted .fallback) (keys : List String) :
    Stepwise declared counted (readPayloads keys :
      StateM (Connection (TranscribedStore σ)) (Option (List (Option String)))) := by
  refine stepwise_declares (stepwise_ite
    (fun _ => stepwise_bind (stepwise_serve served _) fun _ => stepwise_pure _) fun values => ?_)
  rw [Bool.not_eq_true, Bool.not_eq_false'] at values
  refine stepwise_either (fun pipelined => stepwise_ask _ pipelined rfl)
    (stepwise_bind ?_ fun _ => stepwise_pure _)
  induction keys with
  | nil => exact stepwise_pure _
  | cons key rest ih =>
    exact stepwise_bind (stepwise_ask .keyValue values rfl) fun _ =>
      stepwise_bind ih fun _ => stepwise_pure _

/-- A read of several values. -/
theorem stepwise_getMany (keys : List String) :
    Stepwise declared counted (getMany keys :
      StateM (Connection (TranscribedStore σ)) (Table (Option Document))) := by
  have settles : ∀ found answers, Stepwise declared counted
      (settleAll answers found : StateM (Connection (TranscribedStore σ)) _) := by
    intro found
    induction found with
    | nil => exact fun answers => stepwise_pure _
    | cons first rest ih =>
      exact fun answers => stepwise_bind (stepwise_settle reads _) fun _ => ih _
  refine stepwise_bind (stepwise_readPayloads (reads .fallback (by decide)) keys) fun found => ?_
  cases found with
  | none => exact stepwise_pure _
  | some found => exact settles _ _

end Reads

/-! ## Computations -/

section Computations

variable (all : ∀ event, counted event)

include all

/-- A look for a value behind its lock. -/
theorem stepwise_lookAgain (key : String) :
    Stepwise declared counted
      (lookAgain α key : StateM (Connection (TranscribedStore σ)) (Option α)) := by
  refine stepwise_bind (stepwise_getAs (fun event _ => all event) key) fun found => ?_
  cases found with
  | some value => exact stepwise_pure _
  | none =>
    exact stepwise_bind (stepwise_count (all .computation) (by decide)) fun _ => stepwise_pure _

/-- A write of what a computation came to. -/
theorem stepwise_keep [Libraries] (computation : Computation α ε) :
    Stepwise declared counted
      (keep computation : StateM (Connection (TranscribedStore σ)) Unit) := by
  rw [keep]
  cases computation.outcome with
  | error error => exact stepwise_pure _
  | ok value =>
    exact stepwise_ite (fun _ => stepwise_set (all .fallback) _ _ _)
      fun _ => stepwise_setTagged (all .fallback) _ _ _ _

/-- What is done behind a lock. -/
theorem stepwise_goOn [Libraries] (computation : Computation α ε) (ticket : Ticket) :
    Stepwise declared counted
      (goOn computation ticket : StateM (Connection (TranscribedStore σ)) (Computed α ε)) := by
  have back : Stepwise declared counted
      (giveBack ticket : StateM (Connection (TranscribedStore σ)) Unit) :=
    stepwise_giveBack (all .computation) ticket
  refine stepwise_bind (stepwise_lookAgain all _) fun found => ?_
  cases found with
  | some value => exact stepwise_bind back fun _ => stepwise_pure _
  | none =>
    exact stepwise_bind (stepwise_keep all _) fun _ => stepwise_bind back fun _ => stepwise_pure _

/-- A computed value. -/
theorem stepwise_compute [Libraries] (computation : Computation α ε) :
    Stepwise declared counted
      (compute computation : StateM (Connection (TranscribedStore σ)) (Computed α ε)) := by
  refine stepwise_bind (stepwise_getAs (fun event _ => all event) _) fun found => ?_
  cases found with
  | some value => exact stepwise_pure _
  | none =>
    exact stepwise_bind (stepwise_takeTicket (all .computation) _) fun _ => stepwise_goOn all _ _

/-- A computation that is given up. -/
theorem stepwise_computeAbandoned (key : String) :
    Stepwise declared counted
      (computeAbandoned α key : StateM (Connection (TranscribedStore σ)) (Option α)) := by
  refine stepwise_bind (stepwise_getAs (fun event _ => all event) _) fun found => ?_
  cases found with
  | some value => exact stepwise_pure _
  | none =>
    refine stepwise_bind (stepwise_takeTicket (all .computation) _) fun ticket => ?_
    exact stepwise_bind (stepwise_lookAgain all _) fun _ =>
      stepwise_bind (stepwise_giveBack (all .computation) ticket) fun _ => stepwise_pure _

/-- A caller that starts. -/
theorem stepwise_takeOff (computation : Computation α ε) :
    Stepwise declared counted
      (takeOff computation : StateM (Connection (TranscribedStore σ)) (Flight α ε)) := by
  refine stepwise_bind (stepwise_getAs (fun event _ => all event) _) fun found => ?_
  cases found with
  | some value => exact stepwise_pure _
  | none =>
    refine stepwise_bind (stepwise_takeTicket (all .computation) _) fun ticket =>
      stepwise_bind (stepwise_of_same fun _ => rfl) fun _ =>
        stepwise_ite (fun _ => stepwise_bind (stepwise_lookAgain all _) fun found => ?_)
          fun _ => stepwise_pure _
    cases found with
    | some value =>
      exact stepwise_bind (stepwise_giveBack (all .computation) ticket) fun _ => stepwise_pure _
    | none => exact stepwise_pure _

/-- A caller that comes to its result. -/
theorem stepwise_land [Libraries] (flight : Flight α ε) :
    Stepwise declared counted (land flight :
      StateM (Connection (TranscribedStore σ)) (Flight α ε × Option Nat × Bool)) := by
  rw [land]
  cases flight.phase with
  | landed result => exact stepwise_pure _
  | computing ticket =>
    exact stepwise_bind (stepwise_keep all _) fun _ =>
      stepwise_bind (stepwise_giveBack (all .computation) ticket) fun _ => stepwise_pure _
  | waiting ticket => exact stepwise_bind (stepwise_goOn all _ _) fun _ => stepwise_pure _

/-- Callers that come to their results. -/
theorem stepwise_landAll [Libraries] (schedule : Schedule) (ready : List Nat)
    (landing : Landing α ε) (turns : Nat) :
    Stepwise declared counted (landAll schedule ready landing turns :
      StateM (Connection (TranscribedStore σ)) (Landing α ε)) := by
  induction turns generalizing schedule ready landing with
  | zero => exact stepwise_pure _
  | succ turns ih =>
    rw [landAll]
    cases takeTurn? (schedule.headD 0) ready with
    | none => exact stepwise_pure _
    | some turn =>
      dsimp only
      cases landing.flights[turn.1]? with
      | none => exact ih _ _ _
      | some flight =>
        exact stepwise_bind (stepwise_land all _) fun _ =>
          stepwise_bind (stepwise_of_same fun _ => rfl) fun _ => ih _ _ _

/-- Callers that ask for computed values at once. -/
theorem stepwise_computeAll [Libraries] (schedule : Schedule)
    (computations : List (Computation α ε)) :
    Stepwise declared counted (computeAll schedule computations :
      StateM (Connection (TranscribedStore σ)) (Landing α ε)) := by
  refine stepwise_bind ?_ fun flights => stepwise_landAll all _ _ _ _
  induction computations with
  | nil => exact stepwise_pure _
  | cons computation rest ih =>
    exact stepwise_bind (stepwise_takeOff all _) fun _ => stepwise_bind ih fun _ => stepwise_pure _

end Computations

end Connection

end FailOpenCache
