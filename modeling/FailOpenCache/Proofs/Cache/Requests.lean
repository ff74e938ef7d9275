import FailOpenCache.Cache.Batches
import FailOpenCache.Cache.Concurrency
import FailOpenCache.Proofs.Cache.OnMemory
import FailOpenCache.Proofs.Store.Changes

/-!
# Operations change the store by requests only

Whatever an operation does, it changes the store of its connection by requests alone, one after the
other. So what every request leaves true of a store stays true over every operation, whichever of
its ways it takes: that evictions are counted, for one.
-/

namespace FailOpenCache

variable {σ : Type} [BackingStore σ]

/-- Requests lead from a store to another. -/
inductive Led (start : σ) : σ → Prop where
  /-- No request leads to the store itself. -/
  | refl : Led start start
  /-- One more request leads on. -/
  | ask {store : σ} (request : Request) (now : Millis) (led : Led start store) :
    Led start (BackingStore.answer request now store).2

/-- Requests that lead on from where others led to. -/
theorem Led.trans {first second third : σ} (early : Led first second) (late : Led second third) :
    Led first third := by
  induction late with
  | refl => exact early
  | ask request now _ ih => exact ih.ask request now

/-- Requests to the store in memory count the evictions. -/
theorem MemoryStore.evictions_le_answer [Libraries] (store : MemoryStore) (request : Request)
    (now : Millis) :
    store.evictions ≤ (store.answer request now).2.evictions := by
  by_cases stays : request = .close
  · rw [stays]
    exact Nat.le_refl _
  · exact (store.changes_answer stays now).evictions_le

/-- Requests that lead on count the evictions. -/
theorem Led.evictions_le [Libraries] {first later : MemoryStore} (led : Led first later) :
    first.evictions ≤ later.evictions := by
  induction led with
  | refl => exact Nat.le_refl _
  | ask request now _ ih =>
    exact Nat.le_trans ih (MemoryStore.evictions_le_answer _ request now)

namespace Connection

variable {α β ε : Type}

/-- The operation changes the store by requests only, and the clock stands still. -/
structure OnlyAsks (operation : StateM (Connection σ) α) : Prop where
  /-- The store is changed by requests only. -/
  led : ∀ connection, Led connection.store (operation connection).2.store
  /-- The clock stands still. -/
  still : ∀ connection, (operation connection).2.now = connection.now

/-- An operation that leaves the store alone. -/
theorem onlyAsks_of_same {operation : StateM (Connection σ) α}
    (same : ∀ connection, (operation connection).2.store = connection.store)
    (still : ∀ connection, (operation connection).2.now = connection.now) :
    OnlyAsks operation where
  led connection := by
    rw [same connection]
    exact .refl
  still := still

/-- An answer alone. -/
theorem onlyAsks_pure (answer : α) : OnlyAsks (pure answer : StateM (Connection σ) α) :=
  onlyAsks_of_same (fun _ => rfl) fun _ => rfl

/-- Two steps. -/
theorem onlyAsks_bind {first : StateM (Connection σ) α} {later : α → StateM (Connection σ) β}
    (early : OnlyAsks first) (late : ∀ answer, OnlyAsks (later answer)) :
    OnlyAsks (first >>= later) where
  led connection := (early.led connection).trans ((late _).led _)
  still connection := ((late _).still _).trans (early.still connection)

/-- An operation without its answer. -/
theorem onlyAsks_discard {operation : StateM (Connection σ) α} (asks : OnlyAsks operation) :
    OnlyAsks (discard operation : StateM (Connection σ) PUnit) :=
  ⟨asks.led, asks.still⟩

/-- A choice between operations. -/
theorem onlyAsks_ite {condition : Prop} [Decidable condition]
    {first later : StateM (Connection σ) α} (early : OnlyAsks first) (late : OnlyAsks later) :
    OnlyAsks (if condition then first else later) := by
  split
  · exact early
  · exact late

/-- What the store answers to a request, and what is left; a failure is counted. -/
theorem ask_apply (asked : Request) (connection : Connection σ) :
    ∃ counters, ask asked connection =
      ((BackingStore.answer asked connection.now connection.store).1.toOption,
        { connection with
          cache := { connection.cache with counters := counters }
          store := (BackingStore.answer asked connection.now connection.store).2 }) := by
  cases answered : (BackingStore.answer asked connection.now connection.store).1 with
  | ok reply => exact ⟨connection.cache.counters, ask_ok answered⟩
  | error error => exact ⟨_, ask_error answered⟩

/-- A request. -/
theorem onlyAsks_ask (asked : Request) :
    OnlyAsks (ask asked : StateM (Connection σ) (Option asked.Reply)) where
  led connection := by
    rw [ask_store]
    exact Led.refl.ask asked connection.now
  still connection := (quiet_ask asked connection).now

/-- A look at the connection. -/
theorem onlyAsks_look : OnlyAsks (MonadState.get : StateM (Connection σ) (Connection σ)) :=
  onlyAsks_of_same (fun _ => rfl) fun _ => rfl

/-- A look at the declarations. -/
theorem onlyAsks_declares (group : OperationGroup) :
    OnlyAsks (declares group : StateM (Connection σ) Bool) :=
  onlyAsks_of_same (fun _ => rfl) fun _ => rfl

/-- The count of an event. -/
theorem onlyAsks_count (event : Event) : OnlyAsks (count event : StateM (Connection σ) Unit) :=
  onlyAsks_of_same (fun _ => rfl) fun _ => rfl

/-- An operation that is served in the process. -/
theorem onlyAsks_serve (operation : Millis → FallbackStore → α × FallbackStore) :
    OnlyAsks (serve operation : StateM (Connection σ) α) :=
  onlyAsks_of_same (fun _ => rfl) fun _ => rfl

/-- A call of the fallback store. -/
theorem onlyAsks_inProcess (operation : Millis → FallbackStore → α × FallbackStore) :
    OnlyAsks (inProcess operation : StateM (Connection σ) α) :=
  onlyAsks_of_same (fun _ => rfl) fun _ => rfl

/-- A ticket that is taken. -/
theorem onlyAsks_takeTicket (key : String) :
    OnlyAsks (takeTicket key : StateM (Connection σ) Ticket) :=
  onlyAsks_of_same (fun _ => rfl) fun _ => rfl

/-- A ticket that is given back. -/
theorem onlyAsks_giveBack (ticket : Ticket) :
    OnlyAsks (giveBack ticket : StateM (Connection σ) Unit) :=
  onlyAsks_of_same (fun _ => rfl) fun _ => rfl

/-- An operation that is asked of the store, or served in the process. -/
theorem onlyAsks_either {group : OperationGroup} {asked served : StateM (Connection σ) α}
    (asks : OnlyAsks asked) (serves : OnlyAsks served) :
    OnlyAsks (do if ← declares group then asked else served) :=
  onlyAsks_bind (onlyAsks_declares group) fun _ => onlyAsks_ite asks serves

variable [Storable α]

/-! ## Values -/

/-- Settling what a read found. -/
theorem onlyAsks_settle (found : Option String) :
    OnlyAsks (settle found : StateM (Connection σ) (Option Document)) :=
  onlyAsks_of_same (fun connection => (settle_spec found connection).2.1)
    fun connection => (quiet_settle found connection).now

/-- A read. -/
theorem onlyAsks_get (key : String) :
    OnlyAsks (Connection.get key : StateM (Connection σ) (Option Document)) := by
  refine onlyAsks_bind (onlyAsks_either (onlyAsks_ask _)
    (onlyAsks_bind (onlyAsks_serve _) fun _ => onlyAsks_pure _)) fun found => ?_
  cases found with
  | none => exact onlyAsks_pure _
  | some found => exact onlyAsks_settle found

/-- A read of a shape. -/
theorem onlyAsks_getAs (key : String) :
    OnlyAsks (getAs α key : StateM (Connection σ) (Option α)) :=
  onlyAsks_bind (onlyAsks_get key) fun _ => onlyAsks_pure _

/-- A write. -/
theorem onlyAsks_set [Libraries] (key : String) (value : α) (stated : Option Seconds) :
    OnlyAsks (set key value stated : StateM (Connection σ) Unit) := by
  refine onlyAsks_bind (onlyAsks_of_same (fun _ => rfl) fun _ => rfl) fun payload => ?_
  cases payload with
  | none => exact onlyAsks_pure _
  | some payload =>
    exact onlyAsks_bind (onlyAsks_of_same (fun _ => rfl) fun _ => rfl) fun lifetime =>
      onlyAsks_either (onlyAsks_discard (onlyAsks_ask _)) (onlyAsks_serve _)

/-- A deletion. -/
theorem onlyAsks_deleteAll (keys : List String) :
    OnlyAsks (deleteAll keys : StateM (Connection σ) Nat) :=
  onlyAsks_ite (onlyAsks_pure _) (onlyAsks_either
    (onlyAsks_bind (onlyAsks_ask _) fun _ => onlyAsks_pure _) (onlyAsks_serve _))

/-- A probe. -/
theorem onlyAsks_probe (key : String) : OnlyAsks (probe key : StateM (Connection σ) Bool) :=
  onlyAsks_either (onlyAsks_bind (onlyAsks_ask _) fun _ => onlyAsks_pure _) (onlyAsks_serve _)

/-- An addition to a counter. -/
theorem onlyAsks_increment (key : String) (amount : Int) :
    OnlyAsks (increment key amount : StateM (Connection σ) Int) :=
  onlyAsks_either (onlyAsks_bind (onlyAsks_ask _) fun _ => onlyAsks_pure _)
    (onlyAsks_bind (onlyAsks_serve _) fun _ => onlyAsks_pure _)

/-! ## Batches -/

/-- A write of groups. -/
theorem onlyAsks_writeGroups (groups : List WriteGroup) :
    OnlyAsks (writeGroups groups : StateM (Connection σ) Unit) := by
  have each : ∀ lifetime items,
      OnlyAsks (writeEach lifetime items : StateM (Connection σ) Unit) := by
    intro lifetime items
    induction items with
    | nil => exact onlyAsks_pure _
    | cons item rest ih => exact onlyAsks_bind (onlyAsks_discard (onlyAsks_ask _)) fun _ => ih
  induction groups with
  | nil => exact onlyAsks_pure _
  | cons group rest ih =>
    refine onlyAsks_bind ?_ fun _ => ih
    exact onlyAsks_bind (onlyAsks_declares _) fun _ => onlyAsks_ite (onlyAsks_serve _)
      (onlyAsks_either (onlyAsks_discard (onlyAsks_ask _)) (each _ _))

/-- A write of several values. -/
theorem onlyAsks_setMany [Libraries] (items : List (String × α)) (stated : Option Seconds) :
    OnlyAsks (setMany items stated : StateM (Connection σ) Unit) :=
  onlyAsks_bind (onlyAsks_of_same (fun _ => rfl) fun _ => rfl) fun groups => onlyAsks_writeGroups groups

/-- A read of several values. -/
theorem onlyAsks_getMany (keys : List String) :
    OnlyAsks (getMany keys : StateM (Connection σ) (Table (Option Document))) := by
  have each : ∀ keys, OnlyAsks (readEach keys : StateM (Connection σ) _) := by
    intro keys
    induction keys with
    | nil => exact onlyAsks_pure _
    | cons key rest ih =>
      exact onlyAsks_bind (onlyAsks_ask _) fun _ => onlyAsks_bind ih fun _ => onlyAsks_pure _
  have settles : ∀ found answers, OnlyAsks (settleAll answers found : StateM (Connection σ) _) := by
    intro found
    induction found with
    | nil => exact fun answers => onlyAsks_pure _
    | cons first rest ih =>
      exact fun answers => onlyAsks_bind (onlyAsks_settle _) fun _ => ih _
  refine onlyAsks_bind ?_ fun found => ?_
  · exact onlyAsks_bind (onlyAsks_declares _) fun _ => onlyAsks_ite
      (onlyAsks_bind (onlyAsks_serve _) fun _ => onlyAsks_pure _)
      (onlyAsks_either (onlyAsks_ask _) (onlyAsks_bind (each keys) fun _ => onlyAsks_pure _))
  · cases found with
    | none => exact onlyAsks_pure _
    | some found => exact settles _ _

/-! ## Tags and patterns -/

/-- A choice by whether the store keeps the records of tags. -/
theorem onlyAsks_tracked {asked served : StateM (Connection σ) β} (asks : OnlyAsks asked)
    (serves : OnlyAsks served) : OnlyAsks (do if ← tracksTags then asked else served) :=
  onlyAsks_bind (onlyAsks_of_same (fun _ => rfl) fun _ => rfl) fun _ => onlyAsks_ite asks serves

/-- A write under tags. -/
theorem onlyAsks_setTagged [Libraries] (key : String) (value : α) (tags : List String)
    (stated : Option Seconds) :
    OnlyAsks (setTagged key value tags stated : StateM (Connection σ) Unit) :=
  onlyAsks_bind (onlyAsks_set key value stated) fun _ => onlyAsks_ite (onlyAsks_pure _)
    (onlyAsks_tracked (onlyAsks_discard (onlyAsks_ask _)) (onlyAsks_serve _))

/-- An invalidation by a tag. -/
theorem onlyAsks_invalidateTag (tag : String) :
    OnlyAsks (invalidateTag tag : StateM (Connection σ) Nat) := by
  refine onlyAsks_bind (onlyAsks_tracked (onlyAsks_ask _)
    (onlyAsks_bind (onlyAsks_serve _) fun _ => onlyAsks_pure _)) fun found => ?_
  rcases found with _ | _ | ⟨member, rest⟩
  · exact onlyAsks_pure _
  · exact onlyAsks_pure _
  · exact onlyAsks_bind (onlyAsks_deleteAll _) fun _ => onlyAsks_bind
      (onlyAsks_tracked (onlyAsks_discard (onlyAsks_ask _))
        (onlyAsks_discard (onlyAsks_inProcess _))) fun _ => onlyAsks_pure _

/-- A walk. -/
theorem onlyAsks_walk (pattern : String) (cursor removed pages : Nat) :
    OnlyAsks (walk pattern cursor removed pages : StateM (Connection σ) (Ending Walk)) := by
  induction pages generalizing cursor removed with
  | zero => exact onlyAsks_pure _
  | succ pages ih =>
    refine onlyAsks_bind onlyAsks_look fun _ => onlyAsks_bind (onlyAsks_ask _) fun scanned? => ?_
    rcases scanned? with _ | page | _ | _
    · exact onlyAsks_pure _
    · refine onlyAsks_bind (onlyAsks_ite (onlyAsks_pure _) (onlyAsks_ask _)) fun deleted? => ?_
      cases deleted? with
      | none => exact onlyAsks_pure _
      | some deleted => exact onlyAsks_ite (onlyAsks_pure _) (ih _ _)
    · exact onlyAsks_pure _
    · exact onlyAsks_pure _

/-- An invalidation by a pattern. -/
theorem onlyAsks_invalidate [Libraries] (pattern : String) :
    OnlyAsks (invalidate pattern : StateM (Connection σ) (Ending Nat)) := by
  refine onlyAsks_bind (onlyAsks_bind onlyAsks_look fun _ => onlyAsks_ite
    (onlyAsks_walk _ _ _ _) (onlyAsks_pure _)) fun ending => ?_
  cases ending with
  | panicked | running => exact onlyAsks_pure _
  | returned walked =>
    refine onlyAsks_ite ?_ (onlyAsks_pure _)
    exact onlyAsks_bind (onlyAsks_inProcess _) fun _ => onlyAsks_pure _

/-! ## Computations -/

/-- A look for a value behind its lock. -/
theorem onlyAsks_lookAgain (key : String) :
    OnlyAsks (lookAgain α key : StateM (Connection σ) (Option α)) := by
  refine onlyAsks_bind (onlyAsks_getAs key) fun found => ?_
  cases found with
  | some value => exact onlyAsks_pure _
  | none => exact onlyAsks_bind (onlyAsks_count _) fun _ => onlyAsks_pure _

/-- A write of what a computation came to. -/
theorem onlyAsks_keep [Libraries] (computation : Computation α ε) :
    OnlyAsks (keep computation : StateM (Connection σ) Unit) := by
  rw [keep]
  cases computation.outcome with
  | error error => exact onlyAsks_pure _
  | ok value => exact onlyAsks_ite (onlyAsks_set _ _ _) (onlyAsks_setTagged _ _ _ _)

/-- What is done behind a lock. -/
theorem onlyAsks_goOn [Libraries] (computation : Computation α ε) (ticket : Ticket) :
    OnlyAsks (goOn computation ticket : StateM (Connection σ) (Computed α ε)) := by
  refine onlyAsks_bind (onlyAsks_lookAgain _) fun found => ?_
  cases found with
  | some value => exact onlyAsks_bind (onlyAsks_giveBack _) fun _ => onlyAsks_pure _
  | none =>
    exact onlyAsks_bind (onlyAsks_keep _) fun _ =>
      onlyAsks_bind (onlyAsks_giveBack _) fun _ => onlyAsks_pure _

/-- A computed value. -/
theorem onlyAsks_compute [Libraries] (computation : Computation α ε) :
    OnlyAsks (compute computation : StateM (Connection σ) (Computed α ε)) := by
  refine onlyAsks_bind (onlyAsks_getAs _) fun found => ?_
  cases found with
  | some value => exact onlyAsks_pure _
  | none => exact onlyAsks_bind (onlyAsks_takeTicket _) fun _ => onlyAsks_goOn _ _

/-- A computation that is given up. -/
theorem onlyAsks_computeAbandoned (key : String) :
    OnlyAsks (computeAbandoned α key : StateM (Connection σ) (Option α)) := by
  refine onlyAsks_bind (onlyAsks_getAs _) fun found => ?_
  cases found with
  | some value => exact onlyAsks_pure _
  | none =>
    exact onlyAsks_bind (onlyAsks_takeTicket _) fun _ => onlyAsks_bind (onlyAsks_lookAgain _)
      fun _ => onlyAsks_bind (onlyAsks_giveBack _) fun _ => onlyAsks_pure _

/-- A caller that starts. -/
theorem onlyAsks_takeOff (computation : Computation α ε) :
    OnlyAsks (takeOff computation : StateM (Connection σ) (Flight α ε)) := by
  refine onlyAsks_bind (onlyAsks_getAs _) fun found => ?_
  cases found with
  | some value => exact onlyAsks_pure _
  | none =>
    refine onlyAsks_bind (onlyAsks_takeTicket _) fun _ => onlyAsks_bind onlyAsks_look fun _ =>
      onlyAsks_ite (onlyAsks_bind (onlyAsks_lookAgain _) fun found => ?_) (onlyAsks_pure _)
    cases found with
    | some value => exact onlyAsks_bind (onlyAsks_giveBack _) fun _ => onlyAsks_pure _
    | none => exact onlyAsks_pure _

/-- A caller that comes to its result. -/
theorem onlyAsks_land [Libraries] (flight : Flight α ε) :
    OnlyAsks (land flight : StateM (Connection σ) (Flight α ε × Option Nat × Bool)) := by
  rw [land]
  cases flight.phase with
  | landed result => exact onlyAsks_pure _
  | computing ticket =>
    exact onlyAsks_bind (onlyAsks_keep _) fun _ =>
      onlyAsks_bind (onlyAsks_giveBack _) fun _ => onlyAsks_pure _
  | waiting ticket => exact onlyAsks_bind (onlyAsks_goOn _ _) fun _ => onlyAsks_pure _

/-- Callers that come to their results. -/
theorem onlyAsks_landAll [Libraries] (schedule : Schedule) (ready : List Nat)
    (landing : Landing α ε) (turns : Nat) :
    OnlyAsks (landAll schedule ready landing turns : StateM (Connection σ) (Landing α ε)) := by
  induction turns generalizing schedule ready landing with
  | zero => exact onlyAsks_pure _
  | succ turns ih =>
    rw [landAll]
    cases takeTurn? (schedule.headD 0) ready with
    | none => exact onlyAsks_pure _
    | some turn =>
      dsimp only
      cases landing.flights[turn.1]? with
      | none => exact ih _ _ _
      | some flight =>
        exact onlyAsks_bind (onlyAsks_land _) fun _ =>
          onlyAsks_bind (onlyAsks_of_same (fun _ => rfl) fun _ => rfl) fun _ => ih _ _ _

/-- Callers that ask for computed values at once. -/
theorem onlyAsks_computeAll [Libraries] (schedule : Schedule)
    (computations : List (Computation α ε)) :
    OnlyAsks (computeAll schedule computations : StateM (Connection σ) (Landing α ε)) := by
  refine onlyAsks_bind ?_ fun flights => onlyAsks_landAll _ _ _ _
  induction computations with
  | nil => exact onlyAsks_pure _
  | cons computation rest ih =>
    exact onlyAsks_bind (onlyAsks_takeOff _) fun _ => onlyAsks_bind ih fun _ => onlyAsks_pure _

end Connection

end FailOpenCache
