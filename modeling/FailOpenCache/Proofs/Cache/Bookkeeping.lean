import FailOpenCache.Libraries.Plain
import FailOpenCache.Proofs.Cache.Arrivals
import FailOpenCache.Proofs.Cache.Disconnected
import FailOpenCache.Proofs.Cache.Steps
import FailOpenCache.Proofs.Cache.Walks

/-!
# The books of a session

A session lives through operations and through changes of its link: stores are attached, looked for
at the configured place, and left. Here every store is put behind a clerk who goes on with the
transcript of the one before, so the transcript of a session holds every request that was made in
its life. Whatever the stores declare and answer, the books stay in order and the guards come to
rest, so that every operation has an answer.
-/

namespace FailOpenCache

variable {σ : Type} [BackingStore σ]

/-! ## Operations -/

namespace CacheCommand

/-- The operation may have values computed. -/
def computes : CacheCommand → Bool
  | compute _ | computeAll _ _ | computeAbandoned _ _ => true
  | _ => false

/-- What an operation may count, apart from failures. -/
def MayCount : CacheCommand → Event → Prop
  | get _, event | getAs _ _, event | getMany _, event => event ≠ .computation
  | compute _, _ | computeAll _ _, _ | computeAbandoned _ _, _ => True
  | _, event => event = .fallback

/-- Only an operation that may have values computed may count computations. -/
theorem computes_of_mayCount {command : CacheCommand} (may : command.MayCount .computation) :
    command.computes = true := by
  cases command with
  | compute computation => rfl
  | computeAll schedule computations => rfl
  | computeAbandoned α key => rfl
  | get key => exact absurd rfl may
  | getAs α key => exact absurd rfl may
  | getMany keys => exact absurd rfl may
  | _ => exact absurd may Event.noConfusion

/-- Every operation may be served in the process, and count that. -/
theorem mayCount_fallback (command : CacheCommand) : command.MayCount .fallback := by
  cases command with
  | get key => exact nofun
  | getAs α key => exact nofun
  | getMany keys => exact nofun
  | compute computation => exact trivial
  | computeAll schedule computations => exact trivial
  | computeAbandoned α key => exact trivial
  | _ => exact rfl

variable [Libraries]

/-- An operation on a connection is a sequence of elementary steps. -/
theorem stepwise_act {command : CacheCommand} (needs : command.needsConnection = true)
    (declared : Capabilities) :
    Connection.Stepwise declared command.MayCount
      (fun connection : Connection (TranscribedStore σ) => command.act connection) := by
  have served := command.mayCount_fallback
  cases command with
  | get key => exact Connection.stepwise_get (fun _ other => other) key
  | getAs α key => exact Connection.stepwise_getAs (fun _ other => other) key
  | set key value stated => exact Connection.stepwise_set served key value stated
  | getMany keys => exact Connection.stepwise_getMany (fun _ other => other) keys
  | setMany items stated => exact Connection.stepwise_setMany served items stated
  | delete key =>
    exact Connection.stepwise_discard (Connection.stepwise_deleteAll served [key])
  | probe key => exact Connection.stepwise_probe served key
  | increment key amount => exact Connection.stepwise_increment served key amount
  | setTagged key value tags stated =>
    exact Connection.stepwise_setTagged served key value tags stated
  | invalidate pattern => exact Connection.stepwise_invalidate pattern
  | invalidateTag tag => exact Connection.stepwise_invalidateTag served tag
  | compute computation => exact Connection.stepwise_compute (fun _ => trivial) computation
  | computeAll schedule computations =>
    exact Connection.stepwise_computeAll (fun _ => trivial) schedule computations
  | computeAbandoned α key => exact Connection.stepwise_computeAbandoned (fun _ => trivial) key
  | override stem lifetime => exact absurd needs Bool.false_ne_true
  | sweep => exact absurd needs Bool.false_ne_true
  | advance span => exact absurd needs Bool.false_ne_true

/-- An operation on a connection lets the guards rest. -/
theorem act_atRest (command : CacheCommand) {connection : Connection (TranscribedStore σ)}
    (rest : connection.cache.guards.AtRest) :
    (command.act connection).2.cache.guards.AtRest := by
  by_cases computes : command.computes = true
  · cases command with
    | compute computation => exact Connection.compute_atRest computation rest
    | computeAll schedule computations =>
      exact (Connection.computeAll_arrives rest schedule computations).2.2
    | computeAbandoned α key => exact Connection.computeAbandoned_atRest key rest
    | _ => exact absurd computes Bool.false_ne_true
  · by_cases needs : command.needsConnection = true
    · have steps := stepwise_act needs connection.store.declared connection rfl
      exact steps.guards_eq (fun may => computes (computes_of_mayCount may)) ▸ rest
    · cases command with
      | override stem lifetime => exact rest
      | sweep => exact ⟨rest.toCoherent.dropIdle, rest.idle⟩
      | advance span => exact rest
      | _ => exact absurd rfl needs

/-- An operation that does as much without a connection leaves the link and the counters alone. -/
theorem run_aside {command : CacheCommand} (aside : command.needsConnection = false)
    (session : Session σ) :
    (command.run session).2.link = session.link ∧
      (command.run session).2.cache.counters = session.cache.counters ∧
      (session.cache.guards.AtRest → (command.run session).2.cache.guards.AtRest) := by
  cases command with
  | override stem lifetime => exact ⟨rfl, rfl, id⟩
  | sweep => exact ⟨rfl, rfl, fun rest => ⟨rest.toCoherent.dropIdle, rest.idle⟩⟩
  | advance span => exact ⟨rfl, rfl, id⟩
  | _ => exact absurd aside Bool.noConfusion

end CacheCommand

namespace Connection

/-- The document in what a read found. -/
def documentIn (found : Option String) : Option Document :=
  found.bind fun payload => (Payload.decode payload).toOption

/-- What a read of several values finds, position by position. A position that the answer does not
reach is left out, and what it holds for no position as well. -/
def positions (keys : List String) (connection : Connection σ) : List (String × Option Document) :=
  (keys.zip ((readPayloads keys connection).1.getD [])).map fun position =>
    (position.1, documentIn position.2)

/-- A read of several values puts what it finds into a table of all keys, so the last position of a
key tells. -/
theorem getMany_fst (keys : List String) (connection : Connection σ) :
    (getMany keys connection).1 = (positions keys connection).foldl
      (fun table position => table.put position.1 position.2) (unanswered keys) := by
  rw [getMany, bind_apply, positions]
  rcases readPayloads keys connection with ⟨_ | found, read⟩
  · rw [Option.getD_none, List.zip_nil_right]
    rfl
  · dsimp only
    rw [settleAll_fst, Option.getD_some, List.foldl_map]
    rfl

end Connection

namespace CacheCommand

variable [Libraries]

/-- No operation panics if no page of the configured size does. -/
theorem panicked_run (command : CacheCommand) (session : Session σ)
    (calm : PagesReturn σ (max session.cache.configuration.scanBatch 1)) :
    command.panicked (command.run session).1 = false := by
  cases command with
  | invalidate pattern =>
    refine beq_eq_false_iff_ne.2 ?_
    obtain ⟨cache, link, now⟩ := session
    cases link with
    | connected store => exact Connection.invalidate_ne_panicked ⟨cache, store, now⟩ calm
    | idle last => exact nofun
    | failed last => exact nofun
  | _ => rfl

/-- Over the store in memory no operation panics if there is room for a page of the configured
size. -/
theorem panicked_run_memory (command : CacheCommand) (session : Session MemoryStore)
    (few : session.cache.configuration.scanBatch ≤ Recency.mostKeys) :
    command.panicked (command.run session).1 = false :=
  command.panicked_run session (pagesReturn_memory (Recency.max_one_le_mostKeys.2 few))

end CacheCommand

/-! ## Changes of the link -/

namespace Session

/-- Greeting a store changes the link alone, and the store is that of the link afterwards. -/
theorem attach_spec (store : σ) (session : Session σ) :
    (session.attach store).cache = session.cache ∧
      (session.attach store).link.store? =
        some (BackingStore.answer .ping session.now store).2 := by
  rw [attach]
  rcases BackingStore.answer .ping session.now store with ⟨_ | _, greeted⟩
  · exact ⟨rfl, rfl⟩
  · exact ⟨rfl, rfl⟩

/-- The requests that were made in the life of a session, the first one first. -/
def transcript (session : Session (TranscribedStore σ)) : List TranscriptLine :=
  (session.link.store?.map TranscribedStore.lines).getD []

/-- The books of a session are in order, and its guards rest. -/
structure InOrder (session : Session (TranscribedStore σ)) : Prop where
  /-- The books are in order. -/
  books : BooksKept σ session.cache.counters session.transcript
  /-- Nobody holds or waits for a lock. -/
  rest : session.cache.guards.AtRest

/-- The books of a new session are in order. -/
theorem inOrder_ofConfiguration (configuration : Configuration) (now : Millis) :
    (ofConfiguration configuration now : Session (TranscribedStore σ)).InOrder where
  books := ⟨rfl, by simp [transcript, ofConfiguration, Link.store?],
    by simp [transcript, ofConfiguration, Link.store?], Nat.le_refl _⟩
  rest := Guards.atRest_ofBound _

/-- A session with the same counters, guards and transcript is in order as well. -/
theorem InOrder.of_same {session after : Session (TranscribedStore σ)} (order : session.InOrder)
    (counters : after.cache.counters = session.cache.counters)
    (transcript : after.transcript = session.transcript)
    (rest : session.cache.guards.AtRest → after.cache.guards.AtRest) : after.InOrder where
  books := by
    rw [counters, transcript]
    exact order.books
  rest := rest order.rest

/-- A greeting or a farewell is written down, and that is all. -/
theorem InOrder.aside {session after : Session (TranscribedStore σ)} (order : session.InOrder)
    (asked : Request) (aside : asked.operation.group? = none)
    (cache : after.cache.counters = session.cache.counters)
    (guards : after.cache.guards = session.cache.guards)
    {store : TranscribedStore σ} (lines : store.lines = session.transcript)
    (left : after.link.store? = some (TranscribedStore.answer asked session.now store).2) :
    after.InOrder where
  books := by
    have kept := order.books.request asked store.declared session.now store.store
      fun group belongs => absurd (aside.symm.trans belongs) nofun
    rw [Counters.afterRequest, TranscriptLine.isFault, aside, Option.isSome_none, Bool.false_and,
      if_neg Bool.false_ne_true, ← lines, ← cache] at kept
    rw [transcript, left]
    exact kept
  rest := guards ▸ order.rest

/-- Attaching a store whose clerk goes on with the transcript keeps a session in order. -/
theorem InOrder.attach {session : Session (TranscribedStore σ)} (order : session.InOrder)
    (store : σ) (declared : Capabilities) :
    (session.attach ⟨store, declared, session.transcript⟩).InOrder := by
  obtain ⟨cache, left⟩ := attach_spec
    (⟨store, declared, session.transcript⟩ : TranscribedStore σ) session
  exact order.aside .ping rfl (congrArg Cache.counters cache)
    (congrArg Cache.guards cache) rfl left

/-- Looking for a store keeps a session in order. -/
theorem InOrder.connect {session : Session (TranscribedStore σ)} (order : session.InOrder)
    (ofMemory : MemoryStore → σ) (declared : Capabilities) :
    (session.connect fun memory =>
      ⟨ofMemory memory, declared, session.transcript⟩).InOrder := by
  rw [Session.connect]
  cases session.cache.configuration.storeUrl with
  | none => exact order.of_same rfl rfl id
  | some url =>
    dsimp only
    split
    · exact order.attach _ declared
    · exact order.of_same rfl rfl id

/-- Closing keeps a session in order. -/
theorem InOrder.close {session : Session (TranscribedStore σ)} (order : session.InOrder) :
    session.close.InOrder := by
  obtain ⟨cache, link, now⟩ := session
  cases link with
  | connected store => exact order.aside .close rfl rfl rfl rfl rfl
  | idle last => exact order.of_same rfl rfl id
  | failed last => exact order.of_same rfl rfl id

/-- An operation keeps a session in order. -/
theorem InOrder.run [Libraries] {session : Session (TranscribedStore σ)} (order : session.InOrder)
    (command : CacheCommand) : (command.run session).2.InOrder := by
  cases needs : command.needsConnection with
  | false =>
    obtain ⟨link, counters, rest⟩ := command.run_aside needs session
    exact order.of_same counters (by rw [transcript, link, transcript]) rest
  | true =>
    cases up : session.isConnected with
    | false => exact (command.run_down needs up).symm ▸ order
    | true =>
      obtain ⟨cache, link, now⟩ := session
      cases link with
      | connected store =>
        have steps := command.stepwise_act needs store.declared ⟨cache, store, now⟩ rfl
        have ran := command.run_session ⟨cache, store, now⟩
        rw [Connection.session] at ran
        rw [ran]
        exact ⟨steps.books order.books, command.act_atRest order.rest⟩
      | idle last => exact absurd up Bool.false_ne_true
      | failed last => exact absurd up Bool.false_ne_true

end Session

/-! ## Lives -/

/-- What can happen to a session. -/
inductive SessionMove (σ : Type) : Type 1 where
  /-- An operation runs. -/
  | operate (command : CacheCommand)
  /-- A store is attached, with the groups that it declares. -/
  | attach (store : σ) (declared : Capabilities)
  /-- A store is looked for at the configured place; one in memory is taken as it is told, with the
  groups that it declares. -/
  | connect (ofMemory : MemoryStore → σ) (declared : Capabilities)
  /-- The link is closed. -/
  | close

namespace SessionMove

section

variable [Libraries]

/-- What a session is after a move. -/
def run : SessionMove σ → Session (TranscribedStore σ) → Session (TranscribedStore σ)
  | operate command, session => (command.run session).2
  | attach store declared, session => session.attach ⟨store, declared, session.transcript⟩
  | connect ofMemory declared, session =>
    session.connect fun memory => ⟨ofMemory memory, declared, session.transcript⟩
  | close, session => session.close

/-- What a session is after moves, one after the other. -/
def runAll (moves : List (SessionMove σ)) (session : Session (TranscribedStore σ)) :
    Session (TranscribedStore σ) :=
  moves.foldl (fun left move => move.run left) session

/-- A move keeps a session in order. -/
theorem inOrder_run {session : Session (TranscribedStore σ)} (order : session.InOrder)
    (move : SessionMove σ) : (move.run session).InOrder := by
  cases move with
  | operate command => exact order.run command
  | attach store declared => exact order.attach store declared
  | connect ofMemory declared => exact order.connect ofMemory declared
  | close => exact order.close

/-- Moves keep a session in order. -/
theorem inOrder_runAll {session : Session (TranscribedStore σ)} (order : session.InOrder)
    (moves : List (SessionMove σ)) : (runAll moves session).InOrder := by
  induction moves generalizing session with
  | nil => exact order
  | cons move rest ih => exact ih (inOrder_run order move)

/-- In every life of a cache each request is of a group that its store declares, greetings and
farewells apart, so a store that supports what it declares is never asked for what it does not
support. -/
theorem runAll_asksDeclared (configuration : Configuration) (now : Millis)
    (moves : List (SessionMove σ)) {line : TranscriptLine}
    (asked : line ∈ (runAll moves (.ofConfiguration configuration now)).transcript)
    {group : OperationGroup} (belongs : line.request.operation.group? = some group) :
    line.declared.declares group = true ∧
      (Supports σ line.declared → ∀ operation, line.refusal ≠ some (.unsupported operation)) := by
  have order := inOrder_runAll (Session.inOrder_ofConfiguration (σ := σ) configuration now) moves
  have declares := order.books.offered line asked group belongs
  refine ⟨declares, fun supports operation => ?_⟩
  obtain ⟨instant, store, refusal⟩ := order.books.genuine line asked
  rw [refusal]
  exact supports line.request ⟨group, belongs, declares⟩ instant store operation

end

/-- A store in memory that is to keep values and sets only. -/
def frugalLife : List (SessionMove MemoryStore) :=
  [.attach (.ofCapacity 9) ⟨true, false, false, false, true⟩, .operate (.increment "count" 1),
    .operate (.setTagged "key" (Document.string "text") ["tag"] none),
    .operate (.getMany ["key", "count"]), .close]

open scoped Libraries.Plain

/-- The record of a tag is asked for in the group of sets, and the store supports that. -/
theorem runAll_asksDeclared_frugal :
    let session := runAll frugalLife (.ofConfiguration .standard 0)
    let line : TranscriptLine := ⟨.addMember [Key.ofTag "tag"] "key" 0,
      ⟨true, false, false, false, true⟩, none⟩
    line ∈ session.transcript ∧ line.declared.declares .sets = true ∧
      ∀ operation, line.refusal ≠ some (.unsupported operation) := by
  intro session line
  have asked : line ∈ session.transcript := by decide +kernel
  obtain ⟨declares, supported⟩ := runAll_asksDeclared .standard 0 frugalLife asked rfl
  exact ⟨asked, declares, supported (MemoryStore.supports _)⟩

end SessionMove

end FailOpenCache
