import FailOpenCache.Store.Memory

/-!
# Transcripts of requests

A store of any kind can be put behind a clerk, who declares groups of operations for it and writes
down every request with the groups that were declared and the error that it met, if it met one. The
clerk passes every request on and every answer back, so the cache sees a store like any other, and
what it asks of a store that may answer anything at all can be read off the transcript.
-/

namespace FailOpenCache

/-- The request is of a group that is declared. -/
def Capabilities.Offers (capabilities : Capabilities) (request : Request) : Prop :=
  ∃ group, request.operation.group? = some group ∧ capabilities.declares group = true

/-- The error that a request met. -/
def refusalOf {α : Type} : Except StoreError α → Option StoreError
  | .ok _ => none
  | .error error => some error

/-- A request in a transcript. -/
structure TranscriptLine where
  /-- The request. -/
  request : Request
  /-- The groups of operations that were declared. -/
  declared : Capabilities
  /-- The error that the request met. -/
  refusal : Option StoreError
deriving DecidableEq

/-- The request met an error, and was neither the handshake nor the farewell. -/
def TranscriptLine.isFault (line : TranscriptLine) : Bool :=
  line.request.operation.group?.isSome && line.refusal.isSome

/-- A store behind a clerk. -/
structure TranscribedStore (σ : Type) where
  /-- The store. -/
  store : σ
  /-- The groups of operations that are declared. -/
  declared : Capabilities
  /-- The requests so far, the first one first. -/
  lines : List TranscriptLine

variable {σ : Type} [BackingStore σ]

/-- Pass a request on, and write it down with the error that it met. -/
def TranscribedStore.answer (request : Request) (now : Millis)
    (transcribed : TranscribedStore σ) :
    Except StoreError request.Reply × TranscribedStore σ :=
  let (reply, store) := BackingStore.answer request now transcribed.store
  (reply,
    { transcribed with
      store := store
      lines := transcribed.lines ++ [⟨request, transcribed.declared, refusalOf reply⟩] })

instance : BackingStore (TranscribedStore σ) where
  name transcribed := BackingStore.name transcribed.store
  capabilities transcribed := transcribed.declared
  pageBound transcribed := BackingStore.pageBound transcribed.store
  answer := TranscribedStore.answer

/-- Stores of a kind support what is declared: they may fail a request of a declared group, but not
for want of the operation. -/
def Supports (σ : Type) [BackingStore σ] (declared : Capabilities) : Prop :=
  ∀ request, declared.Offers request → ∀ (now : Millis) (store : σ) (operation : String),
    refusalOf (BackingStore.answer request now store).1 ≠ some (.unsupported operation)

namespace MemoryStore

/-- An answer of a store that has the operation: if it is an error, the store refused. -/
def Refuses {α : Type} (answer : Except StoreError α) : Prop :=
  ∀ error, answer = .error error → ∃ refusal, error = .backend refusal

/-- A refusal is one. -/
theorem refuses_refusal {α : Type} (refusal : Refusal) :
    Refuses (.error (.backend refusal) : Except StoreError α) :=
  fun _ same => ⟨refusal, (Except.error.inj same).symm⟩

/-- A read fails only because the store refuses. -/
theorem get_refuses (store : MemoryStore) (key : String) (now : Millis) :
    Refuses (store.get key now).1 := by
  rw [get]
  rcases store.use key now with ⟨_ | (entry | ⟨members, deadline⟩), used⟩
  · exact nofun
  · exact nofun
  · exact refuses_refusal _

/-- A read of several keys fails only because the store refuses one of them. -/
theorem getMany_refuses (keys : List String) (store : MemoryStore) (now : Millis) :
    Refuses (store.getMany keys now).1 := by
  induction keys generalizing store with
  | nil => exact nofun
  | cons key rest ih =>
    have first := store.get_refuses key now
    rw [getMany]
    rcases got : store.get key now with ⟨fault | found, used⟩
    · rw [got] at first
      exact fun error same => first error (congrArg Except.error (Except.error.inj same))
    · intro error same
      dsimp only at same
      rcases later : (used.getMany rest now).1 with fault | payloads
      · rw [later] at same
        exact ih used error (later.trans (congrArg Except.error (Except.error.inj same)))
      · rw [later] at same
        exact absurd same nofun

/-- An addition fails only because the store refuses. -/
theorem increment_refuses (store : MemoryStore) (key : String) (amount : Int) (now : Millis) :
    Refuses (store.increment key amount now).1 := by
  rw [increment]
  rcases store.use key now with ⟨_ | (entry | ⟨members, deadline⟩), used⟩
  · cases addToCounter? 0 amount with
    | none => exact refuses_refusal _
    | some sum => exact nofun
  · dsimp only
    cases readCounter? entry.payload with
    | none => exact refuses_refusal _
    | some current =>
      dsimp only
      cases addToCounter? current amount with
      | none => exact refuses_refusal _
      | some sum => exact nofun
  · exact refuses_refusal _

/-- An addition to sets fails only because the store refuses. -/
theorem addMember_refuses (keys : List String) (store : MemoryStore) (member : String)
    (lifetime : Seconds) (now : Millis) :
    Refuses (store.addMember keys member lifetime now).1 := by
  induction keys generalizing store with
  | nil => exact nofun
  | cons key rest ih =>
    rw [addMember]
    rcases store.use key now with ⟨_ | (entry | ⟨members, deadline⟩), used⟩
    · exact ih _
    · exact refuses_refusal _
    · exact ih _

/-- A store in memory fails only because it refuses. -/
theorem answer_refuses [Libraries] (request : Request) (now : Millis) (store : MemoryStore) :
    Refuses (store.answer request now).1 := by
  cases request with
  | ping => exact nofun
  | close => exact nofun
  | get key => exact store.get_refuses key now
  | set key payload lifetime => exact nofun
  | delete keys => exact nofun
  | probe key => exact nofun
  | increment key amount => exact store.increment_refuses key amount now
  | scan cursor pattern count =>
    rw [answer, scan]
    cases Pattern.compile? pattern with
    | none => exact refuses_refusal _
    | some compiled => exact nofun
  | getMany keys => exact getMany_refuses keys store now
  | setMany items lifetime => exact nofun
  | addMember keys member lifetime => exact addMember_refuses keys store member lifetime now
  | members key =>
    rw [answer, members]
    rcases store.use key now with ⟨_ | (entry | ⟨members, deadline⟩), used⟩
    · exact nofun
    · exact refuses_refusal _
    · exact nofun

/-- Stores in memory support every group of operations. -/
theorem supports [Libraries] (declared : Capabilities) : Supports MemoryStore declared := by
  intro request _ now store operation refused
  have known : refusalOf (store.answer request now).1 = some (.unsupported operation) := refused
  rcases answered : (store.answer request now).1 with fault | reply
  · obtain ⟨refusal, rfl⟩ := store.answer_refuses request now fault answered
    rw [answered] at known
    exact absurd known nofun
  · rw [answered] at known
    exact absurd known nofun

end MemoryStore

end FailOpenCache
