import FailOpenCache.Cache.Lifecycle
import FailOpenCache.Libraries.Plain
import FailOpenCache.Proofs.Cache.Commands
import FailOpenCache.Proofs.Store.Transcripts

/-!
# Without a connection

A cache whose link is down answers that there is nothing and lets every computation run. It does not
matter how the link came to be down, nor what the cache holds: an operation that needs a connection
leaves the whole session as it is, which includes what is kept in the process, the counters and the
store of last time.
-/

namespace FailOpenCache.CacheCommand

variable {σ : Type} [BackingStore σ]

/-- The operation needs a connection; the others do as much without one. -/
def needsConnection : CacheCommand → Bool
  | override _ _ | sweep | advance _ => false
  | _ => true

/-- The answer of an operation that finds nothing: no value under any key, nothing counted, and what
each computation itself comes to, which ran once. -/
def AnswersIdle : (command : CacheCommand) → command.Answer → Prop
  | get _, found => found = none
  | getAs _ _, found => found = none
  | getMany keys, table => ∀ key, table.find? key = if key ∈ keys then some none else none
  | probe _, held => held = false
  | increment _ _, sum => sum = (0 : Int)
  | invalidate _, ending => ending = (.returned 0 : Ending Nat)
  | invalidateTag _, removed => removed = (0 : Nat)
  | compute computation, computed =>
    computed.ran = true ∧ computed.result = computation.outcome
  | computeAll _ computations, landing =>
    landing.flights = computations.map (fun computation =>
      ⟨computation, .landed computation.outcome⟩) ∧
      landing.ran = List.range computations.length
  | computeAbandoned _ _, found => found = none
  | _, _ => True

omit [BackingStore σ] in
/-- The keys asked for stand in the table without values, and no other key does. -/
theorem find?_unanswered (keys : List String) (key : String) :
    (Connection.unanswered keys).find? key = if key ∈ keys then some none else none := by
  have added : ∀ table : Table (Option Document),
      ((keys.map fun key => (key, (none : Option Document))).foldl
        (fun table entry => table.put entry.1 entry.2) table).find? key =
          if key ∈ keys then some none else table.find? key := by
    induction keys with
    | nil => exact fun table => rfl
    | cons first rest ih =>
      intro table
      rw [List.map_cons, List.foldl_cons, ih, Table.find?_put]
      by_cases later : key ∈ rest
      · simp [later]
      · simp [later]
  exact added .empty

section

variable [Libraries]

/-- An operation that needs a connection answers without one that there is nothing. -/
theorem answersIdle_run (command : CacheCommand) {session : Session σ}
    (down : session.isConnected = false) : command.AnswersIdle (command.run session).1 := by
  have idle : ∀ {α : Type} (otherwise : α) (operation : StateM (Connection σ) α),
      (Session.whenConnected otherwise operation session).1 = otherwise :=
    fun otherwise operation =>
      congrArg Prod.fst (Session.whenConnected_of_down down otherwise operation)
  cases command with
  | get key => exact idle _ _
  | getAs α key => exact idle _ _
  | getMany keys =>
    intro key
    rw [run, Session.getMany, idle]
    exact find?_unanswered keys key
  | probe key => exact idle _ _
  | increment key amount => exact idle _ _
  | invalidate pattern => exact idle _ _
  | invalidateTag tag => exact idle _ _
  | compute computation =>
    rw [run, Session.compute, idle]
    exact ⟨rfl, rfl⟩
  | computeAll schedule computations =>
    rw [run, Session.computeAll, idle]
    exact ⟨rfl, rfl⟩
  | computeAbandoned α key => exact idle _ _
  | _ => exact trivial

/-- An operation that needs a connection leaves a session without one as it is. -/
theorem run_down {command : CacheCommand} (needs : command.needsConnection = true)
    {session : Session σ} (down : session.isConnected = false) :
    (command.run session).2 = session := by
  cases command with
  | override stem lifetime => exact absurd needs Bool.false_ne_true
  | sweep => exact absurd needs Bool.false_ne_true
  | advance span => exact absurd needs Bool.false_ne_true
  | _ => exact congrArg Prod.snd (Session.whenConnected_of_down down _ _)

/-- Operations that need a connection leave a session without one as it is. -/
theorem runAll_of_down {commands : List CacheCommand}
    (needs : ∀ command ∈ commands, command.needsConnection = true) {session : Session σ}
    (down : session.isConnected = false) : runAll commands session = session := by
  induction commands with
  | nil => rfl
  | cons command rest ih =>
    have still := run_down (needs command List.mem_cons_self) down
    rw [runAll, List.foldl_cons, still]
    exact ih fun other inside => needs other (List.mem_cons_of_mem _ inside)

/-- A cache whose link is down is inert, however that came about: a run of operations that need a
connection leaves the whole session as it is, and each of them answers that there is nothing and
lets its computations run. The session holds the store of last time; if that is behind a clerk, its
transcript does not grow, so it is not asked for anything. -/
theorem runAll_inert {session : Session σ} (down : session.status ≠ .connected)
    {commands : List CacheCommand}
    (needs : ∀ command ∈ commands, command.needsConnection = true) :
    runAll commands session = session ∧
      ∀ before command after, commands = before ++ command :: after →
        command.AnswersIdle (command.run (runAll before session)).1 := by
  have unlinked : session.isConnected = false := beq_eq_false_iff_ne.2 down
  refine ⟨runAll_of_down needs unlinked, ?_⟩
  rintro before command after rfl
  have still := runAll_of_down
    (fun earlier inside => needs earlier (List.mem_append_left _ inside)) unlinked
  rw [still]
  exact answersIdle_run command unlinked

end

open scoped Libraries.Plain

/-- A session that was connected to a store which keeps nothing, and whose link was then looked for
where no place is configured. -/
def leftOver : Session (TranscribedStore MemoryStore) :=
  (runAll [.set "key" (Document.string "text") none] (Connection.opened .standard
    (TranscribedStore.mk (MemoryStore.ofCapacity 9) .none []) 0).session).connect
      fun memory => ⟨memory, .none, []⟩

/-- Operations of several kinds. -/
def idleRun : List CacheCommand :=
  [.get "key", .set "key" (Document.string "other") none, .invalidate "*", .increment "count" 1,
    .compute ⟨"key", none, ["tag"], (.error "failed" : Except String Document)⟩]

/-- What was kept in the process is there still, and is neither read nor changed. -/
theorem runAll_inert_leftOver :
    leftOver.cache.fallback.size = 1 ∧ runAll idleRun leftOver = leftOver ∧
      AnswersIdle (.get "key") (run (.get "key") leftOver).1 := by
  have down : leftOver.status ≠ .connected := by decide +kernel
  have needs : ∀ command ∈ idleRun, command.needsConnection = true := by
    simp [idleRun, needsConnection]
  obtain ⟨still, idle⟩ := runAll_inert down needs
  exact ⟨by decide +kernel, still, idle [] _ _ rfl⟩

end FailOpenCache.CacheCommand
