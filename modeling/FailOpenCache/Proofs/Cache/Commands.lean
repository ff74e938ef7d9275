import FailOpenCache.Cache.Sweep
import FailOpenCache.Proofs.Cache.Requests
import Mathlib.Algebra.Ring.Nat

/-!
# The operations of a cache as commands

A command is one operation of a cache with its arguments, and a run is a list of commands. What a
command answers has the type of its operation. A session with a connection goes on with the
connection that the command leaves, so a run can be followed on the connection. There a command
changes the store by requests only, and the clock by its span.
-/

namespace FailOpenCache

/-- An operation of a cache. -/
inductive CacheCommand : Type 1 where
  /-- Read the document under a key. -/
  | get (key : String)
  /-- Read the value under a key, if its document has the shape of one. -/
  | getAs (α : Type) [Storable α] (key : String)
  /-- Write a value. -/
  | set {α : Type} [Storable α] (key : String) (value : α) (stated : Option Seconds)
  /-- Read the documents under several keys. -/
  | getMany (keys : List String)
  /-- Write several values. -/
  | setMany {α : Type} [Storable α] (items : List (String × α)) (stated : Option Seconds)
  /-- Delete a key. -/
  | delete (key : String)
  /-- Say whether a key is there. -/
  | probe (key : String)
  /-- Add to a counter. -/
  | increment (key : String) (amount : Int)
  /-- Write a value under tags. -/
  | setTagged {α : Type} [Storable α] (key : String) (value : α) (tags : List String)
    (stated : Option Seconds)
  /-- Delete the keys that match a pattern. -/
  | invalidate (pattern : String)
  /-- Delete the keys written under a tag. -/
  | invalidateTag (tag : String)
  /-- Read a value or compute it. -/
  | compute {α ε : Type} [Storable α] (computation : Computation α ε)
  /-- Read or compute the values of several callers at once, whose computations end in some order.
  -/
  | computeAll {α ε : Type} [Storable α] (schedule : Schedule)
    (computations : List (Computation α ε))
  /-- Read a value, or begin a computation that is given up. -/
  | computeAbandoned (α : Type) [Storable α] (key : String)
  /-- Give a stem a lifetime. -/
  | override (stem : String) (lifetime : Seconds)
  /-- Drop what has expired in the process. -/
  | sweep
  /-- Let time pass. -/
  | advance (span : Millis)

namespace CacheCommand

variable {σ τ : Type} [BackingStore σ] [BackingStore τ]

/-- What an operation answers. -/
def Answer : CacheCommand → Type
  | get _ => Option Document
  | getAs α _ => Option α
  | getMany _ => Table (Option Document)
  | probe _ => Bool
  | increment _ _ => Int
  | invalidate _ => Ending Nat
  | invalidateTag _ | sweep => Nat
  | @compute α ε _ _ => Computed α ε
  | @computeAll α ε _ _ _ => Landing α ε
  | computeAbandoned α _ => Option α
  | @set _ _ _ _ _ | @setMany _ _ _ _ | delete _ | @setTagged _ _ _ _ _ _ => Unit
  | override _ _ | advance _ => Unit

/-- The operation panicked. -/
def panicked : (command : CacheCommand) → command.Answer → Bool
  | invalidate _, (ending : Ending Nat) => ending == .panicked
  | _, _ => false

/-- The keys of values that an operation reads or writes. -/
def keys : CacheCommand → List String
  | get key | getAs _ key | delete key | probe key | increment key _ => [key]
  | @set _ _ key _ _ | @setTagged _ _ key _ _ _ | computeAbandoned _ key => [key]
  | getMany keys => keys
  | setMany items _ => items.map Prod.fst
  | compute computation => [computation.key]
  | computeAll _ computations => computations.map Computation.key
  | invalidate _ | invalidateTag _ | override _ _ | sweep | advance _ => []

/-- How far an operation moves the clock. -/
def span : CacheCommand → Millis
  | advance span => span
  | _ => 0

variable [Libraries]

/-- Run an operation on a session. -/
def run : (command : CacheCommand) → Session σ → command.Answer × Session σ
  | get key, session => Session.get key session
  | getAs α key, session => Session.getAs α key session
  | set key value stated, session => Session.set key value stated session
  | getMany keys, session => Session.getMany keys session
  | setMany items stated, session => Session.setMany items stated session
  | delete key, session => Session.delete key session
  | probe key, session => Session.probe key session
  | increment key amount, session => Session.increment key amount session
  | setTagged key value tags stated, session => Session.setTagged key value tags stated session
  | invalidate pattern, session => Session.invalidate pattern session
  | invalidateTag tag, session => Session.invalidateTag tag session
  | compute computation, session => Session.compute computation session
  | computeAll schedule computations, session => Session.computeAll schedule computations session
  | computeAbandoned α key, session => Session.computeAbandoned α key session
  | override stem lifetime, session => ((), session.override stem lifetime)
  | sweep, session => session.sweep
  | advance span, session => ((), session.advance span)

/-- Run operations on a session, one after the other. -/
def runAll (commands : List CacheCommand) (session : Session σ) : Session σ :=
  commands.foldl (fun left command => (command.run left).2) session

/-- Run an operation on a connection. -/
def act : (command : CacheCommand) → Connection σ → command.Answer × Connection σ
  | get key, connection => Connection.get key connection
  | getAs α key, connection => Connection.getAs α key connection
  | set key value stated, connection => Connection.set key value stated connection
  | getMany keys, connection => Connection.getMany keys connection
  | setMany items stated, connection => Connection.setMany items stated connection
  | delete key, connection => ((), (Connection.deleteAll [key] connection).2)
  | probe key, connection => Connection.probe key connection
  | increment key amount, connection => Connection.increment key amount connection
  | setTagged key value tags stated, connection =>
    Connection.setTagged key value tags stated connection
  | invalidate pattern, connection => Connection.invalidate pattern connection
  | invalidateTag tag, connection => Connection.invalidateTag tag connection
  | compute computation, connection => Connection.compute computation connection
  | computeAll schedule computations, connection =>
    Connection.computeAll schedule computations connection
  | computeAbandoned α key, connection => Connection.computeAbandoned α key connection
  | override stem lifetime, connection =>
    ((), { connection with
      cache := { connection.cache with rules := connection.cache.rules.override stem lifetime } })
  | sweep, connection =>
    ((connection.cache.sweep connection.now).1,
      { connection with cache := (connection.cache.sweep connection.now).2 })
  | advance span, connection =>
    ((), { connection with now := advanceClock connection.now span })

/-- Run operations on a connection, one after the other. -/
def actAll (commands : List CacheCommand) (connection : Connection σ) : Connection σ :=
  commands.foldl (fun left command => (command.act left).2) connection

/-- A session with a connection answers as the connection does, and goes on with what it leaves. -/
theorem run_session (command : CacheCommand) (connection : Connection σ) :
    command.run connection.session =
      ((command.act connection).1, (command.act connection).2.session) := by
  cases command <;> rfl

/-- A session with a connection goes on with the connection that operations leave. -/
theorem runAll_session (commands : List CacheCommand) (connection : Connection σ) :
    runAll commands connection.session = (actAll commands connection).session := by
  induction commands generalizing connection with
  | nil => rfl
  | cons command rest ih =>
    rw [runAll, List.foldl_cons, run_session]
    exact ih (command.act connection).2

/-- An operation changes the store by requests only and does not touch the clock, or it lets time
pass. -/
theorem onlyAsks_act (command : CacheCommand) :
    Connection.OnlyAsks (fun connection : Connection σ => command.act connection) ∨
      ∃ span, command = advance span := by
  cases command with
  | get key => exact .inl (Connection.onlyAsks_get key)
  | getAs α key => exact .inl (Connection.onlyAsks_getAs key)
  | set key value stated => exact .inl (Connection.onlyAsks_set key value stated)
  | getMany keys => exact .inl (Connection.onlyAsks_getMany keys)
  | setMany items stated => exact .inl (Connection.onlyAsks_setMany items stated)
  | delete key => exact .inl (Connection.onlyAsks_discard (Connection.onlyAsks_deleteAll [key]))
  | probe key => exact .inl (Connection.onlyAsks_probe key)
  | increment key amount => exact .inl (Connection.onlyAsks_increment key amount)
  | setTagged key value tags stated =>
    exact .inl (Connection.onlyAsks_setTagged key value tags stated)
  | invalidate pattern => exact .inl (Connection.onlyAsks_invalidate pattern)
  | invalidateTag tag => exact .inl (Connection.onlyAsks_invalidateTag tag)
  | compute computation => exact .inl (Connection.onlyAsks_compute computation)
  | computeAll schedule computations =>
    exact .inl (Connection.onlyAsks_computeAll schedule computations)
  | computeAbandoned α key => exact .inl (Connection.onlyAsks_computeAbandoned key)
  | override stem lifetime =>
    exact .inl (Connection.onlyAsks_of_same (fun _ => rfl) fun _ => rfl)
  | sweep => exact .inl (Connection.onlyAsks_of_same (fun _ => rfl) fun _ => rfl)
  | advance span => exact .inr ⟨span, rfl⟩

/-- An operation moves the clock by its span, while the clock stays in its range. -/
theorem now_act {command : CacheCommand} {connection : Connection σ}
    (clock : connection.now + command.span ≤ lastWord) :
    (command.act connection).2.now = connection.now + command.span := by
  rcases onlyAsks_act (σ := σ) command with asks | ⟨span, rfl⟩
  · have still := asks.still connection
    cases command with
    | advance span => exact Nat.mod_eq_of_lt (Nat.lt_succ_of_le clock)
    | _ => exact still
  · exact Nat.mod_eq_of_lt (Nat.lt_succ_of_le clock)

/-- An operation changes the store by requests only. -/
theorem led_act (command : CacheCommand) (connection : Connection σ) :
    Led connection.store (command.act connection).2.store := by
  rcases onlyAsks_act (σ := σ) command with asks | ⟨span, rfl⟩
  · exact asks.led connection
  · exact .refl

/-- Operations change the store by requests only. -/
theorem led_actAll (commands : List CacheCommand) (connection : Connection σ) :
    Led connection.store (actAll commands connection).store := by
  induction commands generalizing connection with
  | nil => exact .refl
  | cons command rest ih => exact (led_act command connection).trans (ih _)

end CacheCommand

end FailOpenCache
