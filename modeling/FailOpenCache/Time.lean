import FailOpenCache.Number.Power

/-!
# Instants and deadlines

Time is counted in milliseconds by a clock of one 64-bit word, and lifetimes are given in whole
seconds. A lifetime of zero stands for no deadline at all, and a deadline past the end of the
clock's range is put at its last instant. What has a deadline is gone from the very instant the
clock reaches it.
-/

namespace FailOpenCache

/-- An instant or a span, in milliseconds. -/
abbrev Millis := Nat

/-- A lifetime in whole seconds; zero stands for ever. -/
abbrev Seconds := Nat

/-- The last value of an unsigned 64-bit word, and so the last instant of a clock. -/
def lastWord : Nat := 2 ^ 64 - 1

/-- The deadline of what is written now with a given lifetime. -/
def deadlineAfter (now : Millis) (lifetime : Seconds) : Option Millis :=
  if lifetime = 0 then none else some (min (now + 1000 * lifetime) lastWord)

/-- A deadline has passed from the instant the clock reaches it; no deadline never passes. -/
def hasPassed (deadline : Option Millis) (now : Millis) : Bool :=
  match deadline with
  | none => false
  | some instant => decide (instant ≤ now)

/-- A clock moved forward; it starts again from zero after its last instant. -/
def advanceClock (now span : Millis) : Millis :=
  (now + span) % 2 ^ 64

/-- Nothing without a lifetime ever passes. -/
@[simp] theorem hasPassed_deadlineAfter_zero (written now : Millis) :
    hasPassed (deadlineAfter written 0) now = false := by
  simp [deadlineAfter, hasPassed]

/-- What has passed stays so as the clock goes on. -/
theorem hasPassed_mono {deadline : Option Millis} {now later : Millis} (ordered : now ≤ later)
    (passed : hasPassed deadline now) : hasPassed deadline later := by
  cases deadline with
  | none => simp [hasPassed] at passed
  | some instant =>
    simp only [hasPassed, decide_eq_true_eq] at passed ⊢
    exact Nat.le_trans passed ordered

/-- An encoded payload with its deadline. -/
structure Entry where
  /-- The encoded payload. -/
  payload : String
  /-- The instant from which the entry is gone. -/
  deadline : Option Millis
deriving DecidableEq

/-- The entry of a payload written now with a given lifetime. -/
def Entry.write (payload : String) (lifetime : Seconds) (now : Millis) : Entry :=
  ⟨payload, deadlineAfter now lifetime⟩

/-- The deadline of the entry has passed. -/
def Entry.isExpired (entry : Entry) (now : Millis) : Bool :=
  hasPassed entry.deadline now

end FailOpenCache
