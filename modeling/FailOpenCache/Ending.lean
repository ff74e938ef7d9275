/-!
# How calls end

Most calls return. A call that asks for more room than there can be panics, and a panic takes along
whoever called. A loop that follows what a store answers may never come to an end.
-/

namespace FailOpenCache

/-- How a call ends, if it does. -/
inductive Ending (α : Type) where
  /-- It has returned. -/
  | returned (value : α)
  /-- It has panicked. -/
  | panicked
  /-- It is running still. -/
  | running
deriving DecidableEq

namespace Ending

variable {α β : Type} {change : α → β} {ending : Ending α}

/-- How a call ends if something is done to what it returns. -/
def map (change : α → β) : Ending α → Ending β
  | returned value => returned (change value)
  | panicked => panicked
  | running => running

/-- What is returned is what was done to something that was returned. -/
theorem map_eq_returned_iff {result : β} :
    ending.map change = returned result ↔
      ∃ value, ending = returned value ∧ change value = result := by
  cases ending <;> simp [map]

end Ending

end FailOpenCache
