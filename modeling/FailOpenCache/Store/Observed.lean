import FailOpenCache.Store.Request
import FailOpenCache.Table

/-!
# Observed stores

A store can be put behind an observer, which declares capabilities of its own choice, keeps a
record of every request, and can be told which requests are to fail without reaching the store and
how long the answers to reads of several values may be. The cache sees it as a store like any
other, so what the cache does under faults can be read off the record.
-/

namespace FailOpenCache

/-- Which of the requests of one operation fail. -/
inductive FaultPlan where
  /-- All of them. -/
  | all
  /-- Those at these places among the requests of the operation, which are counted from one. -/
  | at (places : List Nat)
deriving DecidableEq

/-- The plan makes the request at a place fail. -/
def FaultPlan.strikes : FaultPlan → Nat → Bool
  | all, _ => true
  | .at places, place => places.contains place

/-- A request in the record. -/
structure ObservedCall where
  /-- The request. -/
  request : Request
  /-- It was not answered. -/
  failed : Bool
deriving DecidableEq

/-- A store behind an observer. -/
structure ObservedStore (σ : Type) where
  /-- The store. -/
  store : σ
  /-- The groups of operations that the observer declares. -/
  declared : Capabilities
  /-- The operations of which some requests are to fail. -/
  plans : List (Operation × FaultPlan)
  /-- How many values an answer to a read of several ones has at most. -/
  longestAnswer : Option Nat
  /-- The requests so far, the first one first. -/
  calls : List ObservedCall

namespace ObservedStore

variable {σ : Type}

/-- How many requests of an operation there have been. -/
def countOf (observed : ObservedStore σ) (operation : Operation) : Nat :=
  (observed.calls.filter fun call => call.request.operation == operation).length

/-- The next request of an operation is to fail. -/
def strikes (observed : ObservedStore σ) (operation : Operation) : Bool :=
  observed.plans.any fun plan =>
    plan.1 == operation && plan.2.strikes (observed.countOf operation + 1)

/-- What an observer says of a request that it made fail. -/
def injectedFault : StoreError := .backend (.reported "refused by the observer")

/-- The answer to a request, cut if it is a read of several values and too long. -/
def shorten (longest : Option Nat) : (request : Request) → request.Reply → request.Reply
  | .getMany _, values => match longest with
    | some count => List.take count values
    | none => values
  | .ping, reply | .close, reply | .get _, reply | .set _ _ _, reply | .delete _, reply
  | .probe _, reply | .increment _ _, reply | .scan _ _ _, reply | .setMany _ _, reply
  | .addMember _ _ _, reply | .members _, reply => reply

/-- Record a request, and let it fail or reach the store. -/
def answer [BackingStore σ] (request : Request) (now : Millis) (observed : ObservedStore σ) :
    Except StoreError request.Reply × ObservedStore σ :=
  if observed.strikes request.operation then
    (.error injectedFault, { observed with calls := observed.calls ++ [⟨request, true⟩] })
  else
    let (reply, store) := BackingStore.answer request now observed.store
    (reply.map (shorten observed.longestAnswer request),
      { observed with
        store := store
        calls := observed.calls ++ [⟨request, !reply.isOk⟩] })

instance [BackingStore σ] : BackingStore (ObservedStore σ) where
  name observed := BackingStore.name observed.store
  capabilities observed := observed.declared
  pageBound observed := BackingStore.pageBound observed.store
  answer := answer

end ObservedStore

end FailOpenCache
