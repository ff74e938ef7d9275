import FailOpenCache.Proofs.Cache.Arrivals
import FailOpenCache.Proofs.Guards.Service

/-!
# Computations that are given up

A caller can be dropped wherever it stands: while it waits for the lock of its key, when the lock
has been passed to it, or at its computation. Its ticket leaves the line then, and the line closes
up. So a caller never finds a key blocked by one that is gone: it waits only behind those that still
stand in the line.
-/

namespace FailOpenCache

namespace Connection

variable {σ : Type} [BackingStore σ] {α ε : Type} [Storable α] {connection : Connection σ}

/-- A caller whose key nobody came for does not wait. -/
theorem takeOff_of_free (coherent : connection.cache.guards.Coherent)
    {computation : Computation α ε}
    (free : connection.cache.guards.line computation.key = []) (ticket : Ticket) :
    (takeOff computation connection).1.phase ≠ .waiting ticket := by
  obtain ⟨-, after, starts⟩ := takeOff_starts coherent computation
  intro waits
  rw [waits] at starts
  cases starts with
  | waits own tickets owns =>
    have first := after.owns_last tickets (own ▸ free)
    rw [owns] at first
    exact Bool.false_ne_true first

/-- A computation that is given up leaves the tickets as they were. -/
theorem computeAbandoned_tickets (coherent : connection.cache.guards.Coherent) (key : String) :
    (computeAbandoned α key connection).2.cache.guards.Coherent ∧
      (computeAbandoned α key connection).2.cache.guards.tickets =
        connection.cache.guards.tickets := by
  have alike := quiet_getKey key connection
  have looked : (getAs α key connection).2 = (get key connection).2 := rfl
  rw [computeAbandoned, bind_apply, looked]
  cases (getAs α key connection).1 with
  | some value => exact ⟨alike.guards.symm ▸ coherent, congrArg Guards.tickets alike.guards⟩
  | none =>
    dsimp only
    rw [bind_apply, bind_apply, bind_apply, giveBack_apply, pure_apply]
    dsimp only
    rw [lookAgain_guards, takeTicket_apply]
    dsimp only
    rw [alike.guards]
    have took := (Guards.take_spec coherent key).1
    exact ⟨took.giveBack _, coherent.tickets_take_giveBack key⟩

end Connection

namespace GuardScene

open Connection (takeOff giveBack computeAbandoned)

variable {scene : GuardScene}

/-- Guards leave nobody waiting for one that is gone. After any moves the line of a key is told by
the moves: the owner is the first of it, and the others wait for the key. So a key has waiters only
if it has one owner, an owner that is dropped is followed by the oldest that waits, and whoever
stands in the line becomes the owner once those ahead of it have been dropped, and not before.
Whoever comes for a key that nobody owns or waits for owns it at once. A computation that is given
up therefore does not block the next one of its key, whatever the store of the cache does. -/
theorem run_servesInOrder (bound : Nat) (moves : List GuardMove) :
    let scene := run moves (start bound)
    let line := fun key => lineAfter key moves (start bound) []
    (∀ ticket, scene.Owns ticket ↔ scene.guards.owns ticket = true) ∧
      (∀ ticket, scene.Owns ticket ↔ (line ticket.key).head? = some ticket) ∧
      (∀ ticket, scene.Awaits ticket ↔ ticket ∈ (line ticket.key).tail) ∧
      (∀ ticket, scene.Awaits ticket → ∃! owner, scene.Owns owner ∧ owner.key = ticket.key) ∧
      (∀ owner, scene.Owns owner → ∀ ticket, ticket.key = owner.key →
        ((scene.step (.drop owner)).Owns ticket ↔ (line owner.key).tail.head? = some ticket)) ∧
      (∀ ticket ahead behind, line ticket.key = ahead ++ ticket :: behind → ∀ later,
        ((scene.run later).Owns ticket ↔
          .drop ticket ∉ later ∧ ∀ earlier ∈ ahead, .drop earlier ∈ later)) ∧
      (∀ key, (∀ ticket, ticket.key = key → ¬ scene.Owns ticket ∧ ¬ scene.Awaits ticket) →
        (scene.step (.acquire key)).Owns (scene.guards.take key).1) ∧
      ∀ (σ : Type) [BackingStore σ] (connection : Connection σ),
        connection.cache.guards = scene.guards →
        ∀ (α ε : Type) [Storable α] (next : Computation α ε),
          (∀ owner, scene.Owns owner → owner.key = next.key →
            (∀ ticket, scene.Awaits ticket → ticket.key ≠ next.key) →
            ∀ ticket, (takeOff next (giveBack owner connection).2).1.phase ≠ .waiting ticket) ∧
          ((∀ ticket, scene.Owns ticket → ticket.key ≠ next.key) →
            ∀ (β : Type) [Storable β] ticket,
              (takeOff next (computeAbandoned β next.key connection).2).1.phase ≠
                .waiting ticket) := by
  intro scene line
  have sound : scene.Sound := (sound_start bound).run moves
  have told : ∀ key, scene.guards.line key = line key := fun key =>
    (sound_start bound).line_run moves key
  have first : ∀ ticket, scene.Owns ticket ↔ (line ticket.key).head? = some ticket := by
    intro ticket
    rw [← told]
    exact sound.owns_iff
  have others : ∀ ticket, scene.Awaits ticket ↔ ticket ∈ (line ticket.key).tail := by
    intro ticket
    rw [← told]
    exact sound.awaits_iff
  have passes : ∀ owner, scene.Owns owner → ∀ ticket, ticket.key = owner.key →
      ((scene.step (.drop owner)).Owns ticket ↔ (line owner.key).tail.head? = some ticket) := by
    intro owner owns ticket key
    rw [(sound.step (.drop owner)).owns_iff, key, sound.line_drop owns, told]
  have served : ∀ ticket ahead behind, line ticket.key = ahead ++ ticket :: behind → ∀ later,
      ((scene.run later).Owns ticket ↔
        .drop ticket ∉ later ∧ ∀ earlier ∈ ahead, .drop earlier ∈ later) := by
    intro ticket ahead behind shape later
    rw [← told] at shape
    exact sound.served_iff shape later
  have comes : ∀ key,
      (∀ ticket, ticket.key = key → ¬ scene.Owns ticket ∧ ¬ scene.Awaits ticket) →
      (scene.step (.acquire key)).Owns (scene.guards.take key).1 := by
    intro key free
    have unowned : ∀ number ticket, (scene.locks number).holder = some ticket →
        ticket.key ≠ key := fun number ticket holds own => (free ticket own).1 ⟨number, holds⟩
    exact ⟨_, sound.acquire_free unowned⟩
  refine ⟨sound.owns_iff_owns_guards, first, others, fun _ => sound.existsUnique_owner, passes,
    served, comes, ?_⟩
  intro σ _ connection same α ε _ next
  have coherent : connection.cache.guards.Coherent := same ▸ sound.coherent
  constructor
  · intro owner owns key unawaited
    have dropped := sound.line_drop owns
    have nobody : (scene.guards.line owner.key).tail = [] := by
      apply List.eq_nil_iff_forall_not_mem.2
      intro ticket inside
      have own := (Guards.mem_line.1 (List.mem_of_mem_tail inside)).2
      rw [← own] at inside
      exact unawaited ticket (sound.awaits_iff.2 inside) (own.trans key)
    have left : (giveBack owner connection).2.cache.guards.line next.key = [] := by
      rw [nobody, key] at dropped
      rw [Connection.giveBack_apply, same]
      exact dropped
    exact Connection.takeOff_of_free (coherent.giveBack owner) left
  · intro unowned β _
    obtain ⟨kept, tickets⟩ := Connection.computeAbandoned_tickets (α := β) coherent next.key
    have left : (computeAbandoned β next.key connection).2.cache.guards.line next.key = [] := by
      rw [Guards.line, tickets, same]
      exact sound.line_of_unowned unowned
    exact Connection.takeOff_of_free kept left

end GuardScene

end FailOpenCache
