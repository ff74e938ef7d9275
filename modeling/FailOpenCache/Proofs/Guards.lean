import FailOpenCache.Guards
import FailOpenCache.Proofs.Table

/-!
# Mutual exclusion of guards

Guards are coherent when the table leads each ticket to its lock and no two keys to one lock.
Pruning keeps every lock with a ticket, so everything that happens to guards keeps them coherent,
in any order, on any keys, and however small the table is.

The locks themselves are first come, first served, and are passed on when they are left. Here they
are followed lock by lock, each with its holder and those that wait for it, next to the one list of
tickets that the guards keep. Both tell the same: the owner of a lock is its oldest ticket.
-/

namespace FailOpenCache

namespace Guards

/-- The table leads each ticket to its lock, and no two keys to one lock. -/
structure Coherent (guards : Guards) : Prop where
  /-- Different keys have different locks. -/
  apart : ∀ key other lock, guards.locks.find? key = some lock →
    guards.locks.find? other = some lock → key = other
  /-- A lock in the table was made before the next one. -/
  made : ∀ key lock, guards.locks.find? key = some lock → lock < guards.nextLock
  /-- A ticket is for the lock of its key. -/
  led : ∀ ticket ∈ guards.tickets, guards.locks.find? ticket.key = some ticket.lock
  /-- A ticket was taken before the next one. -/
  taken : ∀ ticket ∈ guards.tickets, ticket.number < guards.nextTicket
  /-- No ticket stands twice. -/
  distinct : guards.tickets.Nodup

/-- New guards are coherent. -/
theorem coherent_ofBound (bound : Nat) : (ofBound bound).Coherent where
  apart _ _ _ found := absurd found (by simp [ofBound])
  made _ _ found := absurd found (by simp [ofBound])
  led _ held := absurd held List.not_mem_nil
  taken _ held := absurd held List.not_mem_nil
  distinct := List.nodup_nil

/-- A lock with a ticket is in use. -/
theorem inUse_of_mem {guards : Guards} {ticket : Ticket} (held : ticket ∈ guards.tickets) :
    guards.inUse ticket.lock = true :=
  List.any_eq_true.2 ⟨ticket, held, BEq.rfl⟩

/-- A lock that is left in the table was there before. -/
theorem find?_of_dropIdle {guards : Guards} {key : String} {lock : Nat}
    (found : guards.dropIdle.locks.find? key = some lock) :
    guards.locks.find? key = some lock := by
  rw [dropIdle, Table.find?_filter] at found
  exact (Option.filter_eq_some_iff.1 found).1

/-- Dropping idle locks keeps guards coherent. -/
theorem Coherent.dropIdle {guards : Guards} (coherent : guards.Coherent) :
    guards.dropIdle.Coherent where
  apart key other lock found found' :=
    coherent.apart key other lock (find?_of_dropIdle found) (find?_of_dropIdle found')
  made key lock found := coherent.made key lock (find?_of_dropIdle found)
  led ticket held := by
    have led := coherent.led ticket held
    rw [Guards.dropIdle, Table.find?_filter, led]
    exact Option.filter_eq_some_iff.2 ⟨rfl, inUse_of_mem held⟩
  taken := coherent.taken
  distinct := coherent.distinct

/-- A new lock for a key without one keeps guards coherent. -/
theorem Coherent.make {guards : Guards} (coherent : guards.Coherent) {key : String}
    (missing : guards.locks.find? key = none) :
    Coherent { guards with
      locks := guards.locks.put key guards.nextLock
      nextLock := guards.nextLock + 1 } where
  apart first second lock found found' := by
    rw [Table.find?_put] at found found'
    split at found
    · rename_i same
      obtain rfl := Option.some.inj found
      split at found'
      · rename_i same'
        exact same.trans same'.symm
      · exact absurd (coherent.made second _ found') (Nat.lt_irrefl _)
    · split at found'
      · obtain rfl := Option.some.inj found'
        exact absurd (coherent.made first _ found) (Nat.lt_irrefl _)
      · exact coherent.apart first second lock found found'
  made other lock found := by
    rw [Table.find?_put] at found
    split at found
    · obtain rfl := Option.some.inj found
      exact Nat.lt_succ_self _
    · exact Nat.lt_succ_of_lt (coherent.made other lock found)
  led ticket held := by
    have led := coherent.led ticket held
    rw [Table.find?_put]
    split
    · rename_i same
      rw [same, missing] at led
      exact absurd led (by simp)
    · exact led
  taken := coherent.taken
  distinct := coherent.distinct

/-- Looking for the lock of a key keeps guards coherent and finds the lock in the table; the
tickets stay as they are. -/
theorem lockOf_spec {guards : Guards} (coherent : guards.Coherent) (key : String) :
    (guards.lockOf key).2.Coherent ∧
      (guards.lockOf key).2.locks.find? key = some (guards.lockOf key).1 ∧
      (guards.lockOf key).2.tickets = guards.tickets ∧
      (guards.lockOf key).2.nextTicket = guards.nextTicket := by
  rw [lockOf]
  cases found : guards.locks.find? key with
  | some lock => exact ⟨coherent, found, rfl, rfl⟩
  | none =>
    have put : ∀ ready : Guards, (ready.locks.put key ready.nextLock).find? key =
        some ready.nextLock := fun ready => by rw [Table.find?_put, if_pos rfl]
    dsimp only
    split
    · have missing : guards.dropIdle.locks.find? key = none := by
        rw [dropIdle, Table.find?_filter, found]
        rfl
      exact ⟨coherent.dropIdle.make missing, put guards.dropIdle, rfl, rfl⟩
    · exact ⟨coherent.make found, put guards, rfl, rfl⟩

/-- A ticket that is taken is a new one for the lock of its key, and comes last. -/
theorem take_spec {guards : Guards} (coherent : guards.Coherent) (key : String) :
    (guards.take key).2.Coherent ∧
      (guards.take key).1.key = key ∧
      (guards.take key).1 ∉ guards.tickets ∧
      (guards.take key).2.tickets = guards.tickets ++ [(guards.take key).1] := by
  obtain ⟨found, led, tickets, nextTicket⟩ := lockOf_spec coherent key
  have number : (guards.take key).1.number = guards.nextTicket := nextTicket
  have taken : (guards.take key).2.tickets = guards.tickets ++ [(guards.take key).1] :=
    congrArg (· ++ [(guards.take key).1]) tickets
  have new : (guards.take key).1 ∉ guards.tickets := by
    intro held
    have before := coherent.taken _ held
    rw [number] at before
    exact Nat.lt_irrefl _ before
  refine ⟨⟨found.apart, found.made, ?_, ?_, ?_⟩, rfl, new, taken⟩
  · intro ticket held
    rw [taken] at held
    rcases List.mem_append.1 held with old | last
    · exact found.led ticket (tickets.symm ▸ old)
    · obtain rfl := List.mem_singleton.1 last
      exact led
  · intro ticket held
    have next : (guards.take key).2.nextTicket = guards.nextTicket + 1 :=
      congrArg (· + 1) nextTicket
    rw [taken] at held
    rw [next]
    rcases List.mem_append.1 held with old | last
    · exact Nat.lt_succ_of_lt (coherent.taken ticket old)
    · obtain rfl := List.mem_singleton.1 last
      rw [number]
      exact Nat.lt_succ_self _
  · rw [taken]
    refine List.nodup_append.2 ⟨coherent.distinct, List.pairwise_singleton _ _, ?_⟩
    intro ticket old other last same
    obtain rfl := List.mem_singleton.1 last
    exact new (same ▸ old)

/-- Giving a ticket back keeps guards coherent. -/
theorem Coherent.giveBack {guards : Guards} (coherent : guards.Coherent) (ticket : Ticket) :
    (guards.giveBack ticket).Coherent where
  apart := coherent.apart
  made := coherent.made
  led other held := coherent.led other (List.mem_filter.1 held).1
  taken other held := coherent.taken other (List.mem_filter.1 held).1
  distinct := coherent.distinct.filter _

/-- Guards are at rest between operations: they are coherent, and all tickets have been given
back. -/
structure AtRest (guards : Guards) : Prop extends guards.Coherent where
  /-- All tickets have been given back. -/
  idle : guards.tickets = []

/-- New guards are at rest. -/
theorem atRest_ofBound (bound : Nat) : (ofBound bound).AtRest := ⟨coherent_ofBound bound, rfl⟩

/-- Guards are at rest again when the only ticket that was taken has been given back. -/
theorem AtRest.take_giveBack {guards : Guards} (rest : guards.AtRest) (key : String) :
    ((guards.take key).2.giveBack (guards.take key).1).AtRest := by
  obtain ⟨coherent, -, -, tickets⟩ := take_spec rest.toCoherent key
  refine ⟨coherent.giveBack _, ?_⟩
  rw [Guards.giveBack, tickets, rest.idle]
  simp

/-- The tickets for a lock, the oldest first. -/
def ticketsFor (guards : Guards) (lock : Nat) : List Ticket :=
  guards.tickets.filter fun ticket => ticket.lock == lock

/-- The owner of a lock is its oldest ticket. -/
theorem owner?_eq_head? (guards : Guards) (lock : Nat) :
    guards.owner? lock = (guards.ticketsFor lock).head? := by
  rw [owner?, ticketsFor, List.head?_filter]

/-- A ticket that is taken comes last for its lock. -/
theorem ticketsFor_take {guards : Guards} (coherent : guards.Coherent) (key : String)
    (lock : Nat) :
    (guards.take key).2.ticketsFor lock =
      if (guards.take key).1.lock = lock then guards.ticketsFor lock ++ [(guards.take key).1]
      else guards.ticketsFor lock := by
  rw [ticketsFor, (take_spec coherent key).2.2.2, List.filter_append]
  split
  · rename_i same
    simp [ticketsFor, same]
  · rename_i differs
    simp [ticketsFor, differs]

/-- A ticket that is given back is for its lock no longer. -/
theorem ticketsFor_giveBack (guards : Guards) (ticket : Ticket) (lock : Nat) :
    (guards.giveBack ticket).ticketsFor lock =
      (guards.ticketsFor lock).filter fun other => other ≠ ticket := by
  rw [ticketsFor, giveBack, ticketsFor, List.filter_filter, List.filter_filter]
  exact List.filter_congr fun other _ => Bool.and_comm ..

end Guards

/-- A lock that is first come, first served. -/
structure FifoLock where
  /-- Who holds the lock, or has been passed it. -/
  holder : Option Ticket
  /-- Who waits for the lock, the oldest first. -/
  waiting : List Ticket

namespace FifoLock

/-- A lock that nobody holds. -/
def free : FifoLock := ⟨none, []⟩

/-- Everybody at the lock, in the order of service. -/
def tickets (lock : FifoLock) : List Ticket := lock.holder.toList ++ lock.waiting

/-- Come to the lock: hold it if it is free, and wait for it otherwise. -/
def enter (lock : FifoLock) (ticket : Ticket) : FifoLock :=
  match lock.holder with
  | none => { lock with holder := some ticket }
  | some _ => { lock with waiting := lock.waiting ++ [ticket] }

/-- Leave the lock: whoever holds it passes it on to the oldest that waits, and whoever waits gives
up. -/
def leave (lock : FifoLock) (ticket : Ticket) : FifoLock :=
  if lock.holder = some ticket then ⟨lock.waiting.head?, lock.waiting.tail⟩
  else { lock with waiting := lock.waiting.filter fun other => other ≠ ticket }

/-- Whoever comes is served last. -/
theorem tickets_enter {lock : FifoLock} (idle : lock.holder = none → lock.waiting = [])
    (ticket : Ticket) : (lock.enter ticket).tickets = lock.tickets ++ [ticket] := by
  rw [enter, tickets, tickets]
  cases held : lock.holder with
  | none => simp [idle held]
  | some holder => simp

/-- Whoever leaves is served no longer, and the order of the others stays. -/
theorem tickets_leave {lock : FifoLock} (distinct : lock.tickets.Nodup) (ticket : Ticket) :
    (lock.leave ticket).tickets = lock.tickets.filter fun other => other ≠ ticket := by
  rw [leave, tickets, tickets]
  split
  · rename_i holds
    rw [tickets, holds] at distinct
    have outside : ticket ∉ lock.waiting := (List.nodup_cons.1 distinct).1
    rw [List.filter_append, filter_ne_of_notMem outside, holds]
    cases lock.waiting <;> simp
  · rename_i others
    rw [List.filter_append]
    cases held : lock.holder with
    | none => simp
    | some holder =>
      have differs : holder ≠ ticket := fun same => others (held.trans (congrArg some same))
      simp [differs]

end FifoLock

/-- Something that happens to guards. -/
inductive GuardMove where
  /-- Ask for the lock of a key for the first time. -/
  | acquire (key : String)
  /-- Ask again with a ticket. -/
  | poll (ticket : Ticket)
  /-- Drop a ticket, whether it waits or holds. -/
  | drop (ticket : Ticket)
  /-- Drop the idle locks. -/
  | prune

/-- Guards with the locks that they lead to. -/
structure GuardScene where
  /-- The guards. -/
  guards : Guards
  /-- The lock of each number. -/
  locks : Nat → FifoLock

namespace GuardScene

/-- New guards, and all locks free. -/
def start (bound : Nat) : GuardScene := ⟨.ofBound bound, fun _ => .free⟩

/-- The scene with one lock changed. -/
def change (scene : GuardScene) (guards : Guards) (number : Nat)
    (changed : FifoLock → FifoLock) : GuardScene :=
  ⟨guards, fun other => if other = number then changed (scene.locks other) else scene.locks other⟩

/-- What a move makes of a scene. -/
def step (scene : GuardScene) : GuardMove → GuardScene
  | .acquire key =>
    let (ticket, taken) := scene.guards.take key
    scene.change taken ticket.lock fun lock => lock.enter ticket
  | .poll _ => scene
  | .drop ticket =>
    scene.change (scene.guards.giveBack ticket) ticket.lock fun lock => lock.leave ticket
  | .prune => { scene with guards := scene.guards.prune.2 }

/-- What moves make of a scene, one after the other. -/
def run (moves : List GuardMove) (scene : GuardScene) : GuardScene := moves.foldl step scene

/-- The guards are coherent, and tell the same of each lock as the lock itself. -/
structure Sound (scene : GuardScene) : Prop where
  /-- The guards are coherent. -/
  coherent : scene.guards.Coherent
  /-- The tickets for a lock are those at the lock, in the order of service. -/
  told : ∀ number, (scene.locks number).tickets = scene.guards.ticketsFor number
  /-- Nobody waits for a free lock. -/
  idle : ∀ number, (scene.locks number).holder = none → (scene.locks number).waiting = []

/-- A new scene is sound. -/
theorem sound_start (bound : Nat) : (start bound).Sound :=
  ⟨Guards.coherent_ofBound bound, fun _ => rfl, fun _ _ => rfl⟩

/-- Asking for a lock keeps a scene sound. -/
theorem Sound.acquire {scene : GuardScene} (sound : scene.Sound) (key : String) :
    (scene.step (.acquire key)).Sound where
  coherent := (Guards.take_spec sound.coherent key).1
  told number := by
    have taken := Guards.ticketsFor_take sound.coherent key number
    simp only [step, change]
    rw [taken]
    by_cases here : number = (scene.guards.take key).1.lock
    · rw [if_pos here, if_pos here.symm, FifoLock.tickets_enter (sound.idle number),
        sound.told number]
    · rw [if_neg here, if_neg (Ne.symm here)]
      exact sound.told number
  idle number free := by
    simp only [step, change] at free ⊢
    split at free
    · rw [FifoLock.enter] at free
      cases held : (scene.locks number).holder with
      | none => simp [held] at free
      | some holder => simp [held] at free
    · rename_i other
      rw [if_neg other]
      exact sound.idle number free

/-- Dropping a ticket keeps a scene sound. -/
theorem Sound.drop {scene : GuardScene} (sound : scene.Sound) (ticket : Ticket) :
    (scene.step (.drop ticket)).Sound where
  coherent := sound.coherent.giveBack ticket
  told number := by
    have distinct : (scene.locks number).tickets.Nodup := by
      rw [sound.told number]
      exact sound.coherent.distinct.filter _
    simp only [step, change]
    rw [Guards.ticketsFor_giveBack, ← sound.told number]
    by_cases here : number = ticket.lock
    · rw [if_pos here, FifoLock.tickets_leave distinct]
    · rw [if_neg here]
      refine (List.filter_eq_self.2 fun other held => ?_).symm
      rw [decide_eq_true_eq]
      intro same
      rw [sound.told number] at held
      have lock := (List.mem_filter.1 held).2
      rw [same, beq_iff_eq] at lock
      exact here lock.symm
  idle number free := by
    simp only [step, change] at free ⊢
    split at free
    · rename_i here
      rw [if_pos here]
      rw [FifoLock.leave] at free ⊢
      split at free
      · rename_i holds
        rw [if_pos holds]
        rw [List.head?_eq_none_iff] at free
        simp [free]
      · rename_i others
        rw [if_neg others]
        simp [sound.idle number free]
    · rename_i other
      rw [if_neg other]
      exact sound.idle number free

/-- Every move keeps a scene sound. -/
theorem Sound.step {scene : GuardScene} (sound : scene.Sound) (move : GuardMove) :
    (scene.step move).Sound := by
  cases move with
  | acquire key => exact sound.acquire key
  | poll ticket => exact sound
  | drop ticket => exact sound.drop ticket
  | prune => exact ⟨sound.coherent.dropIdle, sound.told, sound.idle⟩

/-- Moves keep a scene sound. -/
theorem Sound.run {scene : GuardScene} (sound : scene.Sound) (moves : List GuardMove) :
    (scene.run moves).Sound := by
  rw [GuardScene.run]
  induction moves generalizing scene with
  | nil => exact sound
  | cons move rest hypothesis => exact hypothesis (sound.step move)

/-- Whoever holds a lock is its owner. -/
theorem Sound.holder_eq {scene : GuardScene} (sound : scene.Sound) (number : Nat) :
    (scene.locks number).holder = scene.guards.owner? number := by
  rw [Guards.owner?_eq_head?, ← sound.told number, FifoLock.tickets]
  cases held : (scene.locks number).holder with
  | none => simp [sound.idle number held]
  | some holder => rfl

/-- Whoever is at a lock came there for a key that the table leads there. -/
theorem Sound.led {scene : GuardScene} (sound : scene.Sound) {number : Nat} {ticket : Ticket}
    (present : ticket ∈ (scene.locks number).tickets) :
    scene.guards.locks.find? ticket.key = some number := by
  rw [sound.told number] at present
  have lock : ticket.lock = number := beq_iff_eq.1 (List.mem_filter.1 present).2
  rw [← lock]
  exact sound.coherent.led ticket (List.mem_filter.1 present).1

/-- A lock that somebody holds has its holder at it. -/
theorem mem_tickets_of_holder {lock : FifoLock} {ticket : Ticket}
    (holds : lock.holder = some ticket) : ticket ∈ lock.tickets := by
  simp [FifoLock.tickets, holds]

/-- Holders for one key are one holder of one lock. -/
theorem Sound.holder_unique {scene : GuardScene} (sound : scene.Sound) {number number' : Nat}
    {ticket ticket' : Ticket} (holds : (scene.locks number).holder = some ticket)
    (holds' : (scene.locks number').holder = some ticket') (same : ticket.key = ticket'.key) :
    number = number' ∧ ticket = ticket' := by
  have led := sound.led (mem_tickets_of_holder holds)
  have led' := sound.led (mem_tickets_of_holder holds')
  rw [same, led'] at led
  obtain rfl : number' = number := Option.some.inj led
  rw [holds] at holds'
  exact ⟨rfl, Option.some.inj holds'⟩

/-- Without a holder for a key, whoever comes for the key holds its lock at once. -/
theorem Sound.acquire_free {scene : GuardScene} (sound : scene.Sound) {key : String}
    (unowned : ∀ number ticket, (scene.locks number).holder = some ticket → ticket.key ≠ key) :
    ((scene.step (.acquire key)).locks (scene.guards.take key).1.lock).holder =
      some (scene.guards.take key).1 := by
  obtain ⟨coherent, same, -, tickets⟩ := Guards.take_spec sound.coherent key
  have free : (scene.locks (scene.guards.take key).1.lock).holder = none := by
    refine Option.eq_none_iff_forall_ne_some.2 fun holder holds => ?_
    have present := mem_tickets_of_holder holds
    rw [sound.told] at present
    obtain ⟨old, lock⟩ := List.mem_filter.1 present
    -- The holder and the newcomer are both led to this lock, which leads back to one key.
    have led := coherent.led holder (by rw [tickets]; exact List.mem_append_left _ old)
    have led' := coherent.led (scene.guards.take key).1
      (by rw [tickets]; exact List.mem_append_right _ (List.mem_singleton_self _))
    rw [beq_iff_eq.1 lock] at led
    exact unowned _ _ holds ((coherent.apart _ _ _ led led').trans same)
  simp only [GuardScene.step, change]
  rw [if_pos trivial, FifoLock.enter, free]

/-- Guards exclude each other. After any moves on any keys, and however small the table is, the
owner of a lock is the one that it has been passed to in order of arrival; all owners for one key
are one owner of one lock; whoever owns a lock or waits for it came for a key that the table leads
there; and whoever comes for a key without an owner owns its lock at once. -/
theorem run_exclusive (bound : Nat) (moves : List GuardMove) :
    let scene := run moves (start bound)
    (∀ number, scene.guards.owner? number = (scene.locks number).holder) ∧
      (∀ number number' ticket ticket', (scene.locks number).holder = some ticket →
        (scene.locks number').holder = some ticket' → ticket.key = ticket'.key →
        number = number' ∧ ticket = ticket') ∧
      (∀ number, ∀ ticket ∈ (scene.locks number).tickets,
        scene.guards.locks.find? ticket.key = some number) ∧
      ∀ key, (∀ number ticket, (scene.locks number).holder = some ticket → ticket.key ≠ key) →
        (scene.guards.take key).1.key = key ∧
          (scene.guards.take key).2.owns (scene.guards.take key).1 = true ∧
          ((scene.step (.acquire key)).locks (scene.guards.take key).1.lock).holder =
            some (scene.guards.take key).1 := by
  intro scene
  have sound : scene.Sound := (sound_start bound).run moves
  refine ⟨fun number => (sound.holder_eq number).symm,
    fun number number' ticket ticket' holds holds' same => sound.holder_unique holds holds' same,
    fun number ticket present => sound.led present, fun key unowned => ?_⟩
  have holds := sound.acquire_free unowned
  have owns := (sound.acquire key).holder_eq (scene.guards.take key).1.lock
  rw [holds] at owns
  exact ⟨rfl, beq_iff_eq.2 owns.symm, holds⟩

end GuardScene

end FailOpenCache
