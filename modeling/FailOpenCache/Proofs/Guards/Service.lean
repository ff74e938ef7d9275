import FailOpenCache.Proofs.Guards
import Mathlib.Logic.ExistsUnique

/-!
# The order of service

Whoever comes for a key stands in the line of the key. The line is told by the moves alone: whoever
comes stands at its end, and whoever is dropped leaves it, wherever it stands. The first of the line
owns the lock of the key, and the others wait for it in the order of the line. So nobody waits
without an owner, an owner that is dropped is followed by the next of the line, and a line that has
become empty leaves a lock that is free.
-/

namespace FailOpenCache

deriving instance DecidableEq for GuardMove

namespace Guards

variable {guards : Guards} {ticket : Ticket}

/-- The tickets for a key, the oldest first. -/
def line (guards : Guards) (key : String) : List Ticket :=
  guards.tickets.filter fun ticket => ticket.key == key

/-- A ticket stands in the line of its key. -/
theorem mem_line {key : String} :
    ticket ∈ guards.line key ↔ ticket ∈ guards.tickets ∧ ticket.key = key := by
  rw [line, List.mem_filter, beq_iff_eq]

/-- No ticket stands twice in a line. -/
theorem Coherent.nodup_line (coherent : guards.Coherent) (key : String) :
    (guards.line key).Nodup :=
  coherent.distinct.filter _

/-- The tickets for the lock of a ticket are those for its key. -/
theorem Coherent.ticketsFor_eq_line (coherent : guards.Coherent) (held : ticket ∈ guards.tickets) :
    guards.ticketsFor ticket.lock = guards.line ticket.key := by
  have led := coherent.led ticket held
  apply List.filter_congr
  intro other inside
  have led' := coherent.led other inside
  rw [Bool.eq_iff_iff, beq_iff_eq, beq_iff_eq]
  constructor
  · intro lock
    rw [lock] at led'
    exact coherent.apart _ _ _ led' led
  · intro key
    rw [key, led] at led'
    exact (Option.some.inj led').symm

/-- A ticket owns its lock exactly when it is the first of its line. -/
theorem Coherent.owns_iff_first (coherent : guards.Coherent) (held : ticket ∈ guards.tickets) :
    guards.owns ticket = true ↔ (guards.line ticket.key).head? = some ticket := by
  rw [owns, beq_iff_eq, owner?_eq_head?, coherent.ticketsFor_eq_line held]

/-- A ticket that is taken and given back leaves the tickets as they were. -/
theorem Coherent.tickets_take_giveBack (coherent : guards.Coherent) (key : String) :
    ((guards.take key).2.giveBack (guards.take key).1).tickets = guards.tickets := by
  obtain ⟨-, -, new, tickets⟩ := take_spec coherent key
  rw [Guards.giveBack, tickets, List.filter_append, filter_ne_of_notMem new]
  simp

/-- The last ticket owns its lock if nobody stood in line for its key. -/
theorem Coherent.owns_last {before : Guards} (coherent : guards.Coherent)
    (tickets : guards.tickets = before.tickets ++ [ticket])
    (free : before.line ticket.key = []) : guards.owns ticket = true := by
  have held : ticket ∈ guards.tickets := by
    rw [tickets]
    exact List.mem_append_right _ (List.mem_singleton_self _)
  have alone : guards.line ticket.key = [ticket] := by
    rw [line] at free
    rw [line, tickets, List.filter_append, free]
    simp
  rw [coherent.owns_iff_first held, alone]
  rfl

/-- A ticket for a key that nobody stands in line for owns its lock at once. -/
theorem Coherent.owns_take (coherent : guards.Coherent) {key : String}
    (free : guards.line key = []) : (guards.take key).2.owns (guards.take key).1 = true := by
  obtain ⟨took, own, -, tickets⟩ := take_spec coherent key
  exact took.owns_last tickets (own ▸ free)

end Guards

namespace FifoLock

variable {lock : FifoLock}

/-- The holder of a lock is the first at it. -/
theorem holder_eq_head? (idle : lock.holder = none → lock.waiting = []) :
    lock.holder = lock.tickets.head? := by
  rw [tickets]
  cases held : lock.holder with
  | none => simp [idle held]
  | some holder => rfl

/-- Those that wait for a lock are all at it but the first. -/
theorem waiting_eq_tail (idle : lock.holder = none → lock.waiting = []) :
    lock.waiting = lock.tickets.tail := by
  rw [tickets]
  cases held : lock.holder with
  | none => simp [idle held]
  | some holder => rfl

end FifoLock

namespace GuardScene

variable {scene : GuardScene} {ticket : Ticket}

/-- The ticket holds a lock, or has been passed one. -/
def Owns (scene : GuardScene) (ticket : Ticket) : Prop :=
  ∃ number, (scene.locks number).holder = some ticket

/-- The ticket waits for a lock. -/
def Awaits (scene : GuardScene) (ticket : Ticket) : Prop :=
  ∃ number, ticket ∈ (scene.locks number).waiting

/-- Whoever is at a lock has a ticket for it. -/
theorem Sound.held {number : Nat} (sound : scene.Sound)
    (present : ticket ∈ (scene.locks number).tickets) :
    ticket ∈ scene.guards.tickets ∧ ticket.lock = number := by
  rw [sound.told, Guards.ticketsFor, List.mem_filter, beq_iff_eq] at present
  exact present

/-- Those at the lock of a ticket are the line of its key. -/
theorem Sound.tickets_eq_line (sound : scene.Sound) (held : ticket ∈ scene.guards.tickets) :
    (scene.locks ticket.lock).tickets = scene.guards.line ticket.key := by
  rw [sound.told, sound.coherent.ticketsFor_eq_line held]

/-- The owner of a key is the first of its line. -/
theorem Sound.owns_iff (sound : scene.Sound) :
    scene.Owns ticket ↔ (scene.guards.line ticket.key).head? = some ticket := by
  constructor
  · rintro ⟨number, holds⟩
    obtain ⟨held, lock⟩ := sound.held (mem_tickets_of_holder holds)
    rw [← sound.tickets_eq_line held, lock, ← FifoLock.holder_eq_head? (sound.idle number)]
    exact holds
  · intro first
    have held := (Guards.mem_line.1 (List.mem_of_mem_head? first)).1
    rw [← sound.tickets_eq_line held, ← FifoLock.holder_eq_head? (sound.idle _)] at first
    exact ⟨ticket.lock, first⟩

/-- Those that wait for a key are its line without the first. -/
theorem Sound.awaits_iff (sound : scene.Sound) :
    scene.Awaits ticket ↔ ticket ∈ (scene.guards.line ticket.key).tail := by
  constructor
  · rintro ⟨number, waits⟩
    obtain ⟨held, lock⟩ := sound.held (List.mem_append_right _ waits)
    rw [← sound.tickets_eq_line held, lock, ← FifoLock.waiting_eq_tail (sound.idle number)]
    exact waits
  · intro later
    have held := (Guards.mem_line.1 (List.mem_of_mem_tail later)).1
    rw [← sound.tickets_eq_line held, ← FifoLock.waiting_eq_tail (sound.idle _)] at later
    exact ⟨ticket.lock, later⟩

/-- Whoever stands in a line owns the lock of the key or waits for it. -/
theorem Sound.mem_line_iff (sound : scene.Sound) :
    ticket ∈ scene.guards.line ticket.key ↔ scene.Owns ticket ∨ scene.Awaits ticket := by
  rw [sound.owns_iff, sound.awaits_iff]
  cases scene.guards.line ticket.key with
  | nil => simp
  | cons first rest => simp [eq_comm]

/-- The guards and the locks tell the same owners. -/
theorem Sound.owns_iff_owns_guards (sound : scene.Sound) (ticket : Ticket) :
    scene.Owns ticket ↔ scene.guards.owns ticket = true := by
  constructor
  · intro owns
    have held := (Guards.mem_line.1 (sound.mem_line_iff.2 (.inl owns))).1
    rwa [sound.coherent.owns_iff_first held, ← sound.owns_iff]
  · intro owns
    have held : ticket ∈ scene.guards.tickets :=
      List.mem_of_find?_eq_some (beq_iff_eq.1 owns)
    rwa [sound.coherent.owns_iff_first held, ← sound.owns_iff] at owns

/-- Nobody waits for a key without one owner of the key. -/
theorem Sound.existsUnique_owner (sound : scene.Sound) {ticket : Ticket}
    (waits : scene.Awaits ticket) : ∃! owner, scene.Owns owner ∧ owner.key = ticket.key := by
  have stands := sound.mem_line_iff.2 (.inr waits)
  obtain ⟨owner, rest, shape⟩ := List.exists_cons_of_ne_nil (List.ne_nil_of_mem stands)
  have inside : owner ∈ scene.guards.line ticket.key := by
    rw [shape]
    exact List.mem_cons_self
  have own := (Guards.mem_line.1 inside).2
  have owns : scene.Owns owner := by
    rw [sound.owns_iff, own, shape]
    rfl
  apply ExistsUnique.intro owner ⟨owns, own⟩
  rintro other ⟨owns', own'⟩
  rw [sound.owns_iff, own', shape] at owns'
  exact (Option.some.inj owns').symm

/-- Without an owner nobody waits, so the line is empty. -/
theorem Sound.line_of_unowned (sound : scene.Sound) {key : String}
    (unowned : ∀ ticket, scene.Owns ticket → ticket.key ≠ key) : scene.guards.line key = [] := by
  cases shape : scene.guards.line key with
  | nil => rfl
  | cons first rest =>
    have inside : first ∈ scene.guards.line key := by
      rw [shape]
      exact List.mem_cons_self
    have own := (Guards.mem_line.1 inside).2
    have owns : scene.Owns first := by
      rw [sound.owns_iff, own, shape]
      rfl
    exact absurd own (unowned first owns)

/-! ## The line that the moves tell -/

/-- What a move makes of the line of a key: whoever comes for the key stands at its end, and whoever
is dropped leaves it. -/
def lineUp (key : String) (scene : GuardScene) (line : List Ticket) : GuardMove → List Ticket
  | .acquire other => if other = key then line ++ [(scene.guards.take other).1] else line
  | .drop ticket => line.filter fun other => other ≠ ticket
  | .poll _ | .prune => line

/-- What moves make of the line of a key, one after the other. -/
def lineAfter (key : String) : List GuardMove → GuardScene → List Ticket → List Ticket
  | [], _, line => line
  | move :: rest, scene, line => lineAfter key rest (scene.step move) (lineUp key scene line move)

/-- The tickets for a key change by a move as the line does. -/
theorem Sound.line_step (sound : scene.Sound) (move : GuardMove) (key : String) :
    (scene.step move).guards.line key = lineUp key scene (scene.guards.line key) move := by
  cases move with
  | acquire other =>
    obtain ⟨-, own, -, tickets⟩ := Guards.take_spec sound.coherent other
    have taken : (scene.step (.acquire other)).guards.tickets =
        scene.guards.tickets ++ [(scene.guards.take other).1] := tickets
    rw [Guards.line, taken, List.filter_append, lineUp]
    by_cases here : other = key
    · subst here
      simp [Guards.line, own]
    · simp [Guards.line, own, here]
  | poll ticket => rfl
  | drop ticket =>
    show (scene.guards.giveBack ticket).line key = _
    rw [Guards.line, Guards.giveBack, lineUp, Guards.line, List.filter_filter, List.filter_filter]
    exact List.filter_congr fun other _ => Bool.and_comm ..
  | prune => rfl

/-- The tickets for a key after moves are the line that the moves tell. -/
theorem Sound.line_run (sound : scene.Sound) (moves : List GuardMove) (key : String) :
    (scene.run moves).guards.line key = lineAfter key moves scene (scene.guards.line key) := by
  induction moves generalizing scene with
  | nil => rfl
  | cons move rest ih =>
    have later := ih (sound.step move)
    rw [sound.line_step move key] at later
    exact later

/-! ## What becomes of a line -/

/-- When an owner is dropped, the rest of its line is the line. -/
theorem Sound.line_drop (sound : scene.Sound) {owner : Ticket} (owns : scene.Owns owner) :
    (scene.step (.drop owner)).guards.line owner.key = (scene.guards.line owner.key).tail := by
  have distinct := sound.coherent.nodup_line owner.key
  rw [sound.owns_iff] at owns
  rw [sound.line_step, lineUp]
  cases shape : scene.guards.line owner.key with
  | nil =>
    rw [shape] at owns
    exact absurd owns nofun
  | cons first rest =>
    rw [shape] at owns distinct
    obtain rfl := Option.some.inj owns
    have once := (List.nodup_cons.1 distinct).1
    rw [List.filter_cons_of_neg (by simp), filter_ne_of_notMem once]
    rfl

/-- Tickets are numbered on. -/
theorem nextTicket_le_step (scene : GuardScene) (move : GuardMove) :
    scene.guards.nextTicket ≤ (scene.step move).guards.nextTicket := by
  cases move with
  | acquire key =>
    have found : (scene.guards.lockOf key).2.nextTicket = scene.guards.nextTicket := by
      rw [Guards.lockOf]
      split
      · rfl
      · dsimp only
        split <;> rfl
    show scene.guards.nextTicket ≤ (scene.guards.lockOf key).2.nextTicket + 1
    omega
  | poll ticket => exact Nat.le_refl _
  | drop ticket => exact Nat.le_refl _
  | prune => exact Nat.le_refl _

/-- After moves the line of a key is what was not dropped of it, and those who came since. -/
theorem Sound.lineAfter_eq (sound : scene.Sound) (key : String) (later : List GuardMove) :
    ∃ newcomers, (scene.run later).guards.line key =
        (scene.guards.line key).filter (fun ticket => .drop ticket ∉ later) ++ newcomers ∧
      ∀ ticket ∈ newcomers, scene.guards.nextTicket ≤ ticket.number := by
  induction later generalizing scene with
  | nil =>
    have kept : (scene.guards.line key).filter (fun ticket => GuardMove.drop ticket ∉ []) =
        scene.guards.line key :=
      List.filter_eq_self.2 fun ticket _ => decide_eq_true List.not_mem_nil
    refine ⟨[], ?_, fun ticket inside => absurd inside List.not_mem_nil⟩
    rw [kept, List.append_nil]
    rfl
  | cons move rest ih =>
    obtain ⟨newcomers, shape, fresh⟩ := ih (sound.step move)
    have numbered := nextTicket_le_step scene move
    have fresh' : ∀ ticket ∈ newcomers, scene.guards.nextTicket ≤ ticket.number :=
      fun ticket inside => Nat.le_trans numbered (fresh ticket inside)
    have onward : (scene.run (move :: rest)).guards.line key =
        ((scene.step move).run rest).guards.line key := rfl
    rw [onward, shape, sound.line_step move key]
    cases move with
    | acquire other =>
      by_cases here : other = key
      · refine ⟨[(scene.guards.take other).1].filter (fun ticket => .drop ticket ∉ rest) ++
          newcomers, ?_, fun ticket inside => ?_⟩
        · simp [lineUp, here]
        · rcases List.mem_append.1 inside with own | later
          · obtain rfl := List.mem_singleton.1 (List.mem_filter.1 own).1
            obtain ⟨-, -, -, nextTicket⟩ := Guards.lockOf_spec sound.coherent other
            exact Nat.le_of_eq nextTicket.symm
          · exact fresh' ticket later
      · exact ⟨newcomers, by simp [lineUp, here], fresh'⟩
    | poll ticket => exact ⟨newcomers, by simp [lineUp], fresh'⟩
    | drop dropped =>
      refine ⟨newcomers, ?_, fresh'⟩
      rw [lineUp, List.filter_filter]
      refine congrArg (· ++ newcomers) (List.filter_congr fun ticket _ => ?_)
      rw [← Bool.decide_and, decide_eq_decide, List.mem_cons, not_or, GuardMove.drop.injEq,
        and_comm]
    | prune => exact ⟨newcomers, by simp [lineUp], fresh'⟩

/-- Whoever stands in a line owns the lock once those ahead of it have been dropped, and not
before. -/
theorem Sound.served_iff (sound : scene.Sound) {ahead behind : List Ticket}
    (shape : scene.guards.line ticket.key = ahead ++ ticket :: behind) (later : List GuardMove) :
    (scene.run later).Owns ticket ↔
      .drop ticket ∉ later ∧ ∀ earlier ∈ ahead, .drop earlier ∈ later := by
  obtain ⟨newcomers, line, fresh⟩ := sound.lineAfter_eq ticket.key later
  have distinct := sound.coherent.nodup_line ticket.key
  rw [shape, List.nodup_append, List.nodup_cons] at distinct
  obtain ⟨-, ⟨onceBehind, -⟩, apart⟩ := distinct
  have onceAhead : ticket ∉ ahead := fun inside => apart ticket inside ticket List.mem_cons_self rfl
  have old : ticket ∉ newcomers := by
    intro inside
    have stands : ticket ∈ scene.guards.line ticket.key := by simp [shape]
    have taken := sound.coherent.taken ticket (Guards.mem_line.1 stands).1
    have numbered := fresh ticket inside
    omega
  rw [(sound.run later).owns_iff, line, shape, List.filter_append, List.append_assoc]
  cases kept : ahead.filter fun earlier => .drop earlier ∉ later with
  | cons first rest =>
    -- Somebody ahead is left, and is the first of the line.
    have inside : first ∈ ahead.filter fun earlier => .drop earlier ∉ later := by
      rw [kept]
      exact List.mem_cons_self
    obtain ⟨held, undropped⟩ := List.mem_filter.1 inside
    rw [decide_eq_true_eq] at undropped
    constructor
    · intro own
      obtain rfl := Option.some.inj own
      exact absurd held onceAhead
    · rintro ⟨-, dropped⟩
      exact absurd (dropped first held) undropped
  | nil =>
    have dropped : ∀ earlier ∈ ahead, .drop earlier ∈ later := by
      intro earlier inside
      have lost := List.filter_eq_nil_iff.1 kept earlier inside
      rwa [decide_eq_true_eq, Decidable.not_not] at lost
    rw [List.nil_append]
    by_cases gone : .drop ticket ∈ later
    · rw [List.filter_cons_of_neg (by simpa using gone)]
      constructor
      · intro own
        rcases List.mem_append.1 (List.mem_of_mem_head? own) with left | new
        · exact absurd (List.mem_filter.1 left).1 onceBehind
        · exact absurd new old
      · exact fun served => absurd gone served.1
    · rw [List.filter_cons_of_pos (by simpa using gone)]
      exact ⟨fun _ => ⟨gone, dropped⟩, fun _ => rfl⟩

end GuardScene

end FailOpenCache
