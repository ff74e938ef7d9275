import FailOpenCache.Proofs.Cache.Flights
import Mathlib.Data.List.Perm.Basic

/-!
# From take-off to landing

Between steps the tickets of the guards are those of the callers that have not landed, in the order
of arrival, and the callers that can go on are those whose tickets own their locks. A caller that
lands passes its lock on, so this stays true, and nobody is left over: when nobody can go on, all
callers have landed. What the callers come to in their turns is the same all along, whichever of
those that can go on lands next, so in the end it is what they come to one after the other.
-/

namespace FailOpenCache

namespace Guards

/-- A ticket owns its lock exactly when it is the oldest one. -/
theorem owns_iff (guards : Guards) (ticket : Ticket) :
    guards.owns ticket = true ↔ guards.owner? ticket.lock = some ticket :=
  beq_iff_eq

/-- The owner of a lock has a ticket for it. -/
theorem mem_of_owner? {guards : Guards} {lock : Nat} {ticket : Ticket}
    (owner : guards.owner? lock = some ticket) :
    ticket ∈ guards.tickets ∧ ticket.lock = lock := by
  rw [owner?] at owner
  have lock := List.find?_some owner
  exact ⟨List.mem_of_find?_eq_some owner, beq_iff_eq.1 lock⟩

/-- A lock with a ticket has an owner. -/
theorem exists_owner? {guards : Guards} {ticket : Ticket} (held : ticket ∈ guards.tickets) :
    ∃ owner, guards.owner? ticket.lock = some owner :=
  Option.isSome_iff_exists.1 (List.find?_isSome.2 ⟨ticket, held, BEq.rfl⟩)

/-- New tickets come last, so a lock with a ticket keeps its owner. -/
theorem owner?_append {guards guards' : Guards} {more : List Ticket}
    (tickets : guards'.tickets = guards.tickets ++ more) {ticket : Ticket}
    (held : ticket ∈ guards.tickets) :
    guards'.owner? ticket.lock = guards.owner? ticket.lock := by
  obtain ⟨owner, owns⟩ := exists_owner? held
  rw [owner?, tickets, List.find?_append]
  rw [owner?] at owns ⊢
  rw [owns]
  rfl

/-- New tickets come last, so whoever owns a lock or waits for it does so still. -/
theorem owns_append {guards guards' : Guards} {more : List Ticket}
    (tickets : guards'.tickets = guards.tickets ++ more) {ticket : Ticket}
    (held : ticket ∈ guards.tickets) : guards'.owns ticket = guards.owns ticket := by
  rw [owns, owns, owner?_append tickets held]

/-- Giving a ticket back leaves the owners of other locks alone. -/
theorem owner?_giveBack {guards : Guards} {ticket : Ticket} {lock : Nat}
    (other : lock ≠ ticket.lock) : (guards.giveBack ticket).owner? lock = guards.owner? lock := by
  have spared : (guards.ticketsFor lock).filter (fun other => other ≠ ticket) =
      guards.ticketsFor lock := by
    refine List.filter_eq_self.2 fun held present => ?_
    rw [decide_eq_true_eq]
    rintro rfl
    exact other (beq_iff_eq.1 (List.mem_filter.1 present).2).symm
  rw [owner?_eq_head?, owner?_eq_head?, ticketsFor_giveBack, spared]

/-- Giving a ticket back leaves whoever owns another lock its owner. -/
theorem owns_giveBack {guards : Guards} {ticket other : Ticket} (lock : other.lock ≠ ticket.lock) :
    (guards.giveBack ticket).owns other = guards.owns other := by
  rw [owns, owns, owner?_giveBack lock]

/-- A lock has one owner. -/
theorem lock_ne_of_owns {guards : Guards} {ticket other : Ticket}
    (owns : guards.owns ticket = true) (owns' : guards.owns other = true)
    (differs : other ≠ ticket) : other.lock ≠ ticket.lock := by
  intro same
  rw [owns_iff, same, (guards.owns_iff ticket).1 owns] at owns'
  exact differs (Option.some.inj owns').symm

end Guards

variable {α ε : Type}

/-- The tickets of the guards are those of the callers that have not landed. -/
structure Aloft (guards : Guards) (flights : List (Flight α ε)) : Prop where
  /-- The guards are coherent. -/
  coherent : guards.Coherent
  /-- The tickets are those of the callers that have not landed, in the order of arrival. -/
  tickets : guards.tickets = flights.filterMap Flight.ticket?
  /-- A caller has a ticket for the lock of its key. -/
  own : ∀ flight ∈ flights, ∀ ticket ∈ flight.ticket?, ticket.key = flight.computation.key
  /-- A caller whose computation has begun owns the lock. -/
  begun : ∀ flight ∈ flights, ∀ ticket, flight.phase = .computing ticket →
    guards.owns ticket = true

/-- The caller at a place can go on: it owns the lock of its key. -/
def CanGoOn (guards : Guards) (flights : List (Flight α ε)) (place : Nat) : Prop :=
  ∃ flight ticket, flights[place]? = some flight ∧ flight.ticket? = some ticket ∧
    guards.owns ticket = true

/-- A caller at a place stands between those before it and those after it. -/
theorem exists_split {flights : List (Flight α ε)} {place : Nat} {flight : Flight α ε}
    (present : flights[place]? = some flight) :
    ∃ before after, flights = before ++ flight :: after ∧ before.length = place := by
  obtain ⟨inside, rfl⟩ := List.getElem?_eq_some_iff.1 present
  refine ⟨flights.take place, flights.drop (place + 1), ?_, List.length_take_of_le inside.le⟩
  rw [← List.drop_eq_getElem_cons inside, List.take_append_drop]

/-- A caller that takes the place of another leaves all other places alone. -/
theorem getElem?_replaced {before after : List (Flight α ε)} (flight landed : Flight α ε)
    {place : Nat} (other : place ≠ before.length) :
    (before ++ landed :: after)[place]? = (before ++ flight :: after)[place]? := by
  have same : before ++ landed :: after =
      (before ++ flight :: after).set before.length landed := by simp
  rw [same, List.getElem?_set_ne (Ne.symm other)]

namespace Aloft

variable {guards : Guards} {flights before after : List (Flight α ε)} {flight : Flight α ε}
  {ticket : Ticket}

/-- The ticket of a caller is one of the tickets. -/
theorem mem_tickets (aloft : Aloft guards flights) (present : flight ∈ flights)
    (held : flight.ticket? = some ticket) : ticket ∈ guards.tickets := by
  rw [aloft.tickets]
  exact List.mem_filterMap.2 ⟨flight, present, held⟩

/-- A caller that gives its ticket back leaves a ticket less. -/
theorem fewer (aloft : Aloft guards flights) (present : flight ∈ flights)
    (held : flight.ticket? = some ticket) :
    (guards.giveBack ticket).tickets.length < guards.tickets.length := by
  rw [Guards.giveBack]
  exact List.length_filter_lt_length_iff_exists.2
    ⟨ticket, aloft.mem_tickets present held, by simp⟩

/-- Callers for one key wait for one lock. -/
theorem lock_eq (aloft : Aloft guards flights) {other : Flight α ε} {ticket' : Ticket}
    (present : flight ∈ flights) (held : flight.ticket? = some ticket) (present' : other ∈ flights)
    (held' : other.ticket? = some ticket') (same : flight.computation.key = other.computation.key) :
    ticket.lock = ticket'.lock := by
  have led := aloft.coherent.led ticket (aloft.mem_tickets present held)
  have led' := aloft.coherent.led ticket' (aloft.mem_tickets present' held')
  rw [aloft.own flight present ticket held, same] at led
  rw [aloft.own other present' ticket' held', led] at led'
  exact Option.some.inj led'

/-- Two places with one ticket are one place. -/
theorem place_unique (aloft : Aloft guards flights) {place place' : Nat} {other : Flight α ε}
    (present : flights[place]? = some flight) (held : flight.ticket? = some ticket)
    (present' : flights[place']? = some other) (held' : other.ticket? = some ticket) :
    place = place' := by
  have distinct := aloft.coherent.distinct
  rw [aloft.tickets, List.Nodup, List.pairwise_filterMap, List.pairwise_iff_getElem] at distinct
  obtain ⟨inside, rfl⟩ := List.getElem?_eq_some_iff.1 present
  obtain ⟨inside', rfl⟩ := List.getElem?_eq_some_iff.1 present'
  rcases Nat.lt_trichotomy place place' with first | same | later
  · exact absurd rfl (distinct place place' inside inside' first ticket held ticket held')
  · exact same
  · exact absurd rfl (distinct place' place inside' inside later ticket held' ticket held)

/-- When a caller can go on, the callers of its key before it have landed. -/
theorem earlier_landed (aloft : Aloft guards (before ++ flight :: after))
    (held : flight.ticket? = some ticket) (owns : guards.owns ticket = true) :
    ∀ earlier ∈ before, earlier.computation.key = flight.computation.key →
      earlier.ticket? = none := by
  intro earlier inside same
  refine Option.eq_none_iff_forall_ne_some.2 fun ticket' held' => ?_
  have lock := aloft.lock_eq (List.mem_append_left _ inside) held'
    (List.mem_append_right _ List.mem_cons_self) held same
  -- The older ticket is for the same lock, so the owner is among the earlier callers.
  have owner := (guards.owns_iff ticket).1 owns
  rw [Guards.owner?, aloft.tickets, List.filterMap_append, List.find?_append,
    Option.or_eq_some_iff] at owner
  have distinct := aloft.coherent.distinct
  rw [aloft.tickets, List.filterMap_append, List.filterMap_cons_some held,
    List.nodup_append] at distinct
  rcases owner with found | ⟨missing, -⟩
  · exact distinct.2.2 ticket (List.mem_of_find?_eq_some found) ticket List.mem_cons_self rfl
  · have present : ticket' ∈ before.filterMap Flight.ticket? :=
      List.mem_filterMap.2 ⟨earlier, inside, held'⟩
    exact List.find?_eq_none.1 missing ticket' present (beq_iff_eq.2 lock)

/-- When a caller has landed, the callers with tickets are the others. -/
theorem others (aloft : Aloft guards (before ++ flight :: after))
    (held : flight.ticket? = some ticket) {landed : Flight α ε} (down : landed.ticket? = none)
    {other : Flight α ε} {ticket' : Ticket} (present : other ∈ before ++ landed :: after)
    (held' : other.ticket? = some ticket') :
    other ∈ before ++ flight :: after ∧ ticket' ≠ ticket := by
  have distinct := aloft.coherent.distinct
  rw [aloft.tickets, List.filterMap_append, List.filterMap_cons_some held,
    List.nodup_append, List.nodup_cons] at distinct
  rcases List.mem_append.1 present with inside | inside
  · refine ⟨List.mem_append_left _ inside, ?_⟩
    rintro rfl
    exact distinct.2.2 ticket' (List.mem_filterMap.2 ⟨other, inside, held'⟩) ticket'
      List.mem_cons_self rfl
  · rcases List.mem_cons.1 inside with rfl | inside
    · exact absurd held' (by simp [down])
    · refine ⟨List.mem_append_right _ (List.mem_cons_of_mem _ inside), ?_⟩
      rintro rfl
      exact distinct.2.1.1 (List.mem_filterMap.2 ⟨other, inside, held'⟩)

/-- When a caller has landed and given its ticket back, the others are as before. -/
theorem land (aloft : Aloft guards (before ++ flight :: after))
    (held : flight.ticket? = some ticket) (owns : guards.owns ticket = true)
    {landed : Flight α ε} (down : landed.ticket? = none) :
    Aloft (guards.giveBack ticket) (before ++ landed :: after) := by
  refine ⟨aloft.coherent.giveBack ticket, ?_, fun other present ticket' held' => ?_,
    fun other present ticket' begun => ?_⟩
  · have kept : ((before ++ landed :: after).filterMap Flight.ticket?).filter
        (fun other => other ≠ ticket) = (before ++ landed :: after).filterMap Flight.ticket? := by
      refine List.filter_eq_self.2 fun ticket' inside => ?_
      obtain ⟨other, present, held'⟩ := List.mem_filterMap.1 inside
      rw [decide_eq_true_eq]
      exact (aloft.others held down present held').2
    rw [Guards.giveBack, aloft.tickets, ← kept]
    simp [List.filter_append, List.filterMap_cons_some held, List.filterMap_cons_none down]
  · exact aloft.own other (aloft.others held down present held').1 ticket' held'
  · have held' : other.ticket? = some ticket' := by
      rw [Flight.ticket?, begun]
    obtain ⟨present', differs⟩ := aloft.others held down present held'
    have owned := aloft.begun other present' ticket' begun
    rw [Guards.owns_giveBack (Guards.lock_ne_of_owns owns owned differs)]
    exact owned

/-- The caller to which a lock has passed on, as it is looked for among the callers. -/
def next? (guards : Guards) (flights : List (Flight α ε)) (lock : Nat) : Option Nat :=
  (guards.owner? lock).bind fun ticket => flights.findIdx? fun flight => flight.waitsWith ticket

/-- A lock whose owner waits has passed on to the caller with the owner's ticket. -/
theorem next?_eq_some_iff (aloft : Aloft guards flights) {lock : Nat}
    (waits : ∀ flight ∈ flights, ∀ ticket, flight.ticket? = some ticket → ticket.lock = lock →
      flight.phase = .waiting ticket) (place : Nat) :
    next? guards flights lock = some place ↔
      ∃ flight ticket, flights[place]? = some flight ∧ flight.ticket? = some ticket ∧
        guards.owner? lock = some ticket := by
  have found : ∀ {place : Nat} {ticket : Ticket},
      (flights.findIdx? fun flight => flight.waitsWith ticket) = some place →
      ∃ flight, flights[place]? = some flight ∧ flight.ticket? = some ticket := by
    intro place ticket found
    obtain ⟨inside, holds, -⟩ := List.findIdx?_eq_some_iff_getElem.1 found
    refine ⟨flights[place], List.getElem?_eq_getElem inside, ?_⟩
    cases phase : flights[place].phase with
    | waiting own =>
      rw [Flight.waitsWith, phase, beq_iff_eq] at holds
      rw [Flight.ticket?, phase, holds]
    | computing own => exact absurd holds (by simp [Flight.waitsWith, phase])
    | landed result => exact absurd holds (by simp [Flight.waitsWith, phase])
  rw [next?, Option.bind_eq_some_iff]
  constructor
  · rintro ⟨ticket, owner, inside⟩
    obtain ⟨flight, present, held⟩ := found inside
    exact ⟨flight, ticket, present, held, owner⟩
  · rintro ⟨flight, ticket, present, held, owner⟩
    refine ⟨ticket, owner, ?_⟩
    have inside := List.mem_of_getElem? present
    have phase := waits flight inside ticket held (Guards.mem_of_owner? owner).2
    have some := List.findIdx?_eq_some_of_exists (p := fun flight => flight.waitsWith ticket)
      ⟨flight, inside, by rw [Flight.waitsWith, phase]; exact BEq.rfl⟩
    obtain ⟨other, present', held'⟩ := found some
    rw [some, aloft.place_unique present' held' present held]

/-- When a caller has landed, its lock has passed on to the caller with the owner's ticket. -/
theorem next?_land (aloft : Aloft guards (before ++ flight :: after))
    (held : flight.ticket? = some ticket) (owns : guards.owns ticket = true)
    {landed : Flight α ε} (down : landed.ticket? = none) (place : Nat) :
    next? (guards.giveBack ticket) (before ++ landed :: after) ticket.lock = some place ↔
      ∃ other ticket', (before ++ landed :: after)[place]? = some other ∧
        other.ticket? = some ticket' ∧
        (guards.giveBack ticket).owner? ticket.lock = some ticket' := by
  refine (aloft.land held owns down).next?_eq_some_iff (fun other present ticket' held' lock => ?_)
    place
  obtain ⟨present', differs⟩ := aloft.others held down present held'
  cases phase : other.phase with
  | waiting own =>
    rw [Flight.ticket?, phase] at held'
    rw [Option.some.inj held']
  | computing own =>
    -- Whoever computes owns its lock, which is another one than that of the caller.
    rw [Flight.ticket?, phase] at held'
    obtain rfl := Option.some.inj held'
    exact absurd lock
      (Guards.lock_ne_of_owns owns (aloft.begun other present' own phase) differs)
  | landed result => exact absurd held' (by simp [Flight.ticket?, phase])

/-- When a caller has landed, whoever else could go on still can, with another lock. -/
theorem still_canGoOn (aloft : Aloft guards (before ++ flight :: after))
    (held : flight.ticket? = some ticket) (owns : guards.owns ticket = true)
    (landed : Flight α ε) {place : Nat} (moved : place ≠ before.length)
    (able : CanGoOn guards (before ++ flight :: after) place) :
    ∃ other ticket', (before ++ landed :: after)[place]? = some other ∧
      other.ticket? = some ticket' ∧ ticket'.lock ≠ ticket.lock ∧
      (guards.giveBack ticket).owns ticket' = true := by
  obtain ⟨other, ticket', present, held', owns'⟩ := able
  have here : (before ++ flight :: after)[before.length]? = some flight := by simp
  have differs : ticket' ≠ ticket := by
    rintro rfl
    exact moved (aloft.place_unique present held' here held)
  have lock := Guards.lock_ne_of_owns owns owns' differs
  refine ⟨other, ticket', (getElem?_replaced flight landed moved).trans present, held', lock, ?_⟩
  rw [Guards.owns_giveBack lock]
  exact owns'

/-- When a caller has landed, whoever can go on with another lock could before. -/
theorem canGoOn_before {landed : Flight α ε} (down : landed.ticket? = none) {place : Nat}
    {other : Flight α ε} {ticket' : Ticket} (present : (before ++ landed :: after)[place]? = some other)
    (held' : other.ticket? = some ticket') (lock : ticket'.lock ≠ ticket.lock)
    (owns' : (guards.giveBack ticket).owns ticket' = true) :
    place ≠ before.length ∧ CanGoOn guards (before ++ flight :: after) place := by
  have moved : place ≠ before.length := by
    rintro rfl
    rw [List.getElem?_append_right (Nat.le_refl _), Nat.sub_self] at present
    obtain rfl := Option.some.inj present
    exact absurd held' (by simp [down])
  rw [Guards.owns_giveBack lock] at owns'
  exact ⟨moved, other, ticket', (getElem?_replaced landed flight moved).trans present, held', owns'⟩

/-- When a caller has landed, those that can go on are those that could before, and the one to which
its lock has passed on. -/
theorem canGoOn_land (aloft : Aloft guards (before ++ flight :: after))
    (held : flight.ticket? = some ticket) (owns : guards.owns ticket = true)
    {landed : Flight α ε} (down : landed.ticket? = none) {later : List Nat}
    (distinct : (before.length :: later).Nodup)
    (ready : ∀ place, place ∈ before.length :: later ↔
      CanGoOn guards (before ++ flight :: after) place) :
    let next := next? (guards.giveBack ticket) (before ++ landed :: after) ticket.lock
    (later ++ next.toList).Nodup ∧ ∀ place, place ∈ later ++ next.toList ↔
      CanGoOn (guards.giveBack ticket) (before ++ landed :: after) place := by
  intro next
  have passed : ∀ place, next = some place ↔ _ := aloft.next?_land held owns down
  have still := fun place (inside : place ∈ later) =>
    aloft.still_canGoOn held owns landed
      (fun same => (List.nodup_cons.1 distinct).1 (same ▸ inside))
      ((ready place).1 (List.mem_cons_of_mem _ inside))
  refine ⟨List.nodup_append.2 ⟨(List.nodup_cons.1 distinct).2, ?_, ?_⟩, fun place => ?_⟩
  · cases next <;> simp
  · rintro place inside place' last rfl
    obtain ⟨other, ticket', present, held', lock, -⟩ := still place inside
    obtain ⟨other', ticket'', present', held'', owner'⟩ :=
      (passed place).1 (Option.mem_toList.1 last)
    obtain rfl := Option.some.inj (present.symm.trans present')
    obtain rfl := Option.some.inj (held'.symm.trans held'')
    exact lock (Guards.mem_of_owner? owner').2
  · rw [List.mem_append, Option.mem_toList]
    constructor
    · rintro (inside | last)
      · obtain ⟨other, ticket', present, held', -, owns'⟩ := still place inside
        exact ⟨other, ticket', present, held', owns'⟩
      · obtain ⟨other, ticket', present, held', owner'⟩ := (passed place).1 last
        refine ⟨other, ticket', present, held', ?_⟩
        rw [Guards.owns_iff, (Guards.mem_of_owner? owner').2]
        exact owner'
    · rintro ⟨other, ticket', present, held', owns'⟩
      by_cases lock : ticket'.lock = ticket.lock
      · refine .inr ((passed place).2 ⟨other, ticket', present, held', ?_⟩)
        rw [← lock]
        exact (Guards.owns_iff _ _).1 owns'
      · obtain ⟨moved, able⟩ := canGoOn_before down present held' lock owns'
        exact .inl (List.mem_of_ne_of_mem moved ((ready place).2 able))

/-- Two callers of one key that can go on are one caller. -/
theorem canGoOn_unique (aloft : Aloft guards flights) {place place' : Nat} {other : Flight α ε}
    (present : flights[place]? = some flight) (present' : flights[place']? = some other)
    (able : CanGoOn guards flights place) (able' : CanGoOn guards flights place')
    (same : flight.computation.key = other.computation.key) : place = place' := by
  obtain ⟨_, ticket, here, held, owns⟩ := able
  obtain ⟨_, ticket', here', held', owns'⟩ := able'
  obtain rfl := Option.some.inj (present.symm.trans here)
  obtain rfl := Option.some.inj (present'.symm.trans here')
  have lock := aloft.lock_eq (List.mem_of_getElem? present) held (List.mem_of_getElem? present')
    held' same
  rw [Guards.owns_iff, lock, (guards.owns_iff ticket').1 owns'] at owns
  exact aloft.place_unique present held present' (Option.some.inj owns ▸ held')

/-- The first of the callers of a key that have not landed can go on. -/
theorem first_canGoOn (aloft : Aloft guards flights) {place : Nat}
    (present : flights[place]? = some flight) (held : flight.ticket? = some ticket)
    (first : ∀ place' other, flights[place']? = some other →
      other.computation.key = flight.computation.key → place ≤ place') :
    CanGoOn guards flights place := by
  have inside := List.mem_of_getElem? present
  obtain ⟨owner, owns⟩ := Guards.exists_owner? (aloft.mem_tickets inside held)
  obtain ⟨taken, lock⟩ := Guards.mem_of_owner? owns
  have led := aloft.coherent.led owner taken
  rw [lock] at led
  have same := aloft.coherent.apart _ _ _ led
    (aloft.coherent.led ticket (aloft.mem_tickets inside held))
  rw [aloft.tickets] at taken
  obtain ⟨other, inside', held'⟩ := List.mem_filterMap.1 taken
  obtain ⟨place', present'⟩ := List.getElem?_of_mem inside'
  have key : other.computation.key = flight.computation.key := by
    rw [← aloft.own other inside' owner held', same, aloft.own flight inside ticket held]
  have owned : guards.owns owner = true := by
    rw [Guards.owns_iff, lock]
    exact owns
  rcases Nat.eq_or_lt_of_le (first place' other present' key) with rfl | later
  · obtain rfl := Option.some.inj (present.symm.trans present')
    exact ⟨flight, owner, present, held', owned⟩
  · -- The owner would have this caller before it, which has not landed.
    obtain ⟨before, after, rfl, rfl⟩ := exists_split present'
    rw [List.getElem?_append_left later] at present
    have landed := aloft.earlier_landed held' owned flight (List.mem_of_getElem? present) key.symm
    exact absurd held (by simp [landed])

/-- When nobody can go on, all callers have landed. -/
theorem all_landed (aloft : Aloft guards flights)
    (nobody : ∀ place, ¬ CanGoOn guards flights place) :
    guards.tickets = [] := by
  refine List.eq_nil_iff_forall_not_mem.2 fun ticket held => ?_
  obtain ⟨owner, owns⟩ := Guards.exists_owner? held
  obtain ⟨inside, lock⟩ := Guards.mem_of_owner? owns
  have present := inside
  rw [aloft.tickets] at present
  obtain ⟨flight, present, held'⟩ := List.mem_filterMap.1 present
  obtain ⟨place, found⟩ := List.getElem?_of_mem present
  refine nobody place ⟨flight, owner, found, held', ?_⟩
  rw [Guards.owns_iff, lock]
  exact owns

end Aloft

/-- Callers have started and none has come any further: those whose computations have begun own
their locks, and the others with tickets wait. -/
structure Boarded (guards : Guards) (flights : List (Flight α ε)) : Prop
    extends Aloft guards flights where
  /-- A caller that waits does not own its lock. -/
  waits : ∀ flight ∈ flights, ∀ ticket, flight.phase = .waiting ticket →
    guards.owns ticket = false

/-- One caller more has started. -/
theorem Boarded.snoc {guards guards' : Guards} {before : List (Flight α ε)}
    (boarded : Boarded guards before) {flight : Flight α ε} (coherent : guards'.Coherent)
    (tickets : guards'.tickets = guards.tickets ++ flight.ticket?.toList)
    (own : ∀ ticket ∈ flight.ticket?, ticket.key = flight.computation.key)
    (begun : ∀ ticket, flight.phase = .computing ticket → guards'.owns ticket = true)
    (waits : ∀ ticket, flight.phase = .waiting ticket → guards'.owns ticket = false) :
    Boarded guards' (before ++ [flight]) := by
  have split : ∀ {other}, other ∈ before ++ [flight] → other ∈ before ∨ other = flight := by
    intro other present
    exact (List.mem_append.1 present).imp id List.mem_singleton.1
  have same : ∀ {other : Flight α ε} {ticket : Ticket}, other ∈ before →
      other.ticket? = some ticket → guards'.owns ticket = guards.owns ticket :=
    fun present held => Guards.owns_append tickets (boarded.mem_tickets present held)
  refine ⟨⟨coherent, ?_, fun other present ticket held => ?_,
    fun other present ticket computing => ?_⟩, fun other present ticket waiting => ?_⟩
  · rw [tickets, boarded.tickets, List.filterMap_append]
    cases held : flight.ticket? <;> simp [held]
  · rcases split present with before | rfl
    · exact boarded.own other before ticket held
    · exact own ticket held
  · rcases split present with before | rfl
    · rw [same before (by rw [Flight.ticket?, computing])]
      exact boarded.begun other before ticket computing
    · exact begun ticket computing
  · rcases split present with before | rfl
    · rw [same before (by rw [Flight.ticket?, waiting])]
      exact boarded.waits other before ticket waiting
    · exact waits ticket waiting

/-- When all callers have started, those whose computations have begun can go on. -/
theorem Boarded.canGoOn {guards : Guards} {flights : List (Flight α ε)}
    (boarded : Boarded guards flights) (place : Nat) :
    place ∈ Connection.computingPlaces flights ↔ CanGoOn guards flights place := by
  rw [Connection.computingPlaces, List.mem_filter, List.mem_range]
  constructor
  · rintro ⟨inside, computing⟩
    rw [List.getElem?_eq_getElem inside, Option.map_some, Option.getD_some] at computing
    cases phase : flights[place].phase with
    | computing ticket =>
      exact ⟨flights[place], ticket, List.getElem?_eq_getElem inside,
        by rw [Flight.ticket?, phase],
        boarded.begun _ (List.getElem_mem inside) ticket phase⟩
    | waiting ticket => exact absurd computing (by simp [Flight.isComputing, phase])
    | landed result => exact absurd computing (by simp [Flight.isComputing, phase])
  · rintro ⟨flight, ticket, present, held, owns⟩
    refine ⟨(List.getElem?_eq_some_iff.1 present).1, ?_⟩
    rw [present, Option.map_some, Option.getD_some]
    cases phase : flight.phase with
    | computing own => rw [Flight.isComputing, phase]
    | waiting own =>
      rw [Flight.ticket?, phase] at held
      obtain rfl := Option.some.inj held
      rw [boarded.waits flight (List.mem_of_getElem? present) own phase] at owns
      exact absurd owns Bool.false_ne_true
    | landed result => exact absurd held (by simp [Flight.ticket?, phase])

/-- The callers of a key, with their places. -/
def callersOf (key : String) (callers : List (Computation α ε)) : List (Computation α ε × Nat) :=
  callers.zipIdx.filter fun caller => caller.1.key = key

/-- The places of the callers of a key. -/
def placesOf (key : String) (callers : List (Computation α ε)) : List Nat :=
  (callersOf key callers).map Prod.snd

/-- A place is one of a key exactly when the caller there asks for the key. -/
theorem mem_placesOf_iff {key : String} {callers : List (Computation α ε)} {place : Nat} :
    place ∈ placesOf key callers ↔
      ∃ caller, callers[place]? = some caller ∧ caller.key = key := by
  rw [placesOf, callersOf, List.mem_map]
  constructor
  · rintro ⟨⟨caller, other⟩, present, rfl⟩
    obtain ⟨inside, same⟩ := List.mem_filter.1 present
    exact ⟨caller, List.mem_zipIdx_iff_getElem?.1 inside, of_decide_eq_true same⟩
  · rintro ⟨caller, present, same⟩
    exact ⟨(caller, place), List.mem_filter.2
      ⟨List.mem_zipIdx_iff_getElem?.2 present, decide_eq_true same⟩, rfl⟩

/-- Whoever's turn it is comes out of a line in which somebody stands. -/
theorem exists_takeTurn? (passedOver : Nat) {ready : List Nat} (able : ready ≠ []) :
    ∃ place later, takeTurn? passedOver ready = some (place, later) ∧
      ready.Perm (place :: later) := by
  have inside : passedOver % ready.length < ready.length :=
    Nat.mod_lt _ (List.length_pos_iff.2 able)
  refine ⟨_, _, ?_, (List.getElem_cons_eraseIdx_perm inside).symm⟩
  rw [takeTurn?, List.getElem?_eq_getElem inside]
  rfl

namespace Connection

variable {σ : Type} [BackingStore σ] {view : StoreView σ} {start connection : Connection σ}
  {callers : List (Computation Document ε)}

/-- What there is of each key while callers are underway. -/
def course (view : StoreView σ) (callers : List (Computation Document ε)) (ran : List Nat)
    (connection : Connection σ) : String → Progress := fun key =>
  ⟨connection.shelf view key, ran.filter fun place => place ∈ placesOf key callers⟩

/-- What a caller makes of its key is all that it makes of the keys. -/
theorem course_land {place : Nat} {caller : Computation Document ε}
    (begun : Bool) (present : callers[place]? = some caller) {ran : List Nat}
    {after : Connection σ} {progress : Progress}
    (shelf : after.shelf view =
      Function.update (connection.shelf view) caller.key progress.held?)
    (began : progress.ran =
      ran.filter (fun place => place ∈ placesOf caller.key callers) ++
        if begun then [place] else []) :
    course view callers (ran ++ if begun then [place] else []) after =
      Function.update (course view callers ran connection) caller.key progress := by
  funext key
  have here : place ∈ placesOf key callers ↔ caller.key = key := by
    rw [mem_placesOf_iff, present]
    simp
  by_cases same : key = caller.key
  · subst same
    rw [Function.update_self, course, shelf, Function.update_self, List.filter_append]
    cases progress with
    | mk held? before =>
      obtain rfl := began
      cases begun <;> simp [here]
  · rw [Function.update_of_ne same, course, course, shelf, Function.update_of_ne same,
      List.filter_append]
    cases begun <;> simp [here, Ne.symm same]

/-- Callers are underway, and some of them can go on. -/
structure Underway (view : StoreView σ) (start : Connection σ)
    (callers : List (Computation Document ε)) (ready : List Nat) (landing : Landing Document ε)
    (connection : Connection σ) : Prop where
  /-- The settings, the rules and the clock are those of the start. -/
  stays : Stays view start connection
  /-- Every caller stands at its place. -/
  callers : landing.flights.map Flight.computation = callers
  /-- The tickets are those of the callers that have not landed. -/
  aloft : Aloft connection.cache.guards landing.flights
  /-- No caller is ready twice. -/
  distinct : ready.Nodup
  /-- Those that are ready are those that can go on. -/
  ready : ∀ place, place ∈ ready ↔ CanGoOn connection.cache.guards landing.flights place

omit [BackingStore σ] in
/-- In which order those that are ready are listed does not matter. -/
theorem Underway.perm {ready ready' : List Nat} {landing : Landing Document ε}
    (underway : Underway view start callers ready landing connection) (same : ready.Perm ready') :
    Underway view start callers ready' landing connection where
  stays := underway.stays
  callers := underway.callers
  aloft := underway.aloft
  distinct := same.nodup_iff.1 underway.distinct
  ready place := same.mem_iff.symm.trans (underway.ready place)

variable [Libraries]

/-- Callers proceed: each computation that begins is counted, and what the callers come to in their
turns is the same as before. -/
structure Proceeds (view : StoreView σ) (start : Connection σ)
    (callers : List (Computation Document ε)) (landing : Landing Document ε)
    (connection : Connection σ) (landing' : Landing Document ε) (after : Connection σ) :
    Prop where
  /-- The settings, the rules and the clock stay, and evictions are counted. -/
  stays : Stays view connection after
  /-- Each computation that begins is counted. -/
  computations : after.cache.counters.computations + landing.ran.length =
    connection.cache.counters.computations + landing'.ran.length
  /-- The callers come to the same in their turns. -/
  course : view.evictions after.store = view.evictions connection.store →
    Flight.inTurn start 0 landing'.flights (course view callers landing'.ran after) =
      Flight.inTurn start 0 landing.flights (course view callers landing.ran connection)

/-- Callers proceed by doing nothing. -/
theorem Proceeds.refl (covered : view.Covers connection.store)
    (landing : Landing Document ε) :
    Proceeds view start callers landing connection landing connection :=
  ⟨.refl covered, rfl, fun _ => rfl⟩

/-- Callers that proceed twice proceed. -/
theorem Proceeds.trans {landing landing' landing'' : Landing Document ε}
    {second third : Connection σ}
    (early : Proceeds view start callers landing connection landing' second)
    (late : Proceeds view start callers landing' second landing'' third) :
    Proceeds view start callers landing connection landing'' third where
  stays := early.stays.trans late.stays
  computations := by
    have before := early.computations
    have behind := late.computations
    omega
  course kept := by
    obtain ⟨keptEarly, keptLate⟩ := early.stays.kept late.stays kept
    exact (late.course keptLate).trans (early.course keptEarly)

/-- Nobody lands when nobody is ready. -/
theorem landAll_nil [Storable α] (schedule : Schedule) (landing : Landing α ε)
    (turns : Nat) (connection : Connection σ) :
    landAll schedule [] landing turns connection = (landing, connection) := by
  cases turns <;> rfl

/-- Serving one of those that are ready lets it land, and makes the caller ready to which its lock
passes on. -/
theorem landAll_turn [Storable α] {before after : List (Flight α ε)}
    {flight landed : Flight α ε} {lock : Nat} {begun : Bool} {left : Connection σ}
    (landing : Connection.land flight connection = ((landed, some lock, begun), left))
    {schedule : Schedule} {ready later : List Nat}
    (taken : takeTurn? (schedule.headD 0) ready = some (before.length, later)) (ran : List Nat)
    (turns : Nat) :
    landAll schedule ready ⟨before ++ flight :: after, ran⟩ (turns + 1) connection =
      landAll schedule.tail
        (later ++ (Aloft.next? left.cache.guards (before ++ landed :: after) lock).toList)
        ⟨before ++ landed :: after, ran ++ if begun then [before.length] else []⟩ turns left := by
  have present : (before ++ flight :: after)[before.length]? = some flight := by simp
  have set : (before ++ flight :: after).set before.length landed = before ++ landed :: after := by
    simp
  have noted : (if begun then ran ++ [before.length] else ran) =
      ran ++ if begun then [before.length] else [] := by
    cases begun <;> simp
  rw [landAll, taken]
  dsimp only
  rw [present]
  dsimp only
  rw [bind_apply, landing]
  dsimp only
  rw [set, noted]
  rfl

/-- When one of those that are ready lands, whichever the schedule tells, callers proceed. -/
theorem Underway.land (faultless : view.Faultless) (clock : start.now < lastWord)
    {able : List Nat} {landing : Landing Document ε}
    (underway : Underway view start callers able landing connection) (somebody : able ≠ [])
    (schedule : Schedule) :
    ∃ later' landing' after,
      (∀ turns, landAll schedule able landing (turns + 1) connection =
        landAll schedule.tail later' landing' turns after) ∧
      Underway view start callers later' landing' after ∧
      Proceeds view start callers landing connection landing' after ∧
      after.cache.guards.tickets.length < connection.cache.guards.tickets.length := by
  obtain ⟨place, later, taken, same⟩ := exists_takeTurn? (schedule.headD 0) somebody
  obtain ⟨stays, callersEq, aloft, distinct, ready⟩ := underway.perm same
  obtain ⟨flights, ran⟩ := landing
  obtain ⟨flight, ticket, present, held, owns⟩ := (ready place).1 List.mem_cons_self
  dsimp only at callersEq aloft ready present
  obtain ⟨before, after, rfl, rfl⟩ := exists_split present
  have spec := land_spec faultless stays.covers (stays.now.symm ▸ clock) held before.length
    (ran.filter fun place => place ∈ placesOf flight.computation.key callers)
  rcases landing : Connection.land flight connection with ⟨⟨landed, freed, begun⟩, left⟩
  rw [landing] at spec
  dsimp only at spec
  obtain ⟨landedEq, rfl, began, leaves, guards, computations⟩ := spec
  have down : landed.ticket? = none := by
    rw [landedEq]
    rfl
  have caller : callers[before.length]? = some flight.computation := by
    rw [← callersEq, List.getElem?_map, present]
    rfl
  obtain ⟨distinct', ready'⟩ := aloft.canGoOn_land held owns down distinct ready
  have aloft' := aloft.land held owns down
  rw [← guards] at distinct' ready' aloft'
  refine ⟨_, ⟨before ++ landed :: after, ran ++ if begun then [before.length] else []⟩, left,
    fun turns => ?_, ⟨stays.trans leaves.toStays, ?_, aloft', distinct', ready'⟩,
    ⟨leaves.toStays, ?_, fun kept => ?_⟩, ?_⟩
  · exact landAll_turn landing taken ran turns
  · rw [← callersEq, List.map_append, List.map_append, List.map_cons, List.map_cons, landedEq]
  · dsimp only
    rw [computations, List.length_append]
    cases begun <;> simp [Nat.add_right_comm, Nat.add_assoc]
  · have turned : flight.turn start before.length (course view callers ran connection
        flight.computation.key) = flight.turn connection before.length
          ⟨connection.shelf view flight.computation.key,
            ran.filter fun place => place ∈ placesOf flight.computation.key callers⟩ := by
      rw [← stays.turn]
      rfl
    dsimp only
    rw [course_land begun caller (leaves.shelf kept) began]
    refine Flight.inTurn_advance after (aloft.earlier_landed held owns) (by rw [landedEq]) ?_
    rw [turned, landedEq]
    rfl
  · rw [guards]
    exact aloft.fewer (List.mem_append_right _ List.mem_cons_self) held

/-- When there are turns for all that have not landed, all callers land, and proceed in doing so. -/
theorem Underway.landAll (faultless : view.Faultless) (clock : start.now < lastWord)
    (schedule : Schedule) {turns : Nat} {ready : List Nat} {landing : Landing Document ε}
    (underway : Underway view start callers ready landing connection)
    (enough : connection.cache.guards.tickets.length ≤ turns) :
    let landed := (Connection.landAll schedule ready landing turns connection).1
    let after := (Connection.landAll schedule ready landing turns connection).2
    Proceeds view start callers landing connection landed after ∧
      Aloft after.cache.guards landed.flights ∧ after.cache.guards.tickets = [] ∧
      landed.flights.map Flight.computation = callers := by
  induction turns generalizing schedule ready landing connection with
  | zero =>
    exact ⟨.refl underway.stays.covers landing, underway.aloft,
      List.eq_nil_of_length_eq_zero (Nat.le_zero.1 enough), underway.callers⟩
  | succ turns ih =>
    by_cases somebody : ready = []
    · subst somebody
      rw [landAll_nil]
      exact ⟨.refl underway.stays.covers landing, underway.aloft,
        underway.aloft.all_landed fun place able =>
          absurd ((underway.ready place).2 able) List.not_mem_nil, underway.callers⟩
    · obtain ⟨later', landing', after, step, underway', proceeds, fewer⟩ :=
        underway.land faultless clock somebody schedule
      obtain ⟨proceeds', aloft, tickets, same⟩ :=
        ih schedule.tail underway' (Nat.le_of_lt_succ (Nat.lt_of_lt_of_le fewer enough))
      rw [step]
      exact ⟨proceeds.trans proceeds', aloft, tickets, same⟩

/-- A caller that has not started counts as one that waits; with which ticket does not matter. -/
def standBy (computation : Computation Document ε) : Flight Document ε :=
  ⟨computation, .waiting ⟨0, computation.key, 0⟩⟩

omit [Libraries] in
/-- The places of computations that have begun, with one caller more. -/
theorem computingPlaces_append (before : List (Flight α ε)) (flight : Flight α ε) :
    computingPlaces (before ++ [flight]) =
      computingPlaces before ++ if flight.isComputing then [before.length] else [] := by
  have first : (List.range before.length).filter (fun place =>
      ((before ++ [flight])[place]?.map Flight.isComputing).getD false) =
        computingPlaces before := by
    refine List.filter_congr fun place inside => ?_
    rw [List.getElem?_append_left (List.mem_range.1 inside)]
  rw [computingPlaces, List.length_append, List.length_singleton, List.range_succ,
    List.filter_append, first]
  cases computing : flight.isComputing <;> simp [computing]

/-- Callers have taken off: those whose computations have begun own their locks, and the others that
have not found a value wait. -/
structure TakenOff (view : StoreView σ) (start : Connection σ) (flights : List (Flight Document ε))
    (connection : Connection σ) : Prop where
  /-- The settings, the rules and the clock are those of the start. -/
  stays : Stays view start connection
  /-- What is live is what was live at the start. -/
  shelf : connection.shelf view = start.shelf view
  /-- The tickets are those of the callers that have not landed. -/
  aloft : Aloft connection.cache.guards flights
  /-- A caller that waits does not own its lock. -/
  waits : ∀ flight ∈ flights, ∀ ticket, flight.phase = .waiting ticket →
    connection.cache.guards.owns ticket = false
  /-- The callers that have not landed are those for whom there is no value to be found. -/
  unread : ∀ flight ∈ flights, flight.ticket? ≠ none ↔
    (connection.shelf view flight.computation.key).bind Entry.document? = none

omit [Libraries] in
/-- One caller more has taken off. -/
theorem TakenOff.snoc {before : List (Flight Document ε)}
    (taken : TakenOff view start before connection) {flight : Flight Document ε}
    {after : Connection σ} (stays : Stays view connection after)
    (shelf : after.shelf view = connection.shelf view)
    (coherent : after.cache.guards.Coherent)
    (tickets : after.cache.guards.tickets =
      connection.cache.guards.tickets ++ flight.ticket?.toList)
    (own : ∀ ticket ∈ flight.ticket?, ticket.key = flight.computation.key)
    (begun : ∀ ticket, flight.phase = .computing ticket →
      after.cache.guards.owns ticket = true)
    (waits : ∀ ticket, flight.phase = .waiting ticket →
      after.cache.guards.owns ticket = false)
    (unread : flight.ticket? ≠ none ↔
      (connection.shelf view flight.computation.key).bind Entry.document? = none) :
    TakenOff view start (before ++ [flight]) after := by
  have boarded : Boarded after.cache.guards (before ++ [flight]) :=
    Boarded.snoc ⟨taken.aloft, taken.waits⟩ coherent tickets own begun waits
  refine ⟨taken.stays.trans stays, shelf.trans taken.shelf, boarded.toAloft, boarded.waits,
    fun other present => ?_⟩
  rw [shelf]
  rcases List.mem_append.1 present with earlier | last
  · exact taken.unread other earlier
  · exact List.mem_singleton.1 last ▸ unread

omit [BackingStore σ] in
/-- With which ticket a caller waits does not matter for its turn. -/
theorem inTurn_waiting (before rest : List (Flight Document ε))
    (computation : Computation Document ε) (ticket ticket' : Ticket)
    (course : String → Progress) :
    Flight.inTurn start 0 (before ++ ⟨computation, .waiting ticket⟩ :: rest) course =
      Flight.inTurn start 0 (before ++ ⟨computation, .waiting ticket'⟩ :: rest) course := by
  rw [Flight.inTurn_append, Flight.inTurn_append]
  rfl

/-- When a caller takes off, callers proceed. -/
theorem TakenOff.takeOff (faultless : view.Faultless)
    {before : List (Flight Document ε)} (taken : TakenOff view start before connection)
    {computation : Computation Document ε}
    (present : callers[before.length]? = some computation) (rest : List (Flight Document ε)) :
    let flight := (Connection.takeOff computation connection).1
    let after := (Connection.takeOff computation connection).2
    flight.computation = computation ∧ TakenOff view start (before ++ [flight]) after ∧
      Proceeds view start callers
        ⟨before ++ standBy computation :: rest, computingPlaces before⟩ connection
        ⟨before ++ flight :: rest, computingPlaces (before ++ [flight])⟩ after := by
  obtain ⟨stays, shelf, kept, coherent, own, takes⟩ := takeOff_spec faultless taken.stays.covers
    taken.aloft.coherent computation
  rcases takeOff : Connection.takeOff computation connection with ⟨⟨caller, phase⟩, after⟩
  rw [takeOff] at stays shelf kept coherent own takes
  dsimp only at stays shelf kept coherent own takes ⊢
  subst own
  rw [computingPlaces_append]
  -- Without a computation that begins, there is of each key what there was.
  have same : course view callers (computingPlaces before) after =
      course view callers (computingPlaces before) connection := by
    funext key
    rw [course, course, shelf]
  cases takes with
  | @found document read tickets computations =>
    refine ⟨rfl, taken.snoc stays shelf coherent (by simp [tickets, Flight.ticket?])
      (by simp [Flight.ticket?]) (by simp) (by simp) (by simp [Flight.ticket?, read]),
      ⟨stays, by simp [Flight.isComputing, computations], fun _ => ?_⟩⟩
    have landed : ∀ earlier ∈ before, earlier.computation.key = caller.key →
        earlier.ticket? = none := by
      intro earlier inside key
      by_contra aloft
      have unread := (taken.unread earlier inside).1 aloft
      rw [key, read] at unread
      exact absurd unread (by simp)
    have own : Flight.computation ⟨caller, .landed (.ok document)⟩ =
        (standBy caller).computation := rfl
    have part : Flight.turn start before.length ⟨caller, .landed (.ok document)⟩
        (course view callers (computingPlaces before) connection caller.key) =
          (standBy caller).turn start before.length
            (course view callers (computingPlaces before) connection caller.key) := by
      simp only [Flight.turn, standBy, course, read]
    have advance := Flight.inTurn_advance rest landed own part
    rw [standBy, Function.update_eq_self] at advance
    simp only [Flight.isComputing, Bool.false_eq_true, ↓reduceIte, List.append_nil, same]
    exact advance
  | @begun ticket unread own tickets owns computations =>
    have taken' : TakenOff view start (before ++ [⟨caller, .computing ticket⟩]) after :=
      taken.snoc stays shelf coherent (by simp [tickets, Flight.ticket?])
        (by simp [Flight.ticket?, own]) (by simp [owns]) (by simp)
        (by simp [Flight.ticket?, -Option.bind_eq_none_iff, unread])
    refine ⟨rfl, taken', ⟨stays, ?_, fun _ => ?_⟩⟩
    · simp only [Flight.isComputing, ↓reduceIte, computations, List.length_append,
        List.length_singleton]
      omega
    · have began : course view callers (computingPlaces before ++ [before.length]) after =
          Function.update (course view callers (computingPlaces before) connection) caller.key
            ⟨connection.shelf view caller.key, (computingPlaces before).filter
              (fun place => place ∈ placesOf caller.key callers) ++ [before.length]⟩ :=
        course_land true present (by rw [Function.update_eq_self, shelf]) rfl
      have landed : ∀ earlier ∈ before, earlier.computation.key = caller.key →
          earlier.ticket? = none := taken'.aloft.earlier_landed rfl owns
      have own : Flight.computation ⟨caller, .computing ticket⟩ =
          (standBy caller).computation := rfl
      simp only [Flight.isComputing, ↓reduceIte, began]
      refine Flight.inTurn_advance rest landed own ?_
      simp only [Flight.turn, standBy, course, unread]
      rfl
  | @waits ticket unread own tickets owns computations =>
    refine ⟨rfl, taken.snoc stays shelf coherent (by simp [tickets, Flight.ticket?])
      (by simp [Flight.ticket?, own]) (by simp) (by simp [owns])
      (by simp [Flight.ticket?, -Option.bind_eq_none_iff, unread]),
      ⟨stays, by simp [Flight.isComputing, computations], fun _ => ?_⟩⟩
    simp only [Flight.isComputing, Bool.false_eq_true, ↓reduceIte, List.append_nil, same]
    exact inTurn_waiting before rest caller _ _ _

/-- When callers take off one after the other, callers proceed. -/
theorem TakenOff.takeOffAll (faultless : view.Faultless)
    (rest : List (Computation Document ε)) {before : List (Flight Document ε)}
    (taken : TakenOff view start before connection)
    (all : before.map Flight.computation ++ rest = callers) :
    let later := (Connection.takeOffAll rest connection).1
    let after := (Connection.takeOffAll rest connection).2
    (before ++ later).map Flight.computation = callers ∧
      TakenOff view start (before ++ later) after ∧
      Proceeds view start callers
        ⟨before ++ rest.map standBy, computingPlaces before⟩ connection
        ⟨before ++ later, computingPlaces (before ++ later)⟩ after := by
  induction rest generalizing before connection with
  | nil =>
    simp only [Connection.takeOffAll, pure_apply, List.append_nil, List.map_nil]
    exact ⟨(List.append_nil _).symm.trans all, taken, .refl taken.stays.covers _⟩
  | cons computation rest ih =>
    have present : callers[before.length]? = some computation := by
      rw [← all, List.getElem?_append_right (by simp)]
      simp
    obtain ⟨own, taken', proceeds⟩ := taken.takeOff faultless present (rest.map standBy)
    rw [Connection.takeOffAll, bind_apply]
    rcases takeOff : Connection.takeOff computation connection with ⟨flight, second⟩
    rw [takeOff] at own taken' proceeds
    dsimp only at own taken' proceeds
    obtain ⟨all', taken'', proceeds'⟩ := ih taken' (by simp [← all, own])
    simp only [bind_apply, pure_apply]
    rw [List.append_cons]
    refine ⟨all', taken'', ?_⟩
    rw [List.append_assoc] at proceeds'
    exact proceeds.trans proceeds'

omit [Libraries] in
/-- Callers that have taken off are underway: those whose computations have begun can go on. -/
theorem TakenOff.underway {flights : List (Flight Document ε)}
    (taken : TakenOff view start flights connection)
    (all : flights.map Flight.computation = callers) :
    Underway view start callers (computingPlaces flights) ⟨flights, computingPlaces flights⟩
      connection :=
  ⟨taken.stays, all, taken.aloft, List.nodup_range.filter _,
    Boarded.canGoOn ⟨taken.aloft, taken.waits⟩⟩

/-- Callers that take off from the ground proceed. -/
theorem takeOffAll_spec (faultless : view.Faultless)
    (covered : view.Covers connection.store) (rest : connection.cache.guards.AtRest)
    (callers : List (Computation Document ε)) :
    let flights := (takeOffAll callers connection).1
    let after := (takeOffAll callers connection).2
    flights.map Flight.computation = callers ∧ TakenOff view connection flights after ∧
      Proceeds view connection callers ⟨callers.map standBy, []⟩ connection
        ⟨flights, computingPlaces flights⟩ after := by
  have grounded : TakenOff view connection ([] : List (Flight Document ε)) connection :=
    ⟨.refl covered, rfl, ⟨rest.toCoherent, rest.idle, by simp, by simp⟩, by simp, by simp⟩
  exact grounded.takeOffAll faultless callers rfl

/-- Callers that compute at once come to what they come to one after the other, in whichever order
their computations end, and leave of each key what their turns make of it. Every caller lands, each
computation that begins is counted, and all tickets are given back. -/
theorem computeAll_inTurn (faultless : view.Faultless)
    (covered : view.Covers connection.store) (clock : connection.now < lastWord)
    (rest : connection.cache.guards.AtRest) (schedule : Schedule)
    (callers : List (Computation Document ε)) :
    let landing := (computeAll schedule callers connection).1
    let after := (computeAll schedule callers connection).2
    Stays view connection after ∧ landing.flights.map Flight.computation = callers ∧
      (∀ flight ∈ landing.flights, flight.ticket? = none) ∧
      after.cache.guards.AtRest ∧
      after.cache.counters.computations =
        connection.cache.counters.computations + landing.ran.length ∧
      (view.evictions after.store = view.evictions connection.store →
        (Flight.inTurn connection 0 (callers.map standBy)
            (course view callers [] connection)).1.map some =
          landing.flights.map Flight.result? ∧
        (Flight.inTurn connection 0 (callers.map standBy)
            (course view callers [] connection)).2 =
          course view callers landing.ran after) := by
  obtain ⟨all, taken, proceeds⟩ := takeOffAll_spec faultless covered rest callers
  rcases takeOff : takeOffAll callers connection with ⟨flights, second⟩
  rw [takeOff] at all taken proceeds
  dsimp only at all taken proceeds
  have fits : second.cache.guards.tickets.length ≤ flights.length := by
    rw [taken.aloft.tickets]
    exact List.length_filterMap_le ..
  obtain ⟨proceeds', aloft, tickets, all'⟩ :=
    (taken.underway all).landAll faultless clock schedule fits
  have computed : computeAll schedule callers connection =
      landAll schedule (computingPlaces flights) ⟨flights, computingPlaces flights⟩
        flights.length second := by
    rw [computeAll, bind_apply, takeOff]
  rw [computed]
  intro landing after
  have whole := proceeds.trans proceeds'
  have landed : ∀ flight ∈ landing.flights, flight.ticket? = none :=
    List.filterMap_eq_nil_iff.1 (aloft.tickets.symm.trans tickets)
  refine ⟨whole.stays, all', landed, ⟨aloft.coherent, tickets⟩, whole.computations,
    fun kept => ?_⟩
  obtain ⟨results, last⟩ := Flight.inTurn_landed connection landed 0
    (course view callers landing.ran after)
  have same : Flight.inTurn connection 0 landing.flights
      (course view callers landing.ran after) =
        Flight.inTurn connection 0 (callers.map standBy) (course view callers [] connection) :=
    whole.course kept
  rw [← same]
  exact ⟨results, last⟩

end Connection

end FailOpenCache
