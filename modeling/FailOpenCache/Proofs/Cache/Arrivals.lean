import FailOpenCache.Proofs.Cache.Landings

/-!
# Arrivals

Whatever a store answers and however often it fails, callers come to results: a value, or the error
of their own computation. A caller that starts takes at most one ticket, a caller that lands gives
its ticket back, and a failed read or write stands in the way of neither. So as long as a ticket is
out somebody can go on, and when nobody can, all callers have landed and the guards rest, in
whichever order their computations end.
-/

namespace FailOpenCache

/-- A result is one that the caller of a computation may get: an error is the computation's own. -/
def Computation.Yields {α ε : Type} (computation : Computation α ε) (result : Except ε α) : Prop :=
  ∀ error, result = .error error → computation.outcome = .error error

namespace Connection

variable {σ : Type} [BackingStore σ] {α ε : Type} [Storable α] {connection : Connection σ}

/-- How a caller starts, as far as the guards tell. -/
inductive Starts (computation : Computation α ε) (before after : Guards) : Phase α ε → Prop where
  /-- The caller finds a value, and has no ticket. -/
  | found {value : α} (tickets : after.tickets = before.tickets) :
    Starts computation before after (.landed (.ok value))
  /-- The caller owns the lock of its key, and begins its computation. -/
  | begun {ticket : Ticket} (own : ticket.key = computation.key)
    (tickets : after.tickets = before.tickets ++ [ticket])
    (owns : after.owns ticket = true) : Starts computation before after (.computing ticket)
  /-- The caller waits for the lock of its key. -/
  | waits {ticket : Ticket} (own : ticket.key = computation.key)
    (tickets : after.tickets = before.tickets ++ [ticket])
    (owns : after.owns ticket = false) : Starts computation before after (.waiting ticket)

/-- A caller starts with a value or with a ticket. -/
theorem takeOff_starts (coherent : connection.cache.guards.Coherent)
    (computation : Computation α ε) :
    let flight := (takeOff computation connection).1
    let after := (takeOff computation connection).2
    flight.computation = computation ∧ after.cache.guards.Coherent ∧
      Starts computation connection.cache.guards after.cache.guards flight.phase := by
  have alike := quiet_getKey computation.key connection
  have looked : (getAs α computation.key connection).2 = (get computation.key connection).2 := rfl
  rw [← looked] at alike
  rw [takeOff, bind_apply]
  rcases read : getAs α computation.key connection with ⟨_ | value, looked⟩
  · rw [read] at alike
    have guards := alike.guards
    obtain ⟨took, own, fresh, tickets⟩ := Guards.take_spec coherent computation.key
    rw [← guards] at took own fresh tickets
    dsimp only
    rw [bind_apply, takeTicket_apply]
    dsimp only
    rw [bind_apply, get_apply]
    dsimp only
    rcases taking : looked.cache.guards.take computation.key with ⟨ticket, held⟩
    rw [taking] at took own fresh tickets
    rw [← guards]
    cases owns : held.owns ticket with
    | false => exact ⟨rfl, took, .waits own tickets owns⟩
    | true =>
      rw [if_pos rfl, bind_apply]
      have again := lookAgain_guards α computation.key
        { looked with cache := { looked.cache with guards := held } }
      rcases looking : lookAgain α computation.key
        { looked with cache := { looked.cache with guards := held } } with ⟨_ | value, last⟩
      · rw [looking] at again
        exact ⟨rfl, again ▸ took, .begun own (again ▸ tickets) (again ▸ owns)⟩
      · rw [looking] at again
        -- The ticket that is given back is the one that was taken, and no other is like it.
        have back : (held.giveBack ticket).tickets = looked.cache.guards.tickets := by
          rw [Guards.giveBack, tickets, List.filter_append, filter_ne_of_notMem fresh]
          simp
        have given : last.cache.guards.giveBack ticket = held.giveBack ticket :=
          congrArg (Guards.giveBack · ticket) again
        refine ⟨rfl, ?_, .found ?_⟩
        · show (last.cache.guards.giveBack ticket).Coherent
          rw [given]
          exact took.giveBack ticket
        · show (last.cache.guards.giveBack ticket).tickets = _
          rw [given, back]
  · rw [read] at alike
    exact ⟨rfl, alike.guards ▸ coherent, .found (congrArg Guards.tickets alike.guards)⟩

/-- Callers start: nobody has landed with an error. -/
structure Started (flights : List (Flight α ε)) (connection : Connection σ) : Prop where
  /-- Nobody has come any further. -/
  boarded : Boarded connection.cache.guards flights
  /-- Whoever has landed has a value. -/
  found : ∀ flight ∈ flights, ∀ result, flight.phase = .landed result →
    flight.computation.Yields result

/-- A caller starts after others. -/
theorem Started.takeOff {before : List (Flight α ε)} (started : Started before connection)
    (computation : Computation α ε) :
    let flight := (Connection.takeOff computation connection).1
    let after := (Connection.takeOff computation connection).2
    flight.computation = computation ∧ Started (before ++ [flight]) after := by
  obtain ⟨own, coherent, starts⟩ := takeOff_starts started.boarded.coherent computation
  rcases takeOff : Connection.takeOff computation connection with ⟨⟨caller, phase⟩, after⟩
  rw [takeOff] at own coherent starts
  dsimp only at own coherent starts ⊢
  subst own
  refine ⟨rfl, ?_, fun other present result landed => ?_⟩
  · cases starts with
    | found tickets =>
      exact started.boarded.snoc coherent (by simp [tickets, Flight.ticket?])
        (by simp [Flight.ticket?]) (by simp) (by simp)
    | begun own tickets owns =>
      exact started.boarded.snoc coherent (by simp [tickets, Flight.ticket?])
        (by simp [Flight.ticket?, own]) (by simp [owns]) (by simp)
    | waits own tickets owns =>
      exact started.boarded.snoc coherent (by simp [tickets, Flight.ticket?])
        (by simp [Flight.ticket?, own]) (by simp) (by simp [owns])
  · rcases List.mem_append.1 present with earlier | last
    · exact started.found other earlier result landed
    · obtain rfl := List.mem_singleton.1 last
      obtain rfl : phase = .landed result := landed
      cases starts with
      | found tickets => exact fun error wrong => absurd wrong (by simp)

/-- Callers start one after the other. -/
theorem Started.takeOffAll (rest : List (Computation α ε)) {before : List (Flight α ε)}
    (started : Started before connection) :
    let later := (Connection.takeOffAll rest connection).1
    let after := (Connection.takeOffAll rest connection).2
    later.map Flight.computation = rest ∧ Started (before ++ later) after := by
  induction rest generalizing before connection with
  | nil => exact ⟨rfl, (List.append_nil before).symm ▸ started⟩
  | cons computation rest ih =>
    obtain ⟨own, started'⟩ := started.takeOff computation
    rw [Connection.takeOffAll, bind_apply]
    rcases takeOff : Connection.takeOff computation connection with ⟨flight, second⟩
    rw [takeOff] at own started'
    dsimp only at own started'
    obtain ⟨same, started''⟩ := ih started'
    simp only [bind_apply, pure_apply, List.map_cons]
    rw [List.append_cons, own, same]
    exact ⟨rfl, started''⟩

/-! ## Landing -/

/-- A caller with a ticket lands with a result that it may get, and gives the ticket back. -/
theorem land_yields [Libraries] {flight : Flight α ε} {ticket : Ticket}
    (held : flight.ticket? = some ticket)
    (connection : Connection σ) :
    let landing := (land flight connection).1
    let after := (land flight connection).2
    (∃ result, landing.1 = { flight with phase := .landed result } ∧
      flight.computation.Yields result) ∧
      landing.2.1 = some ticket.lock ∧
      after.cache.guards = connection.cache.guards.giveBack ticket := by
  obtain ⟨computation, phase⟩ := flight
  cases phase with
  | landed result => exact absurd held (by simp [Flight.ticket?])
  | computing own =>
    obtain rfl : own = ticket := Option.some.inj held
    have alike := quiet_keep computation connection
    exact ⟨⟨computation.outcome, rfl, fun error same => same⟩, rfl,
      congrArg (Guards.giveBack · own) alike.guards⟩
  | waiting own =>
    obtain rfl : own = ticket := Option.some.inj held
    have guards := goOn_guards computation own connection
    have result : computation.Yields (goOn computation own connection).1.result := by
      rw [goOn, bind_apply]
      rcases lookAgain α computation.key connection with ⟨_ | value, looked⟩
      · exact fun error same => same
      · exact fun error wrong => absurd wrong (by simp [pure_apply, bind_apply])
    exact ⟨⟨_, rfl, result⟩, rfl, guards⟩

/-- Callers are on their way, and those that are ready are those that can go on. -/
structure OnTheWay (callers : List (Computation α ε)) (ready : List Nat)
    (landing : Landing α ε) (connection : Connection σ) : Prop where
  /-- Every caller stands at its place. -/
  callers : landing.flights.map Flight.computation = callers
  /-- The tickets are those of the callers that have not landed. -/
  aloft : Aloft connection.cache.guards landing.flights
  /-- No caller is ready twice. -/
  distinct : ready.Nodup
  /-- Those that are ready are those that can go on. -/
  ready : ∀ place, place ∈ ready ↔ CanGoOn connection.cache.guards landing.flights place
  /-- Whoever has landed has a result that it may get. -/
  yields : ∀ flight ∈ landing.flights, ∀ result, flight.phase = .landed result →
    flight.computation.Yields result

omit [BackingStore σ] [Storable α] in
/-- In which order those that are ready are listed does not matter. -/
theorem OnTheWay.perm {callers : List (Computation α ε)} {ready ready' : List Nat}
    {landing : Landing α ε} (away : OnTheWay callers ready landing connection)
    (same : ready.Perm ready') : OnTheWay callers ready' landing connection where
  callers := away.callers
  aloft := away.aloft
  distinct := same.nodup_iff.1 away.distinct
  ready place := same.mem_iff.symm.trans (away.ready place)
  yields := away.yields

/-- When one of those that are ready lands, whichever the schedule tells, there is a ticket less. -/
theorem OnTheWay.land [Libraries] {callers : List (Computation α ε)} {able : List Nat}
    {landing : Landing α ε} (away : OnTheWay callers able landing connection)
    (somebody : able ≠ []) (schedule : Schedule) :
    ∃ later' landing' after,
      (∀ turns, landAll schedule able landing (turns + 1) connection =
        landAll schedule.tail later' landing' turns after) ∧
      OnTheWay callers later' landing' after ∧
      after.cache.guards.tickets.length < connection.cache.guards.tickets.length := by
  obtain ⟨place, later, taken, same⟩ := exists_takeTurn? (schedule.headD 0) somebody
  obtain ⟨callersEq, aloft, distinct, ready, yields⟩ := away.perm same
  obtain ⟨flights, ran⟩ := landing
  obtain ⟨flight, ticket, present, held, owns⟩ := (ready place).1 List.mem_cons_self
  dsimp only at callersEq aloft ready present yields
  obtain ⟨before, after, rfl, rfl⟩ := exists_split present
  have spec := land_yields held connection
  rcases landing : Connection.land flight connection with ⟨⟨landed, freed, begun⟩, left⟩
  rw [landing] at spec
  obtain ⟨⟨result, landedEq, may⟩, rfl, guards⟩ := spec
  dsimp only at landedEq guards
  have down : landed.ticket? = none := by
    rw [landedEq]
    rfl
  obtain ⟨distinct', ready'⟩ := aloft.canGoOn_land held owns down distinct ready
  have aloft' := aloft.land held owns down
  rw [← guards] at distinct' ready' aloft'
  refine ⟨_, ⟨before ++ landed :: after, ran ++ if begun then [before.length] else []⟩, left,
    landAll_turn landing taken ran, ⟨?_, aloft', distinct', ready', fun other inside result' => ?_⟩,
    ?_⟩
  · rw [← callersEq, List.map_append, List.map_append, List.map_cons, List.map_cons, landedEq]
  · rcases List.mem_append.1 inside with earlier | here
    · exact yields other (List.mem_append_left _ earlier) result'
    · rcases List.mem_cons.1 here with rfl | behind
      · rw [landedEq]
        exact fun same => Phase.landed.inj same ▸ may
      · exact yields other (List.mem_append_right _ (List.mem_cons_of_mem _ behind)) result'
  · rw [guards]
    exact aloft.fewer (List.mem_append_right _ List.mem_cons_self) held

/-- With a turn for each ticket that is out, callers go on until no ticket is. -/
theorem OnTheWay.landAll [Libraries] {callers : List (Computation α ε)} {turns : Nat}
    {ready : List Nat} (schedule : Schedule) {landing : Landing α ε}
    (away : OnTheWay callers ready landing connection)
    (enough : connection.cache.guards.tickets.length ≤ turns) :
    let landed := (Connection.landAll schedule ready landing turns connection).1
    let after := (Connection.landAll schedule ready landing turns connection).2
    after.cache.guards.tickets = [] ∧ ∃ ready', OnTheWay callers ready' landed after := by
  induction turns generalizing schedule ready landing connection with
  | zero =>
    exact ⟨List.eq_nil_of_length_eq_zero (Nat.le_zero.1 enough), ready, away⟩
  | succ turns ih =>
    by_cases somebody : ready = []
    · subst somebody
      rw [landAll_nil]
      exact ⟨away.aloft.all_landed fun place able =>
        absurd ((away.ready place).2 able) List.not_mem_nil, [], away⟩
    · obtain ⟨later', landing', after, step, away', fewer⟩ := away.land somebody schedule
      rw [step]
      exact ih schedule.tail away' (Nat.le_of_lt_succ (Nat.lt_of_lt_of_le fewer enough))

/-- Callers that ask for computed values at once all come to results that they may get, and leave
the guards at rest, in whichever order their computations end. -/
theorem computeAll_arrives [Libraries] (rest : connection.cache.guards.AtRest) (schedule : Schedule)
    (computations : List (Computation α ε)) :
    let landing := (computeAll schedule computations connection).1
    let after := (computeAll schedule computations connection).2
    landing.flights.map Flight.computation = computations ∧
      (∀ flight ∈ landing.flights, ∃ result, flight.phase = .landed result ∧
        flight.computation.Yields result) ∧
      after.cache.guards.AtRest := by
  have grounded : Started ([] : List (Flight α ε)) connection :=
    ⟨⟨⟨rest.toCoherent, rest.idle, by simp, by simp⟩, by simp⟩, by simp⟩
  obtain ⟨callers, boarded, found⟩ := grounded.takeOffAll computations
  rw [List.nil_append] at boarded found
  rcases takeOff : takeOffAll computations connection with ⟨flights, second⟩
  rw [takeOff] at callers boarded found
  dsimp only at callers boarded found
  have away : OnTheWay computations (computingPlaces flights)
      ⟨flights, computingPlaces flights⟩ second :=
    ⟨callers, boarded.toAloft, List.nodup_range.filter _, boarded.canGoOn, found⟩
  have fits : second.cache.guards.tickets.length ≤ flights.length := by
    rw [boarded.tickets]
    exact List.length_filterMap_le ..
  have computed : computeAll schedule computations connection =
      landAll schedule (computingPlaces flights) ⟨flights, computingPlaces flights⟩
        flights.length second := by
    rw [computeAll, bind_apply, takeOff]
  obtain ⟨tickets, _, arrived⟩ := away.landAll schedule fits
  rw [computed]
  refine ⟨arrived.callers, fun flight inside => ?_, arrived.aloft.coherent, tickets⟩
  have landed : flight.ticket? = none :=
    List.filterMap_eq_nil_iff.1 (arrived.aloft.tickets.symm.trans tickets) flight inside
  cases phase : flight.phase with
  | landed result => exact ⟨result, rfl, arrived.yields flight inside result phase⟩
  | computing ticket => exact absurd landed (by simp [Flight.ticket?, phase])
  | waiting ticket => exact absurd landed (by simp [Flight.ticket?, phase])

end Connection

end FailOpenCache
