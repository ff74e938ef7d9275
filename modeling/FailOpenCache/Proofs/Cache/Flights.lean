import FailOpenCache.Cache.Concurrency
import FailOpenCache.Proofs.Cache.Faultless
import FailOpenCache.Proofs.Guards

/-!
# Concurrent computations, one after the other

Callers that ask for computed values at once come to what they would come to one after the other, in
the order of their arrival. To follow this through a run, a caller that has not come to its result
counts as one whose turn is still to come, wherever it stands: what all callers come to in their
turns is the same before and after each step, because the one that is served is the first of its
key that has not landed.
-/

namespace FailOpenCache

/-- What there is of a key. -/
structure Progress where
  /-- The entry that is live under the key. -/
  held? : Option Entry
  /-- The places of the callers of the key whose computations have begun, in that order. -/
  ran : List Nat

namespace Connection

variable {σ ε : Type}

/-- What is live under the key of a computation once the computation has ended. -/
def keptOf [Libraries] (connection : Connection σ) (computation : Computation Document ε)
    (held? : Option Entry) : Option Entry :=
  match computation.outcome with
  | .error _ => held?
  | .ok document => some (connection.entryOf computation.key document computation.stated)

end Connection

namespace Flight

variable {σ ε : Type}

/-- The ticket of a caller that has not landed. -/
def ticket? {α : Type} (flight : Flight α ε) : Option Ticket :=
  match flight.phase with
  | .waiting ticket | .computing ticket => some ticket
  | .landed _ => none

variable [Libraries]

/-- What a caller at a place comes to in its turn, and what its turn makes of its key. A caller
whose computation has begun was counted then. -/
def turn (connection : Connection σ) (place : Nat) (flight : Flight Document ε)
    (progress : Progress) : Except ε Document × Progress :=
  match flight.phase with
  | .landed result => (result, progress)
  | .computing _ =>
    (flight.computation.outcome,
      { progress with held? := connection.keptOf flight.computation progress.held? })
  | .waiting _ =>
    match progress.held?.bind Entry.document? with
    | some document => (.ok document, progress)
    | none =>
      (flight.computation.outcome,
        ⟨connection.keptOf flight.computation progress.held?, progress.ran ++ [place]⟩)

/-- What callers come to in their turns, from a place on, and what their turns make of the keys. -/
def inTurn (connection : Connection σ) :
    Nat → List (Flight Document ε) → (String → Progress) →
      List (Except ε Document) × (String → Progress)
  | _, [], course => ([], course)
  | place, flight :: rest, course =>
    let turned := flight.turn connection place (course flight.computation.key)
    let later := inTurn connection (place + 1) rest
      (Function.update course flight.computation.key turned.2)
    (turned.1 :: later.1, later.2)

variable {connection : Connection σ}

/-- Callers come to their results in two parts as they do in one. -/
theorem inTurn_append (first later : List (Flight Document ε)) (place : Nat)
    (course : String → Progress) :
    inTurn connection place (first ++ later) course =
      ((inTurn connection place first course).1 ++
          (inTurn connection (place + first.length) later
            (inTurn connection place first course).2).1,
        (inTurn connection (place + first.length) later
          (inTurn connection place first course).2).2) := by
  induction first generalizing place course with
  | nil => rfl
  | cons flight rest ih =>
    simp only [List.cons_append, inTurn, ih, List.length_cons, Nat.add_assoc, Nat.add_comm 1]

/-- Callers that have all landed have their results, and make nothing of the keys. -/
theorem inTurn_landed (connection : Connection σ) {flights : List (Flight Document ε)}
    (landed : ∀ flight ∈ flights, flight.ticket? = none) (place : Nat)
    (course : String → Progress) :
    (inTurn connection place flights course).1.map some = flights.map Flight.result? ∧
      (inTurn connection place flights course).2 = course := by
  induction flights generalizing place with
  | nil => exact ⟨rfl, rfl⟩
  | cons flight rest ih =>
    have down := landed flight List.mem_cons_self
    obtain ⟨computation, phase⟩ := flight
    cases phase with
    | waiting ticket => exact absurd down (by simp [ticket?])
    | computing ticket => exact absurd down (by simp [ticket?])
    | landed result =>
      obtain ⟨results, last⟩ := ih (fun other held => landed other (List.mem_cons_of_mem _ held))
        (place + 1)
      simp only [inTurn, turn, Function.update_eq_self, List.map_cons, result?]
      exact ⟨congrArg _ results, last⟩

/-- Callers of which those of a key have landed come to the same whatever there is of the key, and
make nothing of it. -/
theorem inTurn_update (connection : Connection σ) {flights : List (Flight Document ε)}
    {key : String}
    (landed : ∀ flight ∈ flights, flight.computation.key = key → flight.ticket? = none)
    (place : Nat) (course : String → Progress) (progress : Progress) :
    (inTurn connection place flights (Function.update course key progress)).1 =
        (inTurn connection place flights course).1 ∧
      (inTurn connection place flights (Function.update course key progress)).2 =
        Function.update (inTurn connection place flights course).2 key progress ∧
      (inTurn connection place flights course).2 key = course key := by
  induction flights generalizing place course with
  | nil => exact ⟨rfl, rfl, rfl⟩
  | cons flight rest ih =>
    have later := ih (fun other held => landed other (List.mem_cons_of_mem _ held)) (place + 1)
    by_cases same : flight.computation.key = key
    · have down := landed flight List.mem_cons_self same
      obtain ⟨computation, phase⟩ := flight
      cases phase with
      | waiting ticket => exact absurd down (by simp [ticket?])
      | computing ticket => exact absurd down (by simp [ticket?])
      | landed result =>
        simp only [inTurn, turn, Function.update_eq_self]
        obtain ⟨results, last, kept⟩ := later course
        exact ⟨congrArg _ results, last, kept⟩
    · have spared : Function.update course key progress flight.computation.key =
          course flight.computation.key := Function.update_of_ne same _ _
      simp only [inTurn, spared]
      rw [Function.update_comm (Ne.symm same)]
      obtain ⟨results, last, kept⟩ := later (Function.update course flight.computation.key
        (flight.turn connection place (course flight.computation.key)).2)
      refine ⟨congrArg _ results, last, kept.trans (Function.update_of_ne (Ne.symm same) _ _)⟩

/-- Once the callers of its key before it have landed, a part of the turn of a caller may be taken
at once: what all callers come to does not change. -/
theorem inTurn_advance {before : List (Flight Document ε)} (after : List (Flight Document ε))
    {flight advanced : Flight Document ε}
    (landed : ∀ earlier ∈ before, earlier.computation.key = flight.computation.key →
      earlier.ticket? = none)
    (same : advanced.computation = flight.computation) {course : String → Progress}
    {progress : Progress}
    (part : advanced.turn connection before.length progress =
      flight.turn connection before.length (course flight.computation.key)) :
    inTurn connection 0 (before ++ advanced :: after)
        (Function.update course flight.computation.key progress) =
      inTurn connection 0 (before ++ flight :: after) course := by
  obtain ⟨results, last, kept⟩ := inTurn_update connection landed 0 course progress
  rw [inTurn_append, inTurn_append, results, last, Nat.zero_add]
  simp only [inTurn, same, Function.update_self, Function.update_idem, part, kept]

end Flight

namespace Connection

variable {σ : Type} [BackingStore σ] {ε : Type} {view : StoreView σ} {connection : Connection σ}

/-! ## Writing what a computation came to -/

omit [BackingStore σ] in
/-- An entry that is written before the last instant of the clock has not expired. -/
theorem isExpired_entryOf [Libraries] (clock : connection.now < lastWord) (key : String)
    (document : Document) (stated : Option Seconds) :
    (connection.entryOf key document stated).isExpired connection.now = false :=
  Entry.isExpired_write _ _ clock

/-- Writing what a computation came to is quiet. -/
theorem quiet_keep [Libraries] {α : Type} [Storable α] (computation : Computation α ε) :
    Quiet (keep computation : StateM (Connection σ) Unit) := by
  rw [keep]
  cases computation.outcome with
  | error fault => exact quiet_pure _
  | ok document =>
    dsimp only
    split
    · exact quiet_set _ _ _
    · exact quiet_setTagged _ _ _ _

/-- Writing what a computation came to leaves its entry under its key. -/
theorem keep_leaves [Libraries] (faultless : view.Faultless)
    (covered : view.Covers connection.store)
    (clock : connection.now < lastWord) (computation : Computation Document ε) :
    Leaves view (fun shelf => Function.update shelf computation.key
      (connection.keptOf computation (shelf computation.key))) connection
      (keep computation connection).2 := by
  rw [keep]
  cases outcome : computation.outcome with
  | error fault =>
    refine ⟨.refl covered, fun _ => ?_⟩
    simp only [keptOf, outcome, Function.update_eq_self]
    rfl
  | ok document =>
    have put : Shelf.put computation.key
        (connection.entryOf computation.key document computation.stated) connection.now =
          fun shelf => Function.update shelf computation.key
            (connection.keptOf computation (shelf computation.key)) := by
      funext shelf
      have fresh := isExpired_entryOf clock computation.key document computation.stated
      simp [Shelf.put, keptOf, outcome, Option.filter, fresh]
    have written := set_leaves faultless covered computation.key document computation.stated
    rw [put] at written
    dsimp only
    split
    · exact written
    · rename_i tagged
      have recorded := written.trans (recordTags_leaves faultless written.covers computation.key
        computation.tags computation.stated)
      rw [Function.id_comp] at recorded
      rw [setTagged, bind_apply, if_neg tagged]
      exact recorded

/-! ## Tickets are given back -/

/-- A second look leaves the guards alone. -/
theorem lookAgain_guards (α : Type) [Storable α] (key : String) (connection : Connection σ) :
    (lookAgain α key connection).2.cache.guards = connection.cache.guards := by
  have alike := quiet_getKey key connection
  have looked : (getAs α key connection).2 = (get key connection).2 := rfl
  rw [lookAgain, bind_apply, looked]
  cases (getAs α key connection).1 with
  | none => exact alike.guards
  | some value => exact alike.guards

/-- Going on behind a lock gives the ticket back, whatever the computation comes to. -/
theorem goOn_guards [Libraries] {α : Type} [Storable α] (computation : Computation α ε)
    (ticket : Ticket)
    (connection : Connection σ) :
    (goOn computation ticket connection).2.cache.guards =
      connection.cache.guards.giveBack ticket := by
  have guards := lookAgain_guards α computation.key connection
  rw [goOn, bind_apply]
  rcases looking : lookAgain α computation.key connection with ⟨_ | value, looked⟩
  · rw [looking] at guards
    have alike := quiet_keep computation looked
    exact congrArg (fun held : Guards => held.giveBack ticket) (alike.guards.trans guards)
  · rw [looking] at guards
    exact congrArg (fun held : Guards => held.giveBack ticket) guards

/-- A computation lets the guards rest, whether it succeeds or fails. -/
theorem compute_atRest [Libraries] {α : Type} [Storable α] (computation : Computation α ε)
    {connection : Connection σ} (rest : connection.cache.guards.AtRest) :
    (compute computation connection).2.cache.guards.AtRest := by
  have alike := quiet_getKey computation.key connection
  have looked : (getAs α computation.key connection).2 = (get computation.key connection).2 := rfl
  rw [compute, bind_apply, looked]
  cases (getAs α computation.key connection).1 with
  | some value => exact alike.guards.symm ▸ rest
  | none =>
    dsimp only
    rw [bind_apply, goOn_guards, takeTicket_apply]
    dsimp only
    rw [alike.guards]
    exact rest.take_giveBack computation.key

/-- A computation that is given up lets the guards rest. -/
theorem computeAbandoned_atRest {α : Type} [Storable α] (key : String)
    {connection : Connection σ} (rest : connection.cache.guards.AtRest) :
    (computeAbandoned α key connection).2.cache.guards.AtRest := by
  have alike := quiet_getKey key connection
  have looked : (getAs α key connection).2 = (get key connection).2 := rfl
  rw [computeAbandoned, bind_apply, looked]
  cases (getAs α key connection).1 with
  | some value => exact alike.guards.symm ▸ rest
  | none =>
    dsimp only
    rw [bind_apply, bind_apply, bind_apply, giveBack_apply, pure_apply]
    dsimp only
    rw [lookAgain_guards, takeTicket_apply]
    dsimp only
    rw [alike.guards]
    exact rest.take_giveBack key

/-! ## Taking off -/

/-- Reading a document is reading a key. -/
@[simp] theorem getAs_document (key : String) (connection : Connection σ) :
    getAs Document key connection = get key connection := by
  have read : (Storable.read? : Document → Option Document) = some := rfl
  simp only [getAs, bind_apply, pure_apply, read]
  rw [Option.bind_fun_some]
  rfl

/-- A second look that finds a value hands it out. -/
theorem lookAgain_found (faultless : view.Faultless) (covered : view.Covers connection.store)
    {key : String} {document : Document}
    (read : (connection.shelf view key).bind Entry.document? = some document) :
    lookAgain Document key connection = (some document, (get key connection).2) := by
  have answer := (get_leaves faultless covered key).2.2.trans read
  rw [lookAgain, bind_apply, getAs_document, answer]
  rfl

/-- A second look that finds no value counts a computation, and changes nothing that is live. -/
theorem lookAgain_missed (faultless : view.Faultless) (covered : view.Covers connection.store)
    {key : String} (unread : (connection.shelf view key).bind Entry.document? = none) :
    (lookAgain Document key connection).1 = none ∧
      Leaves view id connection (lookAgain Document key connection).2 ∧
      view.evictions (lookAgain Document key connection).2.store =
        view.evictions connection.store ∧
      (lookAgain Document key connection).2.cache.guards = connection.cache.guards ∧
      (lookAgain Document key connection).2.cache.counters.computations =
        connection.cache.counters.computations + 1 := by
  obtain ⟨leaves, kept, answer⟩ := get_leaves faultless covered key
  have alike := quiet_getKey key connection
  have looked : lookAgain Document key connection =
      (none, { (get key connection).2 with
        cache := (get key connection).2.cache.record .computation }) := by
    rw [lookAgain, bind_apply, getAs_document, answer.trans unread]
    rfl
  rw [looked]
  exact ⟨rfl, leaves.besides _ _, kept, alike.guards, congrArg (· + 1) alike.computations⟩

/-- Taking a ticket changes nothing that is live. -/
theorem takeTicket_spec (covered : view.Covers connection.store)
    (coherent : connection.cache.guards.Coherent) (key : String) :
    Leaves view id connection (takeTicket key connection).2 ∧
      (takeTicket key connection).2.store = connection.store ∧
      (takeTicket key connection).2.cache.guards.Coherent ∧
      (takeTicket key connection).1.key = key ∧
      (takeTicket key connection).2.cache.guards.tickets =
        connection.cache.guards.tickets ++ [(takeTicket key connection).1] ∧
      (takeTicket key connection).2.cache.counters = connection.cache.counters := by
  obtain ⟨took, own, -, tickets⟩ := Guards.take_spec coherent key
  exact ⟨⟨⟨rfl, rfl, rfl, covered, Nat.le_refl _⟩, fun _ => rfl⟩, rfl, took, own, tickets, rfl⟩

/-- How a caller of a key takes off. -/
inductive TakesOff (view : StoreView σ) (key : String) (before after : Connection σ) :
    Phase Document ε → Prop where
  /-- The caller finds the value of the key. -/
  | found {document : Document}
    (read : (before.shelf view key).bind Entry.document? = some document)
    (tickets : after.cache.guards.tickets = before.cache.guards.tickets)
    (computations :
      after.cache.counters.computations = before.cache.counters.computations) :
    TakesOff view key before after (.landed (.ok document))
  /-- The caller owns the lock of the key, and begins its computation. -/
  | begun {ticket : Ticket}
    (unread : (before.shelf view key).bind Entry.document? = none) (own : ticket.key = key)
    (tickets : after.cache.guards.tickets = before.cache.guards.tickets ++ [ticket])
    (owns : after.cache.guards.owns ticket = true)
    (computations :
      after.cache.counters.computations = before.cache.counters.computations + 1) :
    TakesOff view key before after (.computing ticket)
  /-- The caller waits for the lock of the key. -/
  | waits {ticket : Ticket}
    (unread : (before.shelf view key).bind Entry.document? = none) (own : ticket.key = key)
    (tickets : after.cache.guards.tickets = before.cache.guards.tickets ++ [ticket])
    (owns : after.cache.guards.owns ticket = false)
    (computations :
      after.cache.counters.computations = before.cache.counters.computations) :
    TakesOff view key before after (.waiting ticket)

/-- A caller takes off without changing what is live. -/
theorem takeOff_spec (faultless : view.Faultless) (covered : view.Covers connection.store)
    (coherent : connection.cache.guards.Coherent) (computation : Computation Document ε) :
    Stays view connection (takeOff computation connection).2 ∧
      (takeOff computation connection).2.shelf view = connection.shelf view ∧
      view.evictions (takeOff computation connection).2.store =
        view.evictions connection.store ∧
      (takeOff computation connection).2.cache.guards.Coherent ∧
      (takeOff computation connection).1.computation = computation ∧
      TakesOff view computation.key connection (takeOff computation connection).2
        (takeOff computation connection).1.phase := by
  obtain ⟨leaves, kept, answer⟩ := get_leaves faultless covered computation.key
  have alike := quiet_getKey computation.key connection
  rw [takeOff, bind_apply, getAs_document]
  rcases read : get computation.key connection with ⟨_ | document, looked⟩
  · rw [read] at leaves kept answer alike
    obtain ⟨leaves', store, took, own, tickets, counters⟩ := takeTicket_spec leaves.covers
      (alike.guards.symm ▸ coherent) computation.key
    dsimp only
    rw [bind_apply]
    rcases taking : takeTicket computation.key looked with ⟨ticket, taken⟩
    rw [taking] at leaves' store took own tickets counters
    have kept' : view.evictions taken.store = view.evictions connection.store :=
      (congrArg view.evictions store).trans kept
    have shelf : taken.shelf view = connection.shelf view :=
      (leaves.trans leaves').shelf kept'
    have tickets' : taken.cache.guards.tickets = connection.cache.guards.tickets ++ [ticket] := by
      rw [tickets, ← alike.guards]
    have computations : taken.cache.counters.computations =
        connection.cache.counters.computations := by
      rw [counters]
      exact alike.computations
    dsimp only
    rw [bind_apply, get_apply]
    dsimp only
    cases owns : taken.cache.guards.owns ticket with
    | false =>
      exact ⟨leaves.toStays.trans leaves'.toStays, shelf, kept', took, rfl,
        .waits answer.symm own tickets' owns computations⟩
    | true =>
      -- What is live has not changed since the first look, so the second one finds nothing.
      obtain ⟨missed, leaves'', kept'', guards, computed⟩ :=
        lookAgain_missed faultless leaves'.covers
          ((congrArg (fun shelf : Shelf => (shelf computation.key).bind Entry.document?)
            shelf).trans answer.symm)
      rw [if_pos rfl, bind_apply]
      rcases looking : lookAgain Document computation.key taken with ⟨found, last⟩
      rw [looking] at missed leaves'' kept'' guards computed
      obtain rfl := missed
      exact ⟨(leaves.toStays.trans leaves'.toStays).trans leaves''.toStays,
        (leaves''.shelf kept'').trans shelf, kept''.trans kept', guards.symm ▸ took, rfl,
        .begun answer.symm own ((congrArg Guards.tickets guards).trans tickets')
          (guards.symm ▸ owns) (computed.trans (congrArg (· + 1) computations))⟩
  · rw [read] at leaves kept answer alike
    exact ⟨leaves.toStays, leaves.shelf kept, kept, alike.guards.symm ▸ coherent, rfl,
      .found answer.symm (congrArg Guards.tickets alike.guards) alike.computations⟩

/-! ## Landing -/

omit [BackingStore σ] in
/-- An entry is kept in the same way as long as everything stays. -/
theorem Stays.keptOf [Libraries] {before after : Connection σ} (stays : Stays view before after) :
    (after.keptOf : Computation Document ε → Option Entry → Option Entry) = before.keptOf := by
  funext computation held?
  rw [Connection.keptOf, Connection.keptOf, stays.entryOf]

omit [BackingStore σ] in
/-- A caller comes to the same in its turn as long as everything stays. -/
theorem Stays.turn [Libraries] {before after : Connection σ} (stays : Stays view before after) :
    (Flight.turn after : Nat → Flight Document ε → Progress → Except ε Document × Progress) =
      Flight.turn before := by
  funext place flight progress
  rw [Flight.turn, Flight.turn, stays.keptOf]

/-- Ending a computation writes what it came to and gives its ticket back. -/
theorem keep_giveBack [Libraries] (faultless : view.Faultless)
    (covered : view.Covers connection.store)
    (clock : connection.now < lastWord) (computation : Computation Document ε)
    (ticket : Ticket) :
    Leaves view (fun shelf => Function.update shelf computation.key
        (connection.keptOf computation (shelf computation.key))) connection
        (giveBack ticket (keep computation connection).2).2 ∧
      (giveBack ticket (keep computation connection).2).2.cache.guards =
        connection.cache.guards.giveBack ticket ∧
      (giveBack ticket (keep computation connection).2).2.cache.counters.computations =
        connection.cache.counters.computations := by
  have leaves := keep_leaves faultless covered clock computation
  have alike := quiet_keep computation connection
  exact ⟨leaves.besides _ _, congrArg (Guards.giveBack · ticket) alike.guards,
    alike.computations⟩

/-- A caller that can go on comes to what it comes to in its turn, and gives its ticket back. -/
theorem land_spec [Libraries] (faultless : view.Faultless) (covered : view.Covers connection.store)
    (clock : connection.now < lastWord) {flight : Flight Document ε} {ticket : Ticket}
    (held : flight.ticket? = some ticket) (place : Nat) (ran : List Nat) :
    let turned := flight.turn connection place
      ⟨connection.shelf view flight.computation.key, ran⟩
    let landing := (land flight connection).1
    let after := (land flight connection).2
    landing.1 = { flight with phase := .landed turned.1 } ∧
      landing.2.1 = some ticket.lock ∧
      turned.2.ran = ran ++ (if landing.2.2 then [place] else []) ∧
      Leaves view (fun shelf => Function.update shelf flight.computation.key turned.2.held?)
        connection after ∧
      after.cache.guards = connection.cache.guards.giveBack ticket ∧
      after.cache.counters.computations =
        connection.cache.counters.computations + if landing.2.2 then 1 else 0 := by
  obtain ⟨computation, phase⟩ := flight
  cases phase with
  | landed result => exact absurd held (by simp [Flight.ticket?])
  | computing own =>
    obtain rfl : own = ticket := Option.some.inj held
    obtain ⟨leaves, guards, computations⟩ :=
      keep_giveBack faultless covered clock computation own
    exact ⟨rfl, rfl, (List.append_nil ran).symm, ⟨leaves.toStays, leaves.shelf⟩, guards,
      computations⟩
  | waiting own =>
    obtain rfl : own = ticket := Option.some.inj held
    cases read : (connection.shelf view computation.key).bind Entry.document? with
    | some document =>
      obtain ⟨leaves, kept, -⟩ := get_leaves faultless covered computation.key
      have alike := quiet_getKey computation.key connection
      have looked := lookAgain_found faultless covered read
      have went : land ⟨computation, .waiting own⟩ connection =
          ((⟨computation, .landed (.ok document)⟩, some own.lock, false),
            (giveBack own (get computation.key connection).2).2) := by
        simp only [land, goOn, bind_apply, looked]
        rfl
      have turned : Flight.turn connection place ⟨computation, .waiting own⟩
          ⟨connection.shelf view computation.key, ran⟩ =
            (.ok document, ⟨connection.shelf view computation.key, ran⟩) := by
        simp only [Flight.turn, read]
      simp only [turned, went, Bool.false_eq_true, ↓reduceIte, List.append_nil, Nat.add_zero,
        true_and]
      refine ⟨⟨(leaves.besides _ _).toStays, fun _ => ?_⟩,
        congrArg (Guards.giveBack · own) alike.guards, alike.computations⟩
      rw [Function.update_eq_self]
      exact leaves.shelf kept
    | none =>
      obtain ⟨missed, leaves, kept, guards, computed⟩ :=
        lookAgain_missed faultless covered read
      rcases looking : lookAgain Document computation.key connection with ⟨found, looked⟩
      rw [looking] at missed leaves kept guards computed
      obtain rfl := missed
      obtain ⟨leaves', guards', computations⟩ := keep_giveBack faultless leaves.covers
        (leaves.now.symm ▸ clock) computation own
      have went : land ⟨computation, .waiting own⟩ connection =
          ((⟨computation, .landed computation.outcome⟩, some own.lock, true),
            (giveBack own (keep computation looked).2).2) := by
        simp only [land, goOn, bind_apply, looking]
        rfl
      have turned : Flight.turn connection place ⟨computation, .waiting own⟩
          ⟨connection.shelf view computation.key, ran⟩ =
            (computation.outcome, ⟨connection.keptOf computation
              (connection.shelf view computation.key), ran ++ [place]⟩) := by
        simp only [Flight.turn, read]
      simp only [turned, went, ↓reduceIte, true_and]
      refine ⟨⟨leaves.toStays.trans leaves'.toStays, fun keptBoth => ?_⟩,
        guards'.trans (congrArg (Guards.giveBack · own) guards), computations.trans computed⟩
      rw [leaves'.shelf (keptBoth.trans kept.symm), leaves.shelf kept, leaves.toStays.keptOf]
      rfl

end Connection

end FailOpenCache
