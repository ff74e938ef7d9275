import FailOpenCache.Cache.Concurrency
import FailOpenCache.Proofs.Cache.Alterations

/-!
# What computations do under a key

A computation is written under its key only when nothing was found there that has the shape of its
values. A caller that starts writes nothing, so as long as the key of a computation holds such a
value the caller has its result at once, and only the callers that found nothing write when they
come to theirs.
-/

namespace FailOpenCache

/-- What a computation that is written does under a key is within a licence. -/
structure Computation.Within {α ε : Type} (computation : Computation α ε)
    (declared : Capabilities) (licence : Licence) (key : String) : Prop where
  /-- An entry may be written under its key. -/
  write : computation.key = key → licence.write
  /-- The records of its tags may be changed. -/
  enlist : key ∈ computation.tags.map Key.ofTag → declared.KeepsTogether → licence.enlist

/-- A caller has its result, or what it still may write is within a licence. -/
def Flight.Within {α ε : Type} (flight : Flight α ε) (declared : Capabilities)
    (licence : Licence) (key : String) : Prop :=
  (∃ result, flight.phase = .landed result) ∨ flight.computation.Within declared licence key

namespace Connection

variable {α ε : Type} [Storable α] {declared : Capabilities} {key : String} {licence : Licence}
  {connection : Connection (ObservedStore MemoryStore)}

/-! ## What is found under a key -/

variable [Libraries]

/-- What a reader of a shape finds in what is live under a key. -/
def found (α : Type) [Storable α] (connection : Connection (ObservedStore MemoryStore))
    (key : String) : Option α :=
  ((connection.contents key).value.bind Entry.document?).bind Storable.read?

/-- Without faults a read answers the document of the live value. -/
theorem get_fst_contents (unplanned : connection.store.plans = []) (key : String) :
    (Connection.get key connection).1 =
      (connection.contents key).value.bind Entry.document? := by
  have covered : (StoreView.ofMemory.behind).Covers connection.store :=
    ⟨trivial, unplanned, fun _ => rfl, fun _ => rfl⟩
  obtain ⟨-, -, answer⟩ := get_leaves StoreView.faultless_ofMemory.behind covered key
  have shelf : connection.shelf StoreView.ofMemory.behind key =
      (connection.contents key).value := by
    have same : BackingStore.capabilities connection.store = connection.store.declared := rfl
    rw [Connection.shelf, contents, same]
    split
    · rfl
    · rfl
  rw [answer, shelf]

/-- Without faults a read of a shape answers what is found. -/
theorem getAs_fst (unplanned : connection.store.plans = []) (key : String) :
    (getAs α key connection).1 = connection.found α key := by
  rw [getAs, bind_apply, get_fst_contents unplanned]
  rfl

/-! ## One caller -/

/-- A look for a value behind its lock. -/
theorem alters_lookAgain (other : String) :
    Alters declared key licence (lookAgain α other) := by
  refine alters_bind (alters_getAs other) fun found => ?_
  cases found with
  | some value => exact alters_pure _
  | none => exact alters_bind (alters_count _) fun _ => alters_pure _

/-- A write of what a computation came to. -/
theorem alters_keep {computation : Computation α ε}
    (within : computation.Within declared licence key) :
    Alters declared key licence (keep computation) := by
  rw [keep]
  cases computation.outcome with
  | error error => exact alters_pure _
  | ok value =>
    exact alters_ite (alters_set fun here _ => within.write here)
      (alters_setTagged (fun here _ => within.write here) within.enlist)

/-- What is done behind a lock. -/
theorem alters_goOn {computation : Computation α ε}
    (within : computation.Within declared licence key) (ticket : Ticket) :
    Alters declared key licence (goOn computation ticket) := by
  refine alters_bind (alters_lookAgain _) fun found => ?_
  cases found with
  | some value => exact alters_bind (alters_giveBack _) fun _ => alters_pure _
  | none =>
    exact alters_bind (alters_keep within) fun _ =>
      alters_bind (alters_giveBack _) fun _ => alters_pure _

/-- A computation that is given up. -/
theorem alters_computeAbandoned (other : String) :
    Alters declared key licence (computeAbandoned α other) := by
  refine alters_bind (alters_getAs other) fun found => ?_
  cases found with
  | some value => exact alters_pure _
  | none =>
    exact alters_bind (alters_takeTicket _) fun _ => alters_bind (alters_lookAgain _)
      fun _ => alters_bind (alters_giveBack _) fun _ => alters_pure _

/-- A computed value, which is written only if nothing is found under its key. -/
theorem altered_compute {computation : Computation α ε}
    (write : computation.key = key → connection.found α key = none → licence.write)
    (enlist : key ∈ computation.tags.map Key.ofTag → connection.store.declared.KeepsTogether →
      licence.enlist) :
    Altered licence key connection (compute computation connection).2 := by
  have asks : OnlyAsks (compute computation :
      StateM (Connection (ObservedStore MemoryStore)) (Computed α ε)) :=
    onlyAsks_compute computation
  have read : Altered licence key connection (getAs α computation.key connection).2 :=
    alters_getAs computation.key connection rfl
  refine ⟨asks.led connection, asks.still connection, fun unplanned kept => ?_⟩
  have answer := @getAs_fst α _ connection _ unplanned computation.key
  rw [compute, bind_apply] at kept ⊢
  generalize getAs α computation.key connection = looked at read answer kept ⊢
  rcases looked with ⟨_ | value, left⟩
  · have within : computation.Within connection.store.declared licence key :=
      ⟨fun here => write here (here ▸ answer.symm), enlist⟩
    have went : Alters connection.store.declared key licence
        (do let ticket ← takeTicket computation.key; goOn computation ticket) :=
      alters_bind (alters_takeTicket _) fun _ => alters_goOn within _
    exact (read.trans (went left read.led.behind.2.1)).moves unplanned kept
  · exact read.moves unplanned kept

/-! ## Several callers -/

/-- A caller that starts writes nothing. -/
theorem alters_takeOff (computation : Computation α ε) :
    Alters declared key licence (takeOff computation) := by
  refine alters_bind (alters_getAs _) fun found => ?_
  cases found with
  | some value => exact alters_pure _
  | none =>
    refine alters_bind (alters_takeTicket _) fun _ => alters_bind alters_look fun _ =>
      alters_ite (alters_bind (alters_lookAgain _) fun found => ?_) (alters_pure _)
    cases found with
    | some value => exact alters_bind (alters_giveBack _) fun _ => alters_pure _
    | none => exact alters_pure _

/-- Callers that start write nothing. -/
theorem alters_takeOffAll (computations : List (Computation α ε)) :
    Alters declared key licence (takeOffAll computations) := by
  induction computations with
  | nil => exact alters_pure _
  | cons computation rest ih =>
    exact alters_bind (alters_takeOff _) fun _ => alters_bind ih fun _ => alters_pure _

/-- A caller that comes to its result writes what its computation came to, if it has none yet. -/
theorem alters_land {flight : Flight α ε} (within : flight.Within declared licence key) :
    Alters declared key licence (land flight) := by
  rw [land]
  rcases within with ⟨result, landed⟩ | within
  · rw [landed]
    exact alters_pure _
  · cases flight.phase with
    | landed result => exact alters_pure _
    | computing ticket =>
      exact alters_bind (alters_keep within) fun _ =>
        alters_bind (alters_giveBack _) fun _ => alters_pure _
    | waiting ticket => exact alters_bind (alters_goOn within _) fun _ => alters_pure _

/-- A caller that comes to its result has it. -/
theorem land_landed (flight : Flight α ε) (connection : Connection (ObservedStore MemoryStore)) :
    ∃ result, (land flight connection).1.1.phase = .landed result := by
  rw [land]
  cases phase : flight.phase with
  | landed result => exact ⟨result, phase⟩
  | computing ticket => exact ⟨_, rfl⟩
  | waiting ticket => exact ⟨_, rfl⟩

/-- Callers that come to their results write what their computations came to. -/
theorem alters_landAll (turns : Nat) {schedule : Schedule} {ready : List Nat}
    {landing : Landing α ε}
    (within : ∀ flight ∈ landing.flights, flight.Within declared licence key) :
    Alters declared key licence (landAll schedule ready landing turns) := by
  induction turns generalizing schedule ready landing with
  | zero => exact alters_pure _
  | succ turns ih =>
    rw [landAll]
    cases takeTurn? (schedule.headD 0) ready with
    | none => exact alters_pure _
    | some turn =>
      dsimp only
      cases held : landing.flights[turn.1]? with
      | none => exact ih within
      | some flight =>
        intro connection groups
        have landed := alters_land (within flight (List.mem_of_getElem? held)) connection groups
        have final := land_landed flight connection
        dsimp only
        rw [bind_apply]
        generalize land flight connection = result at landed final ⊢
        obtain ⟨⟨last, lock, ran⟩, left⟩ := result
        refine landed.trans (ih ?_ left (landed.led.behind.2.1.trans groups))
        intro other inside
        rcases List.mem_or_eq_of_mem_set inside with before | rfl
        · exact within other before
        · exact .inl final

/-- What a caller that starts still may write is within a licence: it has its result if something is
found under its key. -/
theorem takeOff_within {computation : Computation α ε} (unplanned : connection.store.plans = [])
    (write : computation.key = key → connection.found α key = none → licence.write)
    (enlist : key ∈ computation.tags.map Key.ofTag → declared.KeepsTogether → licence.enlist) :
    (takeOff computation connection).1.Within declared licence key := by
  have answer := @getAs_fst α _ connection _ unplanned computation.key
  rw [takeOff, bind_apply]
  generalize getAs α computation.key connection = looked at answer ⊢
  rcases looked with ⟨_ | value, left⟩
  · have within : computation.Within declared licence key :=
      ⟨fun here => write here (here ▸ answer.symm), enlist⟩
    dsimp only
    rw [bind_apply, bind_apply, get_apply, ite_apply]
    dsimp only
    split
    · rw [bind_apply]
      cases (lookAgain α computation.key (takeTicket computation.key left).2).1 with
      | some value => exact .inl ⟨_, rfl⟩
      | none => exact .inr within
    · exact .inr within
  · exact .inl ⟨_, rfl⟩

/-- What callers that start still may write is within a licence. -/
theorem takeOffAll_within {computations : List (Computation α ε)}
    (unplanned : connection.store.plans = [])
    (kept : (takeOffAll computations connection).2.store.store.evictions =
      connection.store.store.evictions)
    (write : (∃ computation ∈ computations, computation.key = key) →
      connection.found α key = none → licence.write)
    (enlist : ∀ computation ∈ computations, key ∈ computation.tags.map Key.ofTag →
      declared.KeepsTogether → licence.enlist) :
    ∀ flight ∈ (takeOffAll computations connection).1, flight.Within declared licence key := by
  induction computations generalizing connection with
  | nil => exact fun flight held => absurd held List.not_mem_nil
  | cons computation rest ih =>
    have first : (takeOff computation connection).1.Within declared licence key :=
      takeOff_within unplanned (fun here => write ⟨computation, List.mem_cons_self, here⟩)
        (enlist computation List.mem_cons_self)
    have start : Altered .none key connection (takeOff computation connection).2 :=
      alters_takeOff computation connection rfl
    have counted := start.led.behind.1.evictions_le
    rw [takeOffAll, bind_apply] at kept ⊢
    generalize takeOff computation connection = started at kept first start counted ⊢
    obtain ⟨flight, left⟩ := started
    have rested : Altered .none key left (takeOffAll rest left).2 :=
      alters_takeOffAll rest left rfl
    have later := rested.led.behind.1.evictions_le
    have keptFirst := Nat.le_antisymm (kept ▸ later) counted
    -- Nothing is written by the first caller, so the others find what it found.
    have same : left.found α key = connection.found α key := by
      rw [found, found, (start.moves unplanned keptFirst).value_eq id id]
    intro other held
    rcases List.mem_cons.1 held with rfl | inside
    · exact first
    · refine ih (start.led.behind.2.2.trans unplanned) (kept.trans keptFirst.symm) ?_
        (fun computation held => enlist computation (List.mem_cons_of_mem _ held)) other inside
      rintro ⟨later, held, here⟩ nothing
      exact write ⟨later, List.mem_cons_of_mem _ held, here⟩ (same ▸ nothing)

/-- Callers that ask for computed values at once write under a key only if nothing is found
there. -/
theorem altered_computeAll (schedule : Schedule) {computations : List (Computation α ε)}
    (write : (∃ computation ∈ computations, computation.key = key) →
      connection.found α key = none → licence.write)
    (enlist : ∀ computation ∈ computations, key ∈ computation.tags.map Key.ofTag →
      connection.store.declared.KeepsTogether → licence.enlist) :
    Altered licence key connection (computeAll schedule computations connection).2 := by
  have asks : OnlyAsks (computeAll schedule computations :
      StateM (Connection (ObservedStore MemoryStore)) (Landing α ε)) :=
    onlyAsks_computeAll schedule computations
  have started : Altered licence key connection (takeOffAll computations connection).2 :=
    alters_takeOffAll computations connection rfl
  refine ⟨asks.led connection, asks.still connection, fun unplanned kept => ?_⟩
  have counted := started.led.behind.1.evictions_le
  have later := ((onlyAsks_landAll schedule
    (computingPlaces (takeOffAll computations connection).1)
    ⟨(takeOffAll computations connection).1, computingPlaces (takeOffAll computations connection).1⟩
    (takeOffAll computations connection).1.length).led
      (takeOffAll computations connection).2).behind.1.evictions_le
  have keptFirst := Nat.le_antisymm (kept ▸ later) counted
  have within := takeOffAll_within unplanned keptFirst write enlist
  exact (started.trans (alters_landAll _ within _ started.led.behind.2.1)).moves unplanned kept

end Connection

end FailOpenCache
