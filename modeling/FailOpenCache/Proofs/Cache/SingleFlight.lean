import FailOpenCache.Libraries.Plain
import FailOpenCache.Proofs.Cache.Landings
import Mathlib.Data.Option.Basic

/-!
# Single flight

Callers that ask for the value of a key at once take turns. The first computations fail, each with
its own error, until one succeeds; its value is written, and whoever comes after it is handed what
is read back. So the callers share one flight exactly when the value that they share is read back as
itself, or nobody is left to share it.
-/

namespace FailOpenCache

variable {α ε : Type}

/-- What computations of a key come to, the oldest first. -/
def outcomesOf (key : String) (callers : List (Computation α ε)) : List (Except ε α) :=
  (callersOf key callers).map fun caller => caller.1.outcome

/-- The results of the callers of a key, the oldest first. -/
def resultsOf (key : String) (flights : List (Flight α ε)) : List (Option (Except ε α)) :=
  (flights.filter fun flight => flight.computation.key = key).map Flight.result?

/-- What callers get that share one flight: each its own error, up to the first success, and all
others the value of that. -/
def shared : List (Except ε α) → List (Except ε α)
  | [] => []
  | .error fault :: rest => .error fault :: shared rest
  | .ok value :: rest => .ok value :: rest.map fun _ => .ok value

/-- What callers of a key get one after the other: each is handed the document that is found, and
where none is, its computation runs, and what its document is read back as is found by the next. -/
def served : Option Document → List (Except ε Document) → List (Computed Document ε)
  | _, [] => []
  | some found, _ :: rest => ⟨.ok found, false⟩ :: served (some found) rest
  | none, .error fault :: rest => ⟨.error fault, true⟩ :: served none rest
  | none, .ok document :: rest => ⟨.ok document, true⟩ :: served document.reread? rest

/-- The first success lasts: its document is read back as itself, or nobody comes after it. -/
def Lasts (outcomes : List (Except ε Document)) : Prop :=
  ∀ document later, outcomes.dropWhile (fun outcome => !outcome.isOk) = .ok document :: later →
    later = [] ∨ document.reread? = some document

/-- The places of the computations that run, of those that callers have. -/
def ranOf (places : List Nat) (computed : List (Computed Document ε)) : List Nat :=
  ((places.zip computed).filter fun caller => caller.2.ran).map Prod.fst

/-- A first success lasts exactly when its document nests at most 127 containers and holds only
binary numbers that survive their texts, or nobody comes after it. -/
theorem lasts_iff {outcomes : List (Except ε Document)} :
    Lasts outcomes ↔ ∀ document later,
      outcomes.dropWhile (fun outcome => !outcome.isOk) = .ok document :: later →
        later = [] ∨ document.depth ≤ Document.depthLimit ∧ document.RealsSurvive := by
  simp only [Lasts, Document.reread?_eq_self_iff]

/-- Callers that are handed a document run nothing. -/
theorem served_found (document : Document) (outcomes : List (Except ε Document)) :
    served (some document) outcomes = outcomes.map fun _ => ⟨.ok document, false⟩ := by
  induction outcomes with
  | nil => rfl
  | cons outcome rest ih =>
    rw [served, ih, List.map_cons]

/-- Callers that are handed a document run at no place. -/
theorem ranOf_found (document : Document) (outcomes : List (Except ε Document))
    (places : List Nat) : ranOf places (served (some document) outcomes) = [] := by
  rw [served_found, ranOf, List.map_eq_nil_iff, List.filter_eq_nil_iff]
  intro caller inside
  obtain ⟨outcome, -, handed⟩ := List.mem_map.1 (List.of_mem_zip inside).2
  rw [← handed]
  exact Bool.false_ne_true

/-- Callers that are served one after the other share one flight exactly when its value lasts. -/
theorem served_eq_shared_iff {outcomes : List (Except ε Document)} {places : List Nat}
    (fits : places.length = outcomes.length) :
    ((served none outcomes).map Computed.result = shared outcomes ∧
        ranOf places (served none outcomes) =
          places.take (outcomes.findIdx Except.isOk + 1)) ↔ Lasts outcomes := by
  induction outcomes generalizing places with
  | nil =>
    obtain rfl := List.eq_nil_of_length_eq_zero fits
    exact ⟨fun _ _ _ nobody => absurd nobody (List.cons_ne_nil _ _).symm, fun _ => ⟨rfl, rfl⟩⟩
  | cons outcome rest ih =>
    obtain ⟨place, places, rfl⟩ := List.exists_cons_of_length_eq_add_one fits
    have fits' := Nat.succ.inj fits
    cases outcome with
    | error fault =>
      have passed : Lasts (.error fault :: rest) ↔ Lasts rest := by
        simp [Lasts, Except.isOk, Except.toBool]
      rw [passed, ← ih fits']
      simp [served, shared, ranOf, List.findIdx_cons, Except.isOk, Except.toBool]
    | ok document =>
      have first : Lasts (.ok document :: rest) ↔
          rest = [] ∨ document.reread? = some document := by
        simp [Lasts, Except.isOk, Except.toBool]
      have ran : (place :: places).take
          ((.ok document :: rest : List (Except ε Document)).findIdx Except.isOk + 1) =
            [place] := by
        simp [List.findIdx_cons, Except.isOk, Except.toBool]
      have results : (served none (.ok document :: rest)).map Computed.result =
          .ok document :: (served document.reread? rest).map Computed.result := rfl
      have began : ranOf (place :: places) (served none (.ok document :: rest)) =
          place :: ranOf places (served document.reread? rest) := rfl
      rw [first, ran, results, began, shared]
      cases rest with
      | nil => simp [served, ranOf]
      | cons next later =>
        cases read : document.reread? with
        | some found =>
          rw [ranOf_found, served_found]
          simp only [List.map_map, List.cons.injEq, true_and, and_true, reduceCtorEq, false_or,
            Option.some.injEq]
          refine ⟨fun same => Except.ok.inj (List.cons.inj same).1, ?_⟩
          rintro rfl
          rfl
        | none =>
          -- The next computation runs, though one has succeeded.
          obtain ⟨place', places', rfl⟩ := List.exists_cons_of_length_eq_add_one fits'
          cases next <;> simp [served, ranOf]

namespace Connection

section

variable [Libraries] {σ : Type} {connection : Connection σ}

/-- What the callers of one key come to in their turns, and what these make of the key. -/
def takeTurns (connection : Connection σ) :
    List (Computation Document ε × Nat) → Progress → List (Except ε Document) × Progress
  | [], progress => ([], progress)
  | (computation, place) :: rest, progress =>
    let turned := (standBy computation).turn connection place progress
    let later := takeTurns connection rest turned.2
    (turned.1 :: later.1, later.2)

/-- Each key sees the turns of its own callers. -/
theorem inTurn_key (connection : Connection σ) (key : String)
    (callers : List (Computation Document ε)) (place : Nat)
    (course : String → Progress) :
    let come := Flight.inTurn connection place (callers.map standBy) course
    let turns := takeTurns connection
      ((callers.zipIdx place).filter fun caller => caller.1.key = key) (course key)
    ((callers.zip come.1).filter fun caller => caller.1.key = key).map Prod.snd = turns.1 ∧
      come.2 key = turns.2 := by
  induction callers generalizing place course with
  | nil => exact ⟨rfl, rfl⟩
  | cons caller rest ih =>
    have later := ih (place + 1) (Function.update course caller.key
      ((standBy caller).turn connection place (course caller.key)).2)
    by_cases same : caller.key = key
    · subst same
      rw [Function.update_self] at later
      simp only [List.map_cons, Flight.inTurn, List.zip_cons_cons, List.zipIdx_cons,
        decide_true, List.filter_cons_of_pos, takeTurns]
      exact ⟨congrArg _ later.1, later.2⟩
    · rw [Function.update_of_ne (Ne.symm same)] at later
      simp only [List.map_cons, Flight.inTurn, List.zip_cons_cons, List.zipIdx_cons, same,
        decide_false, Bool.false_eq_true, not_false_eq_true, List.filter_cons_of_neg]
      exact later

/-- With a document to be found, a caller is handed it in its turn. -/
theorem turn_found {progress : Progress} {document : Document}
    (found : progress.held?.bind Entry.document? = some document)
    (computation : Computation Document ε) (place : Nat) :
    (standBy computation).turn connection place progress = (.ok document, progress) := by
  simp only [Flight.turn, standBy, found]

/-- With no document to be found, a caller's computation runs in its turn. -/
theorem turn_unread {progress : Progress}
    (unread : progress.held?.bind Entry.document? = none)
    (computation : Computation Document ε) (place : Nat) :
    (standBy computation).turn connection place progress =
      (computation.outcome,
        ⟨connection.keptOf computation progress.held?, progress.ran ++ [place]⟩) := by
  simp only [Flight.turn, standBy, unread]

/-- With a document to be found, all callers are handed it. -/
theorem takeTurns_found {progress : Progress} {document : Document}
    (found : progress.held?.bind Entry.document? = some document)
    (callers : List (Computation Document ε × Nat)) :
    takeTurns connection callers progress = (callers.map fun _ => .ok document, progress) := by
  induction callers with
  | nil => rfl
  | cons caller rest ih =>
    simp only [takeTurns, turn_found found, ih, List.map_cons]

/-- The callers of a key are served one after the other. -/
theorem takeTurns_served (connection : Connection σ)
    (callers : List (Computation Document ε × Nat)) (progress : Progress)
    (formed : ∀ caller ∈ callers, ∀ document, caller.1.outcome = .ok document →
      document.WellFormed) :
    let computed := served (progress.held?.bind Entry.document?)
      (callers.map fun caller => caller.1.outcome)
    (takeTurns connection callers progress).1 = computed.map Computed.result ∧
      (takeTurns connection callers progress).2.ran =
        progress.ran ++ ranOf (callers.map Prod.snd) computed := by
  induction callers generalizing progress with
  | nil => exact ⟨rfl, (List.append_nil _).symm⟩
  | cons caller rest ih =>
    have later := fun progress => ih progress fun other inside =>
      formed other (List.mem_cons_of_mem _ inside)
    cases found : progress.held?.bind Entry.document? with
    | some document =>
      have handed := later progress
      rw [found] at handed
      simp only [takeTurns, turn_found found, List.map_cons, served, ranOf, List.zip_cons_cons,
        Bool.false_eq_true, not_false_eq_true, List.filter_cons_of_neg]
      exact ⟨congrArg _ handed.1, handed.2⟩
    | none =>
      obtain ⟨computation, place⟩ := caller
      have next := later ⟨connection.keptOf computation progress.held?,
        progress.ran ++ [place]⟩
      simp only [takeTurns, turn_unread found, List.map_cons]
      cases outcome : computation.outcome with
      | error fault =>
        simp only [keptOf, outcome, found] at next
        simp only [served, ranOf, List.zip_cons_cons, List.filter_cons_of_pos, List.map_cons,
          keptOf, outcome]
        refine ⟨congrArg _ next.1, ?_⟩
        rw [next.2, ranOf, List.append_assoc]
        rfl
      | ok document =>
        have read := document?_entryOf (formed _ List.mem_cons_self document outcome) connection
          computation.key computation.stated
        simp only [keptOf, outcome, Option.bind_some, read] at next
        simp only [served, ranOf, List.zip_cons_cons, List.filter_cons_of_pos, List.map_cons,
          keptOf, outcome]
        refine ⟨congrArg _ next.1, ?_⟩
        rw [next.2, ranOf, List.append_assoc]
        rfl

/-- When the first success lasts, what is left is its entry; without a success nothing changes. -/
theorem takeTurns_left (connection : Connection σ)
    (callers : List (Computation Document ε × Nat)) {progress : Progress}
    (formed : ∀ caller ∈ callers, ∀ document, caller.1.outcome = .ok document →
      document.WellFormed)
    (unread : progress.held?.bind Entry.document? = none)
    (lasts : Lasts (callers.map fun caller => caller.1.outcome)) :
    (takeTurns connection callers progress).2.held? =
      (callers.find? fun caller => caller.1.outcome.isOk).elim progress.held? fun winner =>
        connection.keptOf winner.1 none := by
  induction callers generalizing progress with
  | nil => rfl
  | cons caller rest ih =>
    obtain ⟨computation, place⟩ := caller
    simp only [takeTurns, turn_unread unread]
    cases outcome : computation.outcome with
    | error fault =>
      have kept : connection.keptOf computation progress.held? = progress.held? := by
        rw [keptOf, outcome]
      have later : Lasts (rest.map fun caller => caller.1.outcome) := by
        simp only [Lasts, List.map_cons, outcome, Except.isOk, Except.toBool, Bool.not_false,
          List.dropWhile_cons_of_pos] at lasts
        exact lasts
      have left := @ih ⟨progress.held?, progress.ran ++ [place]⟩
        (fun other inside => formed other (List.mem_cons_of_mem _ inside)) unread later
      rw [kept, left]
      simp [outcome, Except.isOk, Except.toBool]
    | ok document =>
      have kept : connection.keptOf computation progress.held? =
          connection.keptOf computation none := by
        rw [keptOf, keptOf, outcome]
      have read : (connection.keptOf computation none).bind Entry.document? =
          document.reread? := by
        rw [keptOf, outcome]
        exact document?_entryOf (formed _ List.mem_cons_self document outcome) connection _ _
      have last : (takeTurns connection rest ⟨connection.keptOf computation none,
          progress.ran ++ [place]⟩).2.held? = connection.keptOf computation none := by
        rcases lasts document (rest.map fun caller => caller.1.outcome)
          (by simp [outcome, Except.isOk, Except.toBool]) with nobody | same
        · rw [List.map_eq_nil_iff.1 nobody]
          rfl
        · rw [takeTurns_found (read.trans same)]
      rw [kept, last]
      simp [outcome, Except.isOk, Except.toBool]

omit [Libraries] in
/-- The places of the callers of a key increase. -/
theorem pairwise_placesOf (key : String) (callers : List (Computation α ε)) :
    (placesOf key callers).Pairwise (· < ·) := by
  have all : (callers.zipIdx.map Prod.snd).Pairwise (· < ·) := by
    rw [List.zipIdx_map_snd]
    exact List.pairwise_lt_range'
  exact all.sublist (List.filter_sublist.map _)

omit [Libraries] in
/-- The results of the callers of a key are those that the callers come to. -/
theorem resultsOf_eq (key : String) {flights : List (Flight α ε)} {come : List (Except ε α)}
    (same : come.map some = flights.map Flight.result?) :
    resultsOf key flights =
      ((((flights.map Flight.computation).zip come).filter fun caller =>
        caller.1.key = key).map Prod.snd).map some := by
  induction flights generalizing come with
  | nil => rfl
  | cons flight rest ih =>
    cases come with
    | nil => exact absurd same (by simp)
    | cons result later =>
      obtain ⟨first, others⟩ := List.cons.inj same
      have handed := ih others
      rw [resultsOf] at handed ⊢
      by_cases own : flight.computation.key = key
      · simp [own, handed, ← first]
      · simp [own, handed]

variable [BackingStore σ] {view : StoreView σ}

omit [Libraries] in
/-- When all callers have taken off, exactly the first caller of a key without a value has begun its
computation. -/
theorem TakenOff.begun_first {start : Connection σ} {callers : List (Computation Document ε)}
    {flights : List (Flight Document ε)} (taken : TakenOff view start flights connection)
    (all : flights.map Flight.computation = callers) {key : String}
    (unread : (start.shelf view key).bind Entry.document? = none) :
    (computingPlaces flights).filter (fun place => place ∈ placesOf key callers) =
      (placesOf key callers).take 1 := by
  have ready := (taken.underway all).ready
  have distinct := (taken.underway all).distinct
  have caller : ∀ {place}, place ∈ placesOf key callers ↔
      ∃ flight, flights[place]? = some flight ∧ flight.computation.key = key := by
    intro place
    rw [mem_placesOf_iff, ← all, List.getElem?_map]
    cases flights[place]? <;> simp
  cases places : placesOf key callers with
  | nil => simp
  | cons first rest =>
    have sorted := pairwise_placesOf key callers
    rw [places, List.pairwise_cons] at sorted
    obtain ⟨flight, present, own⟩ := caller.1 (places ▸ List.mem_cons_self : first ∈ _)
    have aloft : flight.ticket? ≠ none := by
      rw [taken.unread flight (List.mem_of_getElem? present), own, taken.shelf]
      exact unread
    obtain ⟨ticket, held⟩ := Option.ne_none_iff_exists'.1 aloft
    have able : CanGoOn connection.cache.guards flights first := by
      refine taken.aloft.first_canGoOn present held fun place other present' same => ?_
      have inside : place ∈ placesOf key callers := caller.2 ⟨other, present', same.trans own⟩
      rw [places] at inside
      rcases List.mem_cons.1 inside with rfl | later
      · exact Nat.le_refl _
      · exact Nat.le_of_lt (sorted.1 place later)
    rw [List.take_succ_cons, List.take_zero, ← List.perm_singleton, ← places]
    refine (List.perm_ext_iff_of_nodup (distinct.filter _) (List.pairwise_singleton _ _)).2
      fun place => ?_
    rw [List.mem_filter, decide_eq_true_eq, List.mem_singleton]
    constructor
    · rintro ⟨computing, inside⟩
      obtain ⟨other, present', own'⟩ := caller.1 inside
      exact taken.aloft.canGoOn_unique present' present ((ready place).1 computing) able
        (own'.trans own.symm)
    · rintro rfl
      exact ⟨(ready place).2 able, caller.2 ⟨flight, present, own⟩⟩

/-- The callers of a key share one flight: their computations run in the order of arrival up to the
first that succeeds, each failure is handed to its own caller and the value of the success to that
caller and all behind it, and the value is what is left of the key. -/
structure SharesFlight (view : StoreView σ) (key : String)
    (callers : List (Computation Document ε)) (before after : Connection σ)
    (landing : Landing Document ε) : Prop where
  /-- The computations run in the order of arrival, up to the first that succeeds. -/
  ran : landing.ran.filter (fun place => place ∈ placesOf key callers) =
    (placesOf key callers).take ((outcomesOf key callers).findIdx Except.isOk + 1)
  /-- Failures are handed to their own callers, the value of the success to all others. -/
  results : resultsOf key landing.flights = (shared (outcomesOf key callers)).map some
  /-- The entry of the success is left, or nothing has changed if there is none. -/
  left : after.shelf view key =
    ((callersOf key callers).find? fun caller => caller.1.outcome.isOk).elim
      (before.shelf view key) fun winner => before.keptOf winner.1 none

/-- Callers that are served one after the other share one flight exactly when its value lasts. -/
theorem sharesFlight_iff {callers : List (Computation Document ε)} {key : String}
    {after : Connection σ} {landing : Landing Document ε}
    (results : resultsOf key landing.flights =
      (served none (outcomesOf key callers)).map fun computed => some computed.result)
    (ran : landing.ran.filter (fun place => place ∈ placesOf key callers) =
      ranOf (placesOf key callers) (served none (outcomesOf key callers)))
    (left : Lasts (outcomesOf key callers) → after.shelf view key =
      ((callersOf key callers).find? fun caller => caller.1.outcome.isOk).elim
        (connection.shelf view key) fun winner => connection.keptOf winner.1 none) :
    SharesFlight view key callers connection after landing ↔ Lasts (outcomesOf key callers) := by
  have fits : (placesOf key callers).length = (outcomesOf key callers).length := by
    rw [placesOf, outcomesOf, List.length_map, List.length_map]
  constructor
  · intro shares
    refine (served_eq_shared_iff fits).1 ⟨?_, ran.symm.trans shares.ran⟩
    refine List.map_injective_iff.2 (Option.some_injective _) ?_
    rw [← shares.results, results, List.map_map]
    rfl
  · intro lasts
    have alike := (served_eq_shared_iff fits).2 lasts
    refine ⟨ran.trans alike.2, ?_, left lasts⟩
    rw [results, ← alike.1, List.map_map]
    rfl

/-- Callers of a key without a value that compute at once are served one after the other, in
whichever order computations end. What is left of the key is the entry of the first success, if that
lasts. -/
theorem computeAll_served (faultless : view.Faultless) (covered : view.Covers connection.store)
    (clock : connection.now < lastWord) (rest : connection.cache.guards.AtRest)
    (schedule : Schedule) (callers : List (Computation Document ε))
    (formed : ∀ caller ∈ callers, ∀ document, caller.outcome = .ok document →
      document.WellFormed)
    (kept : view.evictions (computeAll schedule callers connection).2.store =
      view.evictions connection.store) {key : String}
    (unread : (connection.shelf view key).bind Entry.document? = none) :
    let landing := (computeAll schedule callers connection).1
    let after := (computeAll schedule callers connection).2
    resultsOf key landing.flights =
        (served none (outcomesOf key callers)).map (fun computed => some computed.result) ∧
      landing.ran.filter (fun place => place ∈ placesOf key callers) =
        ranOf (placesOf key callers) (served none (outcomesOf key callers)) ∧
      (Lasts (outcomesOf key callers) → after.shelf view key =
        ((callersOf key callers).find? fun caller => caller.1.outcome.isOk).elim
          (connection.shelf view key) fun winner => connection.keptOf winner.1 none) := by
  obtain ⟨-, all, -, -, -, come⟩ :=
    computeAll_inTurn faultless covered clock rest schedule callers
  obtain ⟨results, course'⟩ := come kept
  intro landing after
  obtain ⟨own, left⟩ := inTurn_key connection key callers 0 (course view callers [] connection)
  have formed' : ∀ caller ∈ callersOf key callers, ∀ document,
      caller.1.outcome = .ok document → document.WellFormed := fun caller inside =>
    formed caller.1 (List.mem_of_getElem? (List.mem_zipIdx_iff_getElem?.1
      (List.mem_filter.1 inside).1))
  obtain ⟨handed, ran⟩ := takeTurns_served connection (callersOf key callers)
    (course view callers [] connection key) formed'
  have found : (course view callers [] connection key).held?.bind Entry.document? = none :=
    unread
  rw [found] at handed ran
  have progress : course view callers landing.ran after key =
      (takeTurns connection (callersOf key callers) (course view callers [] connection key)).2 :=
    (congrFun course' key).symm.trans left
  refine ⟨?_, (congrArg Progress.ran progress).trans ran, fun lasts => ?_⟩
  · refine (resultsOf_eq key results).trans ?_
    rw [all, own]
    exact (congrArg (List.map some) handed).trans (List.map_map ..)
  · exact (congrArg Progress.held? progress).trans
      (takeTurns_left connection (callersOf key callers) formed' found lasts)

/-- Callers that compute at once on a connected cache that evicts nothing all land, in whichever
order their computations end, and each computation is counted. The callers of a key without a value
are served one after the other, as the documents that they keep are read back. They share one flight
exactly when the first success lasts: its document nests at most 127 containers and holds only
binary numbers that survive their texts, or nobody comes after it. -/
theorem computeAll_sharesFlight (faultless : view.Faultless)
    (covered : view.Covers connection.store) (clock : connection.now < lastWord)
    (rest : connection.cache.guards.AtRest) (schedule : Schedule)
    (callers : List (Computation Document ε))
    (formed : ∀ caller ∈ callers, ∀ document, caller.outcome = .ok document →
      document.WellFormed)
    (kept : view.evictions (computeAll schedule callers connection).2.store =
      view.evictions connection.store) :
    let landing := (Session.computeAll schedule callers connection.session).1
    let after := (computeAll schedule callers connection).2
    (Session.computeAll schedule callers connection.session).2 = after.session ∧
      landing.flights.map Flight.computation = callers ∧
      after.cache.counters.computations =
        connection.cache.counters.computations + landing.ran.length ∧
      after.cache.guards.AtRest ∧
      ∀ key, (connection.shelf view key).bind Entry.document? = none →
        (computingPlaces (takeOffAll callers connection).1).filter
            (fun place => place ∈ placesOf key callers) = (placesOf key callers).take 1 ∧
        resultsOf key landing.flights =
          (served none (outcomesOf key callers)).map (fun computed => some computed.result) ∧
        landing.ran.filter (fun place => place ∈ placesOf key callers) =
          ranOf (placesOf key callers) (served none (outcomesOf key callers)) ∧
        (SharesFlight view key callers connection after landing ↔
          ∀ document later, (outcomesOf key callers).dropWhile (fun outcome => !outcome.isOk) =
            .ok document :: later → later = [] ∨
              document.depth ≤ Document.depthLimit ∧ document.RealsSurvive) := by
  obtain ⟨-, all, -, rest', computations, -⟩ :=
    computeAll_inTurn faultless covered clock rest schedule callers
  obtain ⟨taken, takenOff, -⟩ := takeOffAll_spec faultless covered rest callers
  intro landing after
  refine ⟨rfl, all, computations, rest', fun key unread => ?_⟩
  obtain ⟨results, ran, left⟩ :=
    computeAll_served faultless covered clock rest schedule callers formed kept unread
  refine ⟨takenOff.begun_first taken unread, results, ran, ?_⟩
  rw [← lasts_iff]
  exact sharesFlight_iff results ran left

end

open scoped Libraries.Plain

/-- Three callers of one key and one of another, whose computation ends first: the first of the
three fails, and the third shares the value of the second. -/
theorem computeAll_sharesFlight_retried :
    let callers : List (Computation Document String) :=
      [⟨"key", none, [], .error "fault"⟩, ⟨"other", none, [], .ok (.integer 3)⟩,
        ⟨"key", some 1, [], .ok (.integer 1)⟩, ⟨"key", none, [], .ok (.integer 2)⟩]
    let connection := opened .standard (MemoryStore.ofCapacity 9) 7
    let landing := (Session.computeAll [1] callers connection.session).1
    landing.ran.filter (fun place => place ∈ placesOf "key" callers) = [0, 2] ∧
      resultsOf "key" landing.flights =
        [some (.error "fault"), some (.ok (.integer 1)), some (.ok (.integer 1))] := by
  intro callers connection landing
  have formed : ∀ caller ∈ callers, ∀ document, caller.outcome = .ok document →
      document.WellFormed := by
    simp [callers, Document.WellFormed, Document.leastInteger, Document.greatestInteger]
  obtain ⟨-, -, -, -, each⟩ := computeAll_sharesFlight StoreView.faultless_ofMemory trivial
    (by decide : connection.now < lastWord) (Guards.atRest_ofBound _) [1] callers formed
    (by decide +kernel)
  obtain ⟨-, -, -, shares⟩ := each "key" rfl
  have flight := shares.2 fun document later first => by
    obtain rfl : Document.integer 1 = document := Except.ok.inj (List.cons.inj first).1
    exact .inr ⟨Nat.zero_le _, trivial⟩
  exact ⟨flight.ran, flight.results⟩

end Connection

end FailOpenCache
