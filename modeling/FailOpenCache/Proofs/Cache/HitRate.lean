import FailOpenCache.Libraries.Plain
import FailOpenCache.Proofs.Cache.Bookkeeping

/-!
# Hits and misses

What a read of one key comes to is one of five things, and the counters of hits and misses do not
tell all of them apart. A document that has not the shape asked for was counted as a hit before its
shape was looked at, though the caller gets nothing; and a key for which there is no answer, because
the store failed or answered for too few keys, is not counted at all. The counters tell the truth of
a run exactly when it has no such reads.
-/

namespace FailOpenCache

/-- What a read of one key comes to. -/
inductive ReadOutcome where
  /-- The caller gets a value. -/
  | value
  /-- There is nothing, or nothing that can be decoded. -/
  | nothing
  /-- There is a document, but not of the shape asked for. -/
  | misshapen
  /-- There is no answer, because the store failed. -/
  | unanswered
  /-- The store answered for too few keys, and not for this one. -/
  | unreached
deriving DecidableEq

namespace ReadOutcome

/-- What a read of one key comes to, by what was found and whether the caller gets a value. -/
def ofRead (payload? : Option (Option String)) (answered : Bool) : ReadOutcome :=
  if answered then .value
  else match payload? with
    | none => .unanswered
    | some found => if (Connection.documentIn found).isSome then .misshapen else .nothing

/-- What a position of a read of several values comes to. -/
def ofPosition (document : Option Document) : ReadOutcome :=
  if document.isSome then .value else .nothing

/-- Reads that get no value come to one of four things. -/
theorem countP_without (outcomes : List ReadOutcome) :
    outcomes.countP (fun outcome => outcome ≠ .value) =
      outcomes.count .nothing + outcomes.count .misshapen + outcomes.count .unanswered +
        outcomes.count .unreached := by
  induction outcomes with
  | nil => rfl
  | cons outcome rest ih =>
    rw [List.countP_cons, ih]
    cases outcome <;> simp <;> omega

end ReadOutcome

variable {σ τ : Type} [BackingStore σ] [BackingStore τ]

namespace Connection

variable {first second third : Connection τ} {early late : List ReadOutcome}

/-- Reads are counted: those that found a document as hits, and those that found none as misses. -/
structure Tallied (outcomes : List ReadOutcome) (before after : Connection τ) : Prop where
  /-- A document counts as a hit. -/
  hits : after.cache.counters.hits =
    before.cache.counters.hits + (outcomes.count .value + outcomes.count .misshapen)
  /-- No document counts as a miss. -/
  misses : after.cache.counters.misses =
    before.cache.counters.misses + outcomes.count .nothing

omit [BackingStore τ] in
/-- Where nothing is read nothing is counted. -/
theorem tallied_nil (hits : second.cache.counters.hits = first.cache.counters.hits)
    (misses : second.cache.counters.misses = first.cache.counters.misses) :
    Tallied [] first second := ⟨hits, misses⟩

omit [BackingStore τ] in
/-- Reads are counted one after the other. -/
theorem Tallied.append (before : Tallied early first second) (after : Tallied late second third) :
    Tallied (early ++ late) first third where
  hits := by
    have hits := before.hits
    have hits' := after.hits
    rw [List.count_append, List.count_append]
    omega
  misses := by
    have misses := before.misses
    have misses' := after.misses
    rw [List.count_append]
    omega

omit [BackingStore τ] in
/-- What a read found is counted when it is settled. -/
theorem tallied_settle (found : Option String) (connection : Connection τ) :
    Tallied [.ofPosition (documentIn found)] connection (settle found connection).2 := by
  cases found with
  | none => exact ⟨rfl, rfl⟩
  | some payload =>
    rw [settle, documentIn, Option.bind_some]
    cases Payload.decode payload with
    | ok document => exact ⟨rfl, rfl⟩
    | error fault => exact ⟨rfl, rfl⟩

omit [BackingStore τ] in
/-- What reads found is counted when it is settled. -/
theorem tallied_settleAll (found : List (String × Option String))
    (answers : Table (Option Document)) (connection : Connection τ) :
    Tallied (found.map fun position => .ofPosition (documentIn position.2)) connection
      (settleAll answers found connection).2 := by
  induction found generalizing answers connection with
  | nil => exact tallied_nil rfl rfl
  | cons position rest ih =>
    rw [settleAll, bind_apply]
    exact (tallied_settle position.2 connection).append (ih _ _)

omit [BackingStore τ] in
/-- What a read of a key comes to is counted as what it found. -/
theorem Tallied.of_position {found : Option String} {answered : Bool}
    (tallied : Tallied [.ofPosition (documentIn found)] first second)
    (only : answered = true → (documentIn found).isSome = true) :
    Tallied [.ofRead (some found) answered] first second := by
  cases answered with
  | true =>
    rw [ReadOutcome.ofPosition, if_pos (only rfl)] at tallied
    exact tallied
  | false =>
    rw [ReadOutcome.ofPosition] at tallied
    rw [ReadOutcome.ofRead, if_neg Bool.false_ne_true]
    split
    · rename_i there
      rw [if_pos there] at tallied
      exact ⟨tallied.hits, tallied.misses⟩
    · rename_i missing
      rw [if_neg missing] at tallied
      exact tallied

/-- Steps that count neither hits nor misses count no reads. -/
theorem Steps.tallied {counted : Event → Prop} {before after : Connection (TranscribedStore σ)}
    (steps : Steps counted before after) (unhit : ¬ counted .hit) (unmissed : ¬ counted .miss) :
    Tallied [] before after := by
  obtain ⟨hits, misses⟩ := steps.reads_eq unhit unmissed
  exact tallied_nil hits misses

/-- A read of a key is counted by what it found, whatever the caller gets of that. -/
theorem tallied_get (key : String) (connection : Connection (TranscribedStore σ))
    {answered : Bool} (only : answered = true → (get key connection).1.isSome = true) :
    Tallied [.ofRead (readPayload key connection).1 answered] connection
      (get key connection).2 := by
  have looked := (stepwise_readPayload rfl key connection rfl).tallied nofun nofun
  rw [get, bind_apply] at only ⊢
  rcases read : readPayload key connection with ⟨_ | found, left⟩
  · rw [read] at looked only
    have unanswered : answered = false :=
      Bool.eq_false_iff.2 fun yes => absurd (only yes) Bool.false_ne_true
    rw [unanswered]
    exact ⟨looked.hits, looked.misses⟩
  · rw [read] at looked only
    have settled : (settle found left).1 = documentIn found := (settle_spec found left).1
    dsimp only at only
    rw [settled] at only
    exact looked.append ((tallied_settle found left).of_position only)

/-- The positions of a read of several values are counted one by one, as far as there is an
answer. -/
theorem tallied_getMany (keys : List String) (connection : Connection (TranscribedStore σ)) :
    Tallied ((positions keys connection).map fun position => .ofPosition position.2) connection
      (getMany keys connection).2 := by
  have looked := (stepwise_readPayloads rfl keys connection rfl).tallied nofun nofun
  rw [getMany, bind_apply, positions]
  rcases read : readPayloads keys connection with ⟨_ | found, left⟩
  · rw [read] at looked
    rw [Option.getD_none, List.zip_nil_right]
    exact looked
  · rw [read] at looked
    rw [Option.getD_some, List.map_map]
    exact looked.append (tallied_settleAll (keys.zip found) (unanswered keys) left)

omit [BackingStore τ] in
/-- Reads without an answer are not counted. -/
theorem Tallied.uncounted (tallied : Tallied early first second) (places : Nat)
    {outcome : ReadOutcome} (without : outcome = .unanswered ∨ outcome = .unreached) :
    Tallied (early ++ List.replicate places outcome) first second := by
  have none : ∀ counted, outcome ≠ counted →
      (early ++ List.replicate places outcome).count counted = early.count counted := by
    intro counted differs
    rw [List.count_append, List.count_replicate, if_neg (by simpa using differs), Nat.add_zero]
  have differs : outcome ≠ .value ∧ outcome ≠ .misshapen ∧ outcome ≠ .nothing := by
    rcases without with rfl | rfl
    · exact ⟨nofun, nofun, nofun⟩
    · exact ⟨nofun, nofun, nofun⟩
  refine ⟨?_, ?_⟩
  · rw [none _ differs.1, none _ differs.2.1]
    exact tallied.hits
  · rw [none _ differs.2.2]
    exact tallied.misses

/-! ## Stores that do not fail -/

/-- No request so far met an error. -/
def Unfailing (connection : Connection (TranscribedStore σ)) : Prop :=
  ∀ line ∈ connection.store.lines, line.refusal = none

omit [BackingStore σ] in
/-- If no request met an error, then none had before. -/
theorem Unfailing.earlier {before after : Connection (TranscribedStore σ)}
    (unfailing : after.Unfailing) (lines : before.store.lines <+: after.store.lines) :
    before.Unfailing := fun line held => unfailing line (lines.subset held)

/-- A request that met no error is answered. -/
theorem Unfailing.ask {asked : Request} {connection : Connection (TranscribedStore σ)}
    (unfailing : (ask asked connection).2.Unfailing) : (ask asked connection).1 ≠ none := by
  rw [ask_transcribed] at unfailing ⊢
  have last :
      refusalOf (BackingStore.answer asked connection.now connection.store.store).1 = none :=
    unfailing _ (List.mem_append_right _ List.mem_cons_self)
  cases reply : (BackingStore.answer asked connection.now connection.store.store).1 with
  | ok found => exact Option.some_ne_none found
  | error fault =>
    rw [reply] at last
    exact absurd last (Option.some_ne_none fault)

/-- What is asked of the store if it declares a group, and found otherwise if not, is found where no
request met an error. -/
theorem Unfailing.either {α : Type} {group : OperationGroup}
    {asked served : StateM (Connection (TranscribedStore σ)) (Option α)}
    {connection : Connection (TranscribedStore σ)}
    (unfailing : ((do if ← declares group then asked else served :
      StateM (Connection (TranscribedStore σ)) (Option α)) connection).2.Unfailing)
    (asks : (asked connection).2.Unfailing → (asked connection).1 ≠ none)
    (serves : (served connection).1 ≠ none) :
    ((do if ← declares group then asked else served :
      StateM (Connection (TranscribedStore σ)) (Option α)) connection).1 ≠ none := by
  rw [bind_apply, declares_apply] at unfailing ⊢
  dsimp only at unfailing ⊢
  by_cases declared : (BackingStore.capabilities connection.store).declares group = true
  · rw [if_pos declared] at unfailing ⊢
    exact asks unfailing
  · rw [if_neg declared]
    exact serves

/-- The payload under a key is found where no request met an error. -/
theorem Unfailing.readPayload {key : String} {connection : Connection (TranscribedStore σ)}
    (unfailing : (readPayload key connection).2.Unfailing) :
    (Connection.readPayload key connection).1 ≠ none :=
  Unfailing.either unfailing Unfailing.ask (Option.some_ne_none _)

/-- The payloads under several keys are found where no request met an error. -/
theorem Unfailing.readPayloads {keys : List String} {connection : Connection (TranscribedStore σ)}
    (unfailing : (readPayloads keys connection).2.Unfailing) :
    (Connection.readPayloads keys connection).1 ≠ none := by
  rw [Connection.readPayloads, bind_apply, declares_apply] at unfailing ⊢
  dsimp only at unfailing ⊢
  by_cases values : (!(BackingStore.capabilities connection.store).declares .keyValue) = true
  · rw [if_pos values]
    exact Option.some_ne_none _
  · rw [if_neg values] at unfailing ⊢
    exact Unfailing.either unfailing Unfailing.ask (Option.some_ne_none _)

omit [BackingStore τ] in
/-- Settling leaves the store alone. -/
theorem settleAll_store (answers : Table (Option Document)) (found : List (String × Option String))
    (connection : Connection τ) :
    (settleAll answers found connection).2.store = connection.store := by
  induction found generalizing answers connection with
  | nil => rfl
  | cons position rest ih =>
    rw [settleAll, bind_apply, ih]
    exact (settle_spec position.2 connection).2.1

/-- A read of a key has an answer where no request met an error. -/
theorem Unfailing.get {key : String} {connection : Connection (TranscribedStore σ)}
    (unfailing : (get key connection).2.Unfailing) (answered : Bool) :
    .unanswered ≠ ReadOutcome.ofRead (Connection.readPayload key connection).1 answered := by
  have looked : (Connection.readPayload key connection).2.Unfailing := by
    rw [Connection.get, bind_apply] at unfailing
    cases found : (Connection.readPayload key connection).1 with
    | none =>
      rw [found] at unfailing
      exact unfailing
    | some found' =>
      rw [found] at unfailing
      have store := (settle_spec found' (Connection.readPayload key connection).2).2.1
      exact unfailing.earlier (store ▸ List.prefix_rfl)
  obtain ⟨found, read⟩ := Option.ne_none_iff_exists.1 looked.readPayload
  rw [← read, ReadOutcome.ofRead]
  cases answered with
  | true =>
    rw [if_pos rfl]
    decide
  | false =>
    rw [if_neg Bool.false_ne_true]
    split
    · decide
    · decide

/-- A read of several keys has an answer where no request met an error. -/
theorem Unfailing.getMany {keys : List String} {connection : Connection (TranscribedStore σ)}
    (unfailing : (getMany keys connection).2.Unfailing) :
    (Connection.readPayloads keys connection).1.isSome = true := by
  have looked : (Connection.readPayloads keys connection).2.Unfailing := by
    rw [Connection.getMany, bind_apply] at unfailing
    cases found : (Connection.readPayloads keys connection).1 with
    | none =>
      rw [found] at unfailing
      exact unfailing
    | some found' =>
      rw [found] at unfailing
      have store := settleAll_store (Connection.unanswered keys) (keys.zip found')
        (Connection.readPayloads keys connection).2
      exact unfailing.earlier (store ▸ List.prefix_rfl)
  exact Option.isSome_iff_ne_none.2 looked.readPayloads

end Connection

namespace CacheCommand

/-- What the reads of an operation come to. A position of a read of several values comes to what it
puts into the table for the caller. -/
def outcomes : CacheCommand → Connection σ → List ReadOutcome
  | get key, connection =>
    [.ofRead (Connection.readPayload key connection).1 (Connection.get key connection).1.isSome]
  | getAs α key, connection =>
    [.ofRead (Connection.readPayload key connection).1
      (Connection.getAs α key connection).1.isSome]
  | getMany keys, connection =>
    ((Connection.positions keys connection).map fun position => .ofPosition position.2) ++
      List.replicate (keys.length - (Connection.positions keys connection).length)
        (if (Connection.readPayloads keys connection).1.isSome then .unreached else .unanswered)
  | _, _ => []

section

variable [Libraries]

/-- What the reads of operations come to, one after the other. -/
def outcomesAll : List CacheCommand → Connection σ → List ReadOutcome
  | [], _ => []
  | command :: rest, connection =>
    command.outcomes connection ++ outcomesAll rest (command.act connection).2

/-- The reads of an operation without computations are counted. -/
theorem tallied_act {command : CacheCommand} (uncomputed : command.computes = false)
    (connection : Connection (TranscribedStore σ)) :
    Connection.Tallied (command.outcomes connection) connection (command.act connection).2 := by
  have aside : command.needsConnection = true → command.MayCount = (· = .fallback) →
      Connection.Tallied [] connection (command.act connection).2 := by
    intro needs counts
    have steps := stepwise_act needs connection.store.declared connection rfl
    rw [counts] at steps
    exact steps.tallied nofun nofun
  cases command with
  | get key => exact Connection.tallied_get key connection id
  | getAs α key =>
    refine Connection.tallied_get key connection fun answered => ?_
    have read : (Connection.getAs α key connection).1 =
        (Connection.get key connection).1.bind Storable.read? := rfl
    rw [read] at answered
    exact Option.isSome_of_isSome_bind answered
  | getMany keys =>
    refine (Connection.tallied_getMany keys connection).uncounted _ ?_
    split
    · exact .inr rfl
    · exact .inl rfl
  | compute computation => exact absurd uncomputed Bool.noConfusion
  | computeAll computations => exact absurd uncomputed Bool.noConfusion
  | computeAbandoned α key => exact absurd uncomputed Bool.noConfusion
  | override stem lifetime => exact Connection.tallied_nil rfl rfl
  | sweep => exact Connection.tallied_nil rfl rfl
  | advance span => exact Connection.tallied_nil rfl rfl
  | _ => exact aside rfl rfl

/-- The reads of operations without computations are counted. -/
theorem tallied_actAll {commands : List CacheCommand}
    (uncomputed : ∀ command ∈ commands, command.computes = false)
    (connection : Connection (TranscribedStore σ)) :
    Connection.Tallied (outcomesAll commands connection) connection
      (actAll commands connection) := by
  induction commands generalizing connection with
  | nil => exact Connection.tallied_nil rfl rfl
  | cons command rest ih =>
    have first := tallied_act (uncomputed command List.mem_cons_self) connection
    have later := ih (fun other inside => uncomputed other (List.mem_cons_of_mem _ inside))
      (command.act connection).2
    exact first.append later

/-- An operation adds to the transcript at its end. -/
theorem lines_act (command : CacheCommand) (connection : Connection (TranscribedStore σ)) :
    connection.store.lines <+: (command.act connection).2.store.lines := by
  cases needs : command.needsConnection with
  | true => exact (stepwise_act needs connection.store.declared connection rfl).lines
  | false =>
    cases command with
    | override stem lifetime => exact List.prefix_rfl
    | sweep => exact List.prefix_rfl
    | advance span => exact List.prefix_rfl
    | _ => exact absurd needs Bool.noConfusion

/-- Operations add to the transcript at its end. -/
theorem lines_actAll (commands : List CacheCommand)
    (connection : Connection (TranscribedStore σ)) :
    connection.store.lines <+: (actAll commands connection).store.lines := by
  induction commands generalizing connection with
  | nil => exact List.prefix_rfl
  | cons command rest ih => exact (lines_act command connection).trans (ih _)

/-- Every read of an operation has an answer where no request met an error. -/
theorem unanswered_not_mem {command : CacheCommand} {connection : Connection (TranscribedStore σ)}
    (unfailing : (command.act connection).2.Unfailing) :
    .unanswered ∉ command.outcomes connection := by
  cases command with
  | get key => exact fun held => Connection.Unfailing.get unfailing _ (List.mem_singleton.1 held)
  | getAs α key =>
    have read : (Connection.get key connection).2.Unfailing := unfailing
    exact fun held => read.get _ (List.mem_singleton.1 held)
  | getMany keys =>
    intro held
    have answered := Connection.Unfailing.getMany unfailing
    rw [outcomes, if_pos answered] at held
    rcases List.mem_append.1 held with reached | behind
    · obtain ⟨position, -, same⟩ := List.mem_map.1 reached
      rw [ReadOutcome.ofPosition] at same
      split at same <;> exact absurd same nofun
    · exact absurd (List.eq_of_mem_replicate behind) nofun
  | _ => exact List.not_mem_nil

/-- Every read of a run has an answer where no request met an error. -/
theorem unanswered_not_mem_all {commands : List CacheCommand}
    {connection : Connection (TranscribedStore σ)}
    (unfailing : (actAll commands connection).Unfailing) :
    .unanswered ∉ outcomesAll commands connection := by
  induction commands generalizing connection with
  | nil => exact List.not_mem_nil
  | cons command rest ih =>
    have first := unanswered_not_mem (unfailing.earlier (lines_actAll rest _))
    exact fun held => (List.mem_append.1 held).elim first (ih unfailing)

/-- In a run without computations the hits are the reads that found a document and the misses are
those that found none. So on a store that never fails they are the reads that got a value and those
that got none exactly when no document had another shape than was asked for, and the store answered
for every key. -/
theorem runAll_hitRate (configuration : Configuration) (store : σ) (declared : Capabilities)
    (now : Millis) {commands : List CacheCommand}
    (uncomputed : ∀ command ∈ commands, command.computes = false) :
    let start : Connection (TranscribedStore σ) := .opened configuration ⟨store, declared, []⟩ now
    let outcomes := outcomesAll commands start
    let counters := (runAll commands start.session).cache.counters
    counters.hits = outcomes.count .value + outcomes.count .misshapen ∧
      counters.misses = outcomes.count .nothing ∧
      ((actAll commands start).Unfailing →
        (counters.hits = outcomes.count .value ∧
            counters.misses = outcomes.countP (fun outcome => outcome ≠ .value) ↔
          .misshapen ∉ outcomes ∧ .unreached ∉ outcomes)) := by
  intro start outcomes counters
  have tallied := tallied_actAll uncomputed start
  have left : counters = (actAll commands start).cache.counters := by
    show (runAll commands start.session).cache.counters = _
    rw [runAll_session]
    rfl
  have hits : counters.hits = outcomes.count .value + outcomes.count .misshapen := by
    rw [left, tallied.hits]
    exact Nat.zero_add _
  have misses : counters.misses = outcomes.count .nothing := by
    rw [left, tallied.misses]
    exact Nat.zero_add _
  refine ⟨hits, misses, fun unfailing => ?_⟩
  have answered : outcomes.count .unanswered = 0 :=
    List.count_eq_zero.2 (unanswered_not_mem_all unfailing)
  rw [hits, misses, ReadOutcome.countP_without, ← List.count_eq_zero, ← List.count_eq_zero,
    answered]
  omega

end

/-- A new cache on a store in memory that declares everything. -/
def misreadStart : Connection (TranscribedStore MemoryStore) :=
  .opened .standard ⟨.ofCapacity 9, .all, []⟩ 0

/-- A text is written and read as a number. -/
def misreadRun : List CacheCommand :=
  [.set "n" (Document.string "text") none, .getAs UInt32 "n"]

open scoped Libraries.Plain

/-- A text that is read as a number counts as a hit, though the store does not fail and the caller
gets nothing. -/
theorem runAll_hitRate_misread :
    (actAll misreadRun misreadStart).Unfailing ∧
      outcomesAll misreadRun misreadStart = [.misshapen] ∧
      (runAll misreadRun misreadStart.session).cache.counters.hits = 1 ∧
      (runAll misreadRun misreadStart.session).cache.counters.misses = 0 := by
  have unfailing : (actAll misreadRun misreadStart).Unfailing := by
    rw [Connection.Unfailing]
    decide +kernel
  have outcomes : outcomesAll misreadRun misreadStart = [.misshapen] := by decide +kernel
  have uncomputed : ∀ command ∈ misreadRun, command.computes = false := by
    simp [misreadRun, computes]
  obtain ⟨hits, misses, -⟩ := runAll_hitRate .standard (MemoryStore.ofCapacity 9) .all 0 uncomputed
  rw [misreadStart] at unfailing outcomes ⊢
  rw [hits, misses, outcomes]
  exact ⟨unfailing, rfl, rfl, rfl⟩

end CacheCommand

end FailOpenCache
