import FailOpenCache.Libraries.Plain
import FailOpenCache.Proofs.Cache.Commands
import FailOpenCache.Proofs.Cache.Recomputations

/-!
# Counters and values under one key

A cache routes counters by one declaration of its store and values by another. Where the store
declares both or neither, a counter is kept where values are: what an increment leaves is read,
probed and deleted like any value. Where it declares one of them only, counters and values are kept
apart, and an increment is seen by no read.
-/

namespace FailOpenCache

namespace Connection

variable [Libraries] {connection : Connection (ObservedStore MemoryStore)} {key : String}

/-- Without faults a probe answers whether a value or a record is live under the key. -/
theorem probe_fst_contents (unplanned : connection.store.plans = []) (key : String) :
    (probe key connection).1 =
      ((connection.contents key).value.isSome || (connection.contents key).record.isSome) := by
  have same : BackingStore.capabilities connection.store = connection.store.declared := rfl
  cases values : connection.store.declared.keyValue with
  | true =>
    obtain ⟨answer, -⟩ := ask_unstruck (.probe key)
      (ObservedStore.strikesAhead_of_unplanned unplanned .probe 1)
    have found : (BackingStore.answer (.probe key) connection.now connection.store.store).1 =
        .ok (connection.store.store.find? key connection.now).isSome := by
      rw [← MemoryStore.use_fst]
      rfl
    rw [found] at answer
    simp only [probe, bind_apply, declares_apply, same, Capabilities.declares, values, ↓reduceIte]
    refine (congrArg (fun reply : Option Bool => reply.getD false) answer).trans ?_
    rw [contents, if_pos values, MemoryStore.contents, ← MemoryStore.isSome_find?]
    rfl
  | false =>
    simp only [probe, bind_apply, declares_apply, same, Capabilities.declares, values,
      Bool.false_eq_true, ↓reduceIte, serve_apply]
    rw [FallbackStore.probe_fst, contents, values]
    rfl

/-- Nothing is live under a key exactly when a probe says so. -/
theorem contents_of_absent (unplanned : connection.store.plans = [])
    (absent : (probe key connection).1 = false) : connection.contents key = .nothing := by
  rw [probe_fst_contents unplanned, Bool.or_eq_false_iff] at absent
  obtain ⟨value, record⟩ := absent
  rw [Option.isSome_eq_false_iff, Option.isNone_iff_eq_none] at value record
  rcases shape : connection.contents key with ⟨found, members⟩
  rw [shape] at value record
  rw [Contents.nothing, ← value, ← record]

/-- A deletion leaves nothing under a key. -/
theorem contents_deleteAll (unplanned : connection.store.plans = []) (key : String) :
    (deleteAll [key] connection).2.contents key = .nothing := by
  have same : BackingStore.capabilities connection.store = connection.store.declared := rfl
  cases values : connection.store.declared.keyValue with
  | true =>
    obtain ⟨left, -⟩ := deleteAll_observed values key []
    obtain ⟨spent, gone, -⟩ := ask_delete_observed [key] connection
    have found := gone key
    rw [if_pos ⟨List.mem_singleton.2 rfl,
      ObservedStore.strikesAhead_of_unplanned unplanned .delete 1⟩] at found
    rw [left, contents, spent.declared, values, spent.now, MemoryStore.contents,
      MemoryStore.value?, MemoryStore.record?, found]
    rfl
  | false =>
    obtain ⟨value, record⟩ := FallbackStore.find?_delete [key] connection.cache.fallback key
      connection.now
    rw [if_pos (List.mem_singleton.2 rfl)] at value record
    simp only [deleteAll, List.isEmpty_cons, Bool.false_eq_true, ↓reduceIte, bind_apply,
      declares_apply, same, Capabilities.declares, values, serve_apply]
    rw [contents, values]
    exact congrArg₂ Contents.mk value record

/-- An increment of a key under which nothing is live answers the amount, and leaves it as a counter
without a deadline where values are kept, if the store declares counters and values alike. -/
theorem increment_absent (unplanned : connection.store.plans = [])
    (alike : connection.store.declared.counters = connection.store.declared.keyValue)
    {amount : Int} (low : leastCounter ≤ amount) (high : amount ≤ greatestCounter)
    (empty : connection.contents key = .nothing) :
    (increment key amount connection).1 = amount ∧
      ((increment key amount connection).2.store.store.evictions =
          connection.store.store.evictions →
        ((increment key amount connection).2.contents key).value =
          some ⟨Text.integerText amount, none⟩) := by
  have same : BackingStore.capabilities connection.store = connection.store.declared := rfl
  rw [contents] at empty
  cases values : connection.store.declared.keyValue with
  | true =>
    rw [if_pos values] at empty
    have added := MemoryStore.increment_nothing low high empty
    have answered : BackingStore.answer (.increment key amount) connection.now
        connection.store.store = connection.store.store.increment key amount connection.now := rfl
    obtain ⟨answer, store⟩ := ask_unstruck (.increment key amount)
      (ObservedStore.strikesAhead_of_unplanned unplanned .increment 1)
    rw [answered, added] at answer store
    have spent := spent_ask (.increment key amount) connection
    simp only [increment, bind_apply, declares_apply, same, Capabilities.declares, alike, values,
      ↓reduceIte]
    refine ⟨congrArg (fun reply : Option Int => reply.getD 0) answer, fun kept => ?_⟩
    have kept' := (congrArg MemoryStore.evictions store).symm.trans kept
    have left : ((ask (.increment key amount) connection).2.contents key).value =
        ((ask (.increment key amount) connection).2.store.store.value? key connection.now) := by
      rw [contents, spent.declared, if_pos values, spent.now]
      rfl
    refine left.trans ?_
    rw [store, MemoryStore.value?, MemoryStore.find?_insert (kept'.trans
      (connection.store.store.evictions_use key connection.now).symm), if_pos rfl,
      MemoryStore.value_live]
    rfl
  | false =>
    rw [values] at empty
    have added := FallbackStore.increment_nothing low high empty
    simp only [increment, bind_apply, declares_apply, same, Capabilities.declares, alike, values,
      Bool.false_eq_true, ↓reduceIte, serve_apply, pure_apply, added]
    refine ⟨rfl, fun _ => ?_⟩
    rw [contents, values]
    refine (FallbackStore.value?_put ..).trans ?_
    rw [if_pos rfl]
    rfl

omit [Libraries] in
/-- What is live under a key later is what is live now and has not expired by then. -/
theorem contents_later {later : Millis} (ordered : connection.now ≤ later) (key : String) :
    { connection with now := later }.contents key =
      ⟨(connection.contents key).value.filter fun entry => !entry.isExpired later,
        (connection.contents key).record.filter fun record => !record.isExpired later⟩ := by
  rw [contents, contents]
  dsimp only
  split
  · exact congrArg₂ Contents.mk (MemoryStore.value?_later ordered _ key)
      (MemoryStore.record?_later ordered _ key)
  · exact congrArg₂ Contents.mk (FallbackStore.value?_later ordered _ key)
      (FallbackStore.record?_later ordered _ key)

end Connection

namespace CacheCommand

open Connection (Altered Matches)

section

variable [Libraries] {key : String} {connection : Connection (ObservedStore MemoryStore)}

/-- An operation writes a value under a key; a computation does so when nothing of its shape is
found there. -/
def Writes (key : String) (connection : Connection (ObservedStore MemoryStore)) :
    CacheCommand → Prop
  | set other value _ | setTagged other value _ _ => other = key ∧ (Storable.write? value).isSome
  | setMany items _ => ∃ item ∈ items, item.1 = key ∧ (Storable.write? item.2).isSome
  | increment other _ => other = key
  | @compute α _ _ computation => computation.key = key ∧ connection.found α key = none
  | @computeAll α _ _ _ computations =>
    (∃ computation ∈ computations, computation.key = key) ∧ connection.found α key = none
  | _ => False

/-- An operation deletes what is under a key. -/
def Deletes (key : String) (connection : Connection (ObservedStore MemoryStore)) :
    CacheCommand → Prop
  | delete other => other = key
  | invalidate pattern => Matches pattern key ∧ connection.store.declared.ReachesValues
  | invalidateTag tag => connection.listedUnder tag ≠ [] ∧
      (key ∈ connection.listedUnder tag ∨
        key = Key.ofTag tag ∧ connection.store.declared.KeepsTogether)
  | _ => False

/-- An operation adds to the record under a key. -/
def Enlists (key : String) (connection : Connection (ObservedStore MemoryStore)) :
    CacheCommand → Prop
  | @setTagged _ _ _ _ tags _ =>
    key ∈ tags.map Key.ofTag ∧ connection.store.declared.KeepsTogether
  | compute computation =>
    key ∈ computation.tags.map Key.ofTag ∧ connection.store.declared.KeepsTogether
  | computeAll _ computations =>
    (∃ computation ∈ computations, key ∈ computation.tags.map Key.ofTag) ∧
      connection.store.declared.KeepsTogether
  | _ => False

/-- What an operation may do under a key. -/
def licence (key : String) (connection : Connection (ObservedStore MemoryStore))
    (command : CacheCommand) : Licence :=
  ⟨command.Writes key connection, command.Deletes key connection, command.Enlists key connection⟩

/-- An operation makes moves within its licence, or it lets time pass. -/
theorem altered_act (command : CacheCommand) (key : String)
    (connection : Connection (ObservedStore MemoryStore)) :
    Altered (command.licence key connection) key connection (command.act connection).2 ∨
      ∃ span, command = advance span := by
  have within : ∀ {β : Type} {operation : StateM (Connection (ObservedStore MemoryStore)) β},
      Connection.Alters connection.store.declared key (command.licence key connection) operation →
        Altered (command.licence key connection) key connection (operation connection).2 :=
    fun alters => alters connection rfl
  cases command with
  | get other => exact .inl (within (Connection.alters_get other))
  | getAs α other => exact .inl (within (Connection.alters_getAs other))
  | set other value stated =>
    exact .inl (within (Connection.alters_set fun here form => ⟨here, form⟩))
  | getMany keys => exact .inl (within (Connection.alters_getMany keys))
  | setMany items stated => exact .inl (within (Connection.alters_setMany id))
  | delete other =>
    exact .inl (within (Connection.alters_discard (Connection.alters_deleteAll fun held =>
      (List.mem_singleton.1 held).symm)))
  | probe other => exact .inl (within (Connection.alters_probe other))
  | increment other amount => exact .inl (within (Connection.alters_increment id))
  | setTagged other value tags stated =>
    exact .inl (within (Connection.alters_setTagged (fun here form => ⟨here, form⟩)
      fun held together => ⟨held, together⟩))
  | invalidate pattern =>
    exact .inl (within (Connection.alters_invalidate fun matched reaches => ⟨matched, reaches⟩))
  | invalidateTag tag =>
    exact .inl (Connection.altered_invalidateTag fun lists listed => ⟨lists, listed⟩)
  | compute computation =>
    exact .inl (Connection.altered_compute (fun here nothing => ⟨here, nothing⟩)
      fun held together => ⟨held, together⟩)
  | computeAll schedule computations =>
    exact .inl (Connection.altered_computeAll schedule (fun held nothing => ⟨held, nothing⟩)
      fun computation held tagged together => ⟨⟨computation, held, tagged⟩, together⟩)
  | computeAbandoned α other => exact .inl (within (Connection.alters_computeAbandoned other))
  | override stem lifetime => exact .inl (Connection.altered_of_same rfl rfl fun _ => .refl)
  | sweep =>
    refine .inl (Connection.altered_of_same rfl rfl fun _ => .of_eq ?_)
    exact FallbackStore.contents_eq (connection.cache.fallback.purge_snd key connection.now)
  | advance span => exact .inr ⟨span, rfl⟩

/-- The value under a key has expired by the end of an operation, or is written at the last instant
of the clock. -/
def Lapses (key : String) (connection : Connection (ObservedStore MemoryStore))
    (command : CacheCommand) : Prop :=
  (connection.contents key).value.any
      (fun entry => entry.isExpired (connection.now + command.span)) = true ∨
    lastWord ≤ connection.now ∧ command.Writes key connection

/-- Something is true of each operation of a run on the connection on which it is run. -/
def Along {σ : Type} [BackingStore σ] (during : CacheCommand → Connection σ → Prop) :
    List CacheCommand → Connection σ → Prop
  | [], _ => True
  | command :: rest, connection =>
    during command connection ∧ Along during rest (command.act connection).2

/-- What each operation of a run preserves is true after the run, if no request fails, no key gives
way to another and the clock stays in its range. -/
theorem holds_actAll (Holds : Connection (ObservedStore MemoryStore) → Prop)
    {during : CacheCommand → Connection (ObservedStore MemoryStore) → Prop}
    (step : ∀ command connection, connection.store.plans = [] →
      connection.now + command.span ≤ lastWord →
      (command.act connection).2.store.store.evictions = connection.store.store.evictions →
      during command connection → Holds connection → Holds (command.act connection).2)
    {commands : List CacheCommand} {connection : Connection (ObservedStore MemoryStore)}
    (unplanned : connection.store.plans = [])
    (clock : connection.now + (commands.map span).sum ≤ lastWord)
    (kept : (actAll commands connection).store.store.evictions =
      connection.store.store.evictions)
    (along : Along during commands connection) (holds : Holds connection) :
    Holds (actAll commands connection) := by
  induction commands generalizing connection with
  | nil => exact holds
  | cons command rest ih =>
    rw [List.map_cons, List.sum_cons, ← Nat.add_assoc] at clock
    have inTime := Nat.le_trans (Nat.le_add_right _ _) clock
    obtain ⟨led, -, plans⟩ := (led_act command connection).behind
    have later := (led_actAll rest (command.act connection).2).behind.1.evictions_le
    have keptFirst := Nat.le_antisymm (kept ▸ later) led.evictions_le
    refine ih (plans.trans unplanned) ?_ (kept.trans keptFirst.symm) along.2
      (step command connection unplanned inTime keptFirst along.1 holds)
    rw [now_act inTime]
    exact clock

/-- What an operation does under a key: it makes moves within its licence, or it lets what expires
by its end go. -/
theorem act_contents {command : CacheCommand} (unplanned : connection.store.plans = [])
    (clock : connection.now + command.span ≤ lastWord)
    (kept : (command.act connection).2.store.store.evictions = connection.store.store.evictions)
    (key : String) :
    Moves (command.licence key connection) connection.now (connection.contents key)
        ((command.act connection).2.contents key) ∨
      (command.act connection).2.contents key =
        ⟨(connection.contents key).value.filter fun entry =>
            !entry.isExpired (connection.now + command.span),
          (connection.contents key).record.filter fun record =>
            !record.isExpired (connection.now + command.span)⟩ := by
  have now := now_act clock
  rcases altered_act command key connection with altered | ⟨span, rfl⟩
  · exact .inl (altered.moves unplanned kept)
  · refine .inr ?_
    rw [← now]
    refine Connection.contents_later ?_ key
    exact (Nat.le_add_right _ _).trans_eq now.symm

/-- A counter without a deadline stays under its key as long as nothing is written or deleted
there. -/
theorem actAll_counter {commands : List CacheCommand} (unplanned : connection.store.plans = [])
    (clock : connection.now + (commands.map span).sum ≤ lastWord)
    (kept : (actAll commands connection).store.store.evictions =
      connection.store.store.evictions)
    (along : Along (fun command connection => ¬ command.Writes key connection ∧
      ¬ command.Deletes key connection) commands connection) {payload : String}
    (counted : (connection.contents key).value = some ⟨payload, none⟩) :
    ((actAll commands connection).contents key).value = some ⟨payload, none⟩ := by
  refine holds_actAll (fun connection => (connection.contents key).value = some ⟨payload, none⟩)
    (fun command connection unplanned clock kept during counted => ?_) unplanned clock kept along counted
  rcases act_contents unplanned clock kept key with moves | left
  · exact (moves.value_eq during.1 during.2).trans counted
  · rw [left, counted]
    rfl

/-- A value stays live under its key as long as it neither is deleted nor expires, whatever is
written there. -/
theorem actAll_live {commands : List CacheCommand} (unplanned : connection.store.plans = [])
    (clock : connection.now + (commands.map span).sum ≤ lastWord)
    (kept : (actAll commands connection).store.store.evictions =
      connection.store.store.evictions)
    (along : Along (fun command connection => ¬ command.Deletes key connection ∧
      ¬ command.Lapses key connection) commands connection)
    (live : (connection.contents key).value.isSome) :
    ((actAll commands connection).contents key).value.isSome := by
  refine holds_actAll (fun connection => (connection.contents key).value.isSome)
    (fun command connection unplanned clock kept during live => ?_) unplanned clock kept along live
  obtain ⟨undeleted, lasting⟩ := during
  rcases act_contents unplanned clock kept key with moves | left
  · exact moves.isSome_value undeleted
      (fun writes => Nat.lt_of_not_le fun late => lasting (.inr ⟨late, writes⟩)) live
  · obtain ⟨entry, found⟩ := Option.isSome_iff_exists.1 live
    have fresh : entry.isExpired (connection.now + command.span) = false :=
      Bool.eq_false_iff.2 fun expired => lasting (.inl (by rw [found]; exact expired))
    rw [left, found]
    simp [Option.filter, fresh]

/-- Nothing appears under a key as long as nothing is written or enlisted there. -/
theorem actAll_nothing {commands : List CacheCommand} (unplanned : connection.store.plans = [])
    (clock : connection.now + (commands.map span).sum ≤ lastWord)
    (kept : (actAll commands connection).store.store.evictions =
      connection.store.store.evictions)
    (along : Along (fun command connection => ¬ command.Writes key connection ∧
      ¬ command.Enlists key connection) commands connection)
    (empty : connection.contents key = .nothing) :
    (actAll commands connection).contents key = .nothing := by
  refine holds_actAll (fun connection => connection.contents key = .nothing)
    (fun command connection unplanned clock kept during empty => ?_) unplanned clock kept along empty
  rcases act_contents unplanned clock kept key with moves | left
  · exact moves.nothing during.1 during.2 empty
  · rw [left, empty]
    rfl

/-- A store in memory that declares counters and values both or neither has one keyspace for them.
An increment of an absent key answers the amount; a read answers that until the key is written or
deleted, and a probe finds the key until it is deleted or expires. After a deletion a probe does not
find the key, and an increment answers its amount, until the key is written or becomes the record of
a tag. -/
theorem increment_sharesKeyspace (connection : Connection (ObservedStore MemoryStore))
    (unplanned : connection.store.plans = [])
    (alike : connection.store.declared.counters = connection.store.declared.keyValue)
    (key : String) {amount : Int} (low : leastCounter ≤ amount) (high : amount ≤ greatestCounter)
    (commands : List CacheCommand)
    (clock : connection.now + (commands.map span).sum ≤ lastWord) :
    let counted := Connection.increment key amount connection
    let deleted := (Connection.deleteAll [key] connection).2
    ((Connection.probe key connection).1 = false → counted.1 = amount ∧
      ((actAll commands counted.2).store.store.evictions = connection.store.store.evictions →
        (Along (fun command connection => ¬ command.Writes key connection ∧
            ¬ command.Deletes key connection) commands counted.2 →
          (Connection.get key (actAll commands counted.2)).1 = some (.integer amount)) ∧
        (Along (fun command connection => ¬ command.Deletes key connection ∧
            ¬ command.Lapses key connection) commands counted.2 →
          (Connection.probe key (actAll commands counted.2)).1 = true))) ∧
    ((actAll commands deleted).store.store.evictions = connection.store.store.evictions →
      Along (fun command connection => ¬ command.Writes key connection ∧
          ¬ command.Enlists key connection) commands deleted →
        (Connection.probe key (actAll commands deleted)).1 = false ∧
          (Connection.increment key amount (actAll commands deleted)).1 = amount) := by
  intro counted deleted
  have unplannedAfter : ∀ {start : Connection (ObservedStore MemoryStore)},
      Led connection.store start.store → (actAll commands start).store.plans = [] := fun led =>
    (led_actAll commands _).behind.2.2.trans (led.behind.2.2.trans unplanned)
  constructor
  · intro absent
    have asks : Connection.OnlyAsks (Connection.increment key amount :
        StateM (Connection (ObservedStore MemoryStore)) Int) :=
      Connection.onlyAsks_increment key amount
    have led := asks.led connection
    have still : counted.2.now = connection.now := asks.still connection
    have empty := Connection.contents_of_absent unplanned absent
    obtain ⟨answer, left⟩ := Connection.increment_absent unplanned alike low high empty
    refine ⟨answer, fun kept => ?_⟩
    have early := led.behind.1.evictions_le
    have late := (led_actAll commands counted.2).behind.1.evictions_le
    have keptFirst := Nat.le_antisymm (kept ▸ late) early
    have keptLater := kept.trans keptFirst.symm
    have value := left keptFirst
    have unplanned' := led.behind.2.2.trans unplanned
    rw [← still] at clock
    constructor
    · intro along
      have stays := actAll_counter unplanned' clock keptLater along value
      rw [Connection.get_fst_contents (unplannedAfter led), stays, Option.bind_some,
        Entry.document?, Payload.decode_integerText low high]
      rfl
    · intro along
      have live := actAll_live unplanned' clock keptLater along (by rw [value]; rfl)
      rw [Connection.probe_fst_contents (unplannedAfter led), live, Bool.true_or]
  · intro kept along
    have asks : Connection.OnlyAsks (Connection.deleteAll [key] :
        StateM (Connection (ObservedStore MemoryStore)) Nat) :=
      Connection.onlyAsks_deleteAll [key]
    have led := asks.led connection
    have still : deleted.now = connection.now := asks.still connection
    have early := led.behind.1.evictions_le
    have late := (led_actAll commands deleted).behind.1.evictions_le
    have keptFirst := Nat.le_antisymm (kept ▸ late) early
    rw [← still] at clock
    have empty := actAll_nothing (led.behind.2.2.trans unplanned) clock
      (kept.trans keptFirst.symm) along (Connection.contents_deleteAll unplanned key)
    have alike' : (actAll commands deleted).store.declared.counters =
        (actAll commands deleted).store.declared.keyValue := by
      rw [((led_actAll commands deleted).behind).2.1, led.behind.2.1]
      exact alike
    refine ⟨?_, (Connection.increment_absent (unplannedAfter led) alike' low high empty).1⟩
    rw [Connection.probe_fst_contents (unplannedAfter led), empty]
    rfl

end

open scoped Libraries.Plain

/-- A connection to an empty store in memory of which these groups are declared. -/
def openedOver (declared : Capabilities) : Connection (ObservedStore MemoryStore) :=
  .opened .standard ⟨.ofCapacity 9, declared, [], none, []⟩ 0

/-- Values, a counter, an expiry and invalidations beside a key. -/
def besideRun : List CacheCommand :=
  [.setTagged "other" (Document.integer 1) ["tag"] (some 1), .increment "count" 2, .get "key",
    .advance 1000, .invalidateTag "tag", .invalidate "c*", .sweep]

/-- Beside other keys a counter stays, and a deleted key stays absent. -/
theorem increment_sharesKeyspace_beside :
    let start := openedOver ⟨true, true, true, false, true⟩
    let counted := Connection.increment "key" 5 start
    let deleted := (Connection.deleteAll ["key"] start).2
    counted.1 = 5 ∧
      (Connection.get "key" (actAll besideRun counted.2)).1 = some (.integer 5) ∧
      (Connection.probe "key" (actAll besideRun counted.2)).1 = true ∧
      (Connection.probe "key" (actAll besideRun deleted)).1 = false ∧
      (Connection.increment "key" 5 (actAll besideRun deleted)).1 = 5 := by
  intro start counted deleted
  obtain ⟨present, absent⟩ := increment_sharesKeyspace start rfl rfl "key"
    (show leastCounter ≤ 5 by decide) (show 5 ≤ greatestCounter by decide) besideRun
    (by decide +kernel)
  obtain ⟨answer, stays⟩ := present (by decide +kernel)
  obtain ⟨read, live⟩ := stays (by decide +kernel)
  obtain ⟨gone, anew⟩ := absent (by decide +kernel) (by
    simp only [besideRun, Along, Writes, Enlists]
    decide +kernel)
  refine ⟨answer, read ?_, live ?_, gone, anew⟩
  · simp only [besideRun, Along, Writes, Deletes]
    decide +kernel
  · simp only [besideRun, Along, Lapses, Writes, Deletes]
    decide +kernel

/-- Where a store declares values without counters, or counters without values, no read and no probe
sees what an increment of an absent key leaves, and a deletion does not reach it. -/
theorem increment_apart :
    let values := openedOver ⟨true, false, false, false, false⟩
    let counters := openedOver ⟨false, true, false, false, false⟩
    let counted := (Connection.increment "key" 5 values).2
    let counted' := (Connection.increment "key" 5 counters).2
    ((Connection.probe "key" values).1 = false ∧ (Connection.increment "key" 5 values).1 = 5 ∧
        (Connection.get "key" counted).1 = none ∧ (Connection.probe "key" counted).1 = false ∧
        (Connection.increment "key" 5 (Connection.deleteAll ["key"] counted).2).1 = 10) ∧
      (Connection.probe "key" counters).1 = false ∧ (Connection.increment "key" 5 counters).1 = 5 ∧
        (Connection.get "key" counted').1 = none ∧ (Connection.probe "key" counted').1 = false ∧
        (Connection.increment "key" 5 (Connection.deleteAll ["key"] counted').2).1 = 10 := by
  decide +kernel

end CacheCommand

end FailOpenCache
