import FailOpenCache.Cache.Invalidation
import FailOpenCache.Libraries.Plain
import FailOpenCache.Proofs.Cache.OnMemory
import FailOpenCache.Proofs.Store.Records
import FailOpenCache.Store.Observed

/-!
# Invalidation by a tag when deletions fail

An invalidation by a tag makes three requests to a store that keeps tags: it reads the record,
deletes the keys that the record lists, and deletes the record. What it leaves is told for every
plan of faults from which of the three fail. The record is deleted also when the keys are not, and
then nothing lists them any more: whether the invalidation can be repeated depends on whether the
third request fails as well.
-/

namespace FailOpenCache

/-- The keys that the record of a tag lists. -/
def MemoryStore.listed (store : MemoryStore) (tag : String) (now : Millis) : List String :=
  ((store.record? (Key.ofTag tag) now).map fun record => record.members.names).getD []

/-- At a later instant the record of a tag lists the same keys, or has expired. -/
theorem MemoryStore.listed_later {now later : Millis} (ordered : now ≤ later) (store : MemoryStore)
    (tag : String) :
    store.listed tag later =
      if (store.record? (Key.ofTag tag) later).isSome then store.listed tag now else [] := by
  rw [listed, listed, record?_later ordered]
  cases store.record? (Key.ofTag tag) now with
  | none => rfl
  | some record => cases expired : record.isExpired later <;> simp [Option.filter, expired]

namespace ObservedStore

variable {σ : Type}

/-- Of the requests of an operation to come, the one at a place is to fail; the next one is at the
first place. -/
def strikesAhead (observed : ObservedStore σ) (operation : Operation) (place : Nat) : Bool :=
  observed.plans.any fun plan =>
    plan.1 == operation && plan.2.strikes (observed.countOf operation + place)

/-- An observer without plans lets no request fail. -/
theorem strikesAhead_of_unplanned {observed : ObservedStore σ} (unplanned : observed.plans = [])
    (operation : Operation) (place : Nat) : observed.strikesAhead operation place = false := by
  rw [strikesAhead, unplanned]
  rfl

/-- A request is put at the end of the record, and nothing else is changed but the store. -/
theorem answer_calls [BackingStore σ] (request : Request) (now : Millis)
    (observed : ObservedStore σ) :
    ∃ failed, (BackingStore.answer request now observed).2 =
      { observed with
        store := (BackingStore.answer request now observed).2.store
        calls := observed.calls ++ [⟨request, failed⟩] } := by
  have answered : BackingStore.answer request now observed =
      ObservedStore.answer request now observed := rfl
  rw [answered, ObservedStore.answer]
  split
  · exact ⟨true, rfl⟩
  · exact ⟨_, rfl⟩

end ObservedStore

namespace Connection

variable {σ : Type} [BackingStore σ]

/-- Between two connections so many deletions have been requested, and the plans, the declarations
and the clock are the same. -/
structure Spent (deletions : Nat) (before after : Connection (ObservedStore σ)) : Prop where
  /-- The plans are the same. -/
  plans : after.store.plans = before.store.plans
  /-- The declarations are the same. -/
  declared : after.store.declared = before.store.declared
  /-- The deletions are in the record. -/
  countOf : after.store.countOf .delete = before.store.countOf .delete + deletions
  /-- The clock is the same. -/
  now : after.now = before.now

omit [BackingStore σ] in
/-- The deletions of two steps have been requested by both together. -/
theorem Spent.trans {first second third : Connection (ObservedStore σ)} {early late : Nat}
    (before : Spent early first second) (after : Spent late second third) :
    Spent (early + late) first third where
  plans := after.plans.trans before.plans
  declared := after.declared.trans before.declared
  countOf := by rw [after.countOf, before.countOf, Nat.add_assoc]
  now := after.now.trans before.now

omit [BackingStore σ] in
/-- The deletion that is to fail comes nearer by those that have been requested. -/
theorem Spent.strikesAhead {before after : Connection (ObservedStore σ)} {deletions : Nat}
    (spent : Spent deletions before after) (place : Nat) :
    after.store.strikesAhead .delete place =
      before.store.strikesAhead .delete (deletions + place) := by
  rw [ObservedStore.strikesAhead, ObservedStore.strikesAhead, spent.plans, spent.countOf,
    Nat.add_assoc]

/-- A request is in the record afterwards. -/
theorem spent_ask (asked : Request) (connection : Connection (ObservedStore σ)) :
    Spent (if asked.operation = .delete then 1 else 0) connection (ask asked connection).2 := by
  have store := ask_store asked connection
  have now := (quiet_ask asked connection).now
  obtain ⟨failed, shape⟩ :=
    ObservedStore.answer_calls asked connection.now connection.store
  rw [← store] at shape
  refine ⟨?_, ?_, ?_, now⟩
  · rw [shape]
  · rw [shape]
  · rw [shape, ObservedStore.countOf, ObservedStore.countOf, List.filter_append,
      List.length_append]
    by_cases deletes : asked.operation = .delete
    · simp [deletes]
    · simp [deletes]

/-- A request that is to fail is not answered, and does not reach the store. -/
theorem ask_struck (asked : Request) {connection : Connection (ObservedStore σ)}
    (struck : connection.store.strikesAhead asked.operation 1 = true) :
    (ask asked connection).1 = none ∧
      (ask asked connection).2.store.store = connection.store.store := by
  have answered : BackingStore.answer asked connection.now connection.store =
      (.error ObservedStore.injectedFault,
        { connection.store with calls := connection.store.calls ++ [⟨asked, true⟩] }) :=
    if_pos struck
  rw [ask_error (congrArg Prod.fst answered)]
  exact ⟨rfl, congrArg (fun left => left.2.store) answered⟩

/-- A request that is not to fail is answered by the store. -/
theorem ask_unstruck (asked : Request) {connection : Connection (ObservedStore σ)}
    (spared : connection.store.strikesAhead asked.operation 1 = false) :
    (ask asked connection).1 =
        (BackingStore.answer asked connection.now connection.store.store).1.toOption.map
          (ObservedStore.shorten connection.store.longestAnswer asked) ∧
      (ask asked connection).2.store.store =
        (BackingStore.answer asked connection.now connection.store.store).2 := by
  have unstruck : ¬ connection.store.strikes asked.operation = true :=
    Bool.eq_false_iff.1 spared
  have answered : BackingStore.answer asked connection.now connection.store =
      ObservedStore.answer asked connection.now connection.store := rfl
  rw [ObservedStore.answer, if_neg unstruck] at answered
  have store := ask_store asked connection
  rw [answered] at store
  refine ⟨?_, congrArg ObservedStore.store store⟩
  cases reply : (BackingStore.answer asked connection.now connection.store.store).1 with
  | ok found =>
    have whole := congrArg Prod.fst answered
    dsimp only at whole
    rw [reply] at whole
    rw [ask_ok whole]
    rfl
  | error fault =>
    have whole := congrArg Prod.fst answered
    dsimp only at whole
    rw [reply] at whole
    rw [ask_error whole]
    rfl

variable {connection : Connection (ObservedStore MemoryStore)}

section

variable [Libraries]

/-- Reading the record of a tag changes nothing of what is held, and finds the keys that the record
lists unless it fails. -/
theorem membersOf_observed (tracked : connection.store.declared.keepsTags = true) (tag : String) :
    Spent 0 connection (membersOf (Key.ofTag tag) connection).2 ∧
      (∀ key, (membersOf (Key.ofTag tag) connection).2.store.store.find? key connection.now =
        connection.store.store.find? key connection.now) ∧
      (membersOf (Key.ofTag tag) connection).1.getD [] =
        if connection.store.strikesAhead .members 1 then []
        else connection.store.store.listed tag connection.now := by
  have asked : membersOf (Key.ofTag tag) connection =
      ask (.members (Key.ofTag tag)) connection := by
    have keeps : (BackingStore.capabilities connection.store).keepsTags = true := tracked
    simp only [membersOf, tracksTags, bind_apply, get_apply, pure_apply, keeps, ↓reduceIte]
    rfl
  rw [asked]
  refine ⟨spent_ask (.members (Key.ofTag tag)) connection, ?_⟩
  cases struck : connection.store.strikesAhead .members 1 with
  | true =>
    obtain ⟨answer, store⟩ := ask_struck (.members (Key.ofTag tag)) struck
    rw [answer, store]
    exact ⟨fun _ => rfl, rfl⟩
  | false =>
    obtain ⟨answer, store⟩ := ask_unstruck (.members (Key.ofTag tag)) struck
    have left : (BackingStore.answer (.members (Key.ofTag tag)) connection.now
        connection.store.store).2 = _ := connection.store.store.members_snd _ connection.now
    have found : (BackingStore.answer (.members (Key.ofTag tag)) connection.now
        connection.store.store).1 = _ := connection.store.store.members_fst _ connection.now
    refine ⟨fun key => ?_, ?_⟩
    · rw [store, left]
      exact MemoryStore.find?_use ..
    · rw [answer, found, MemoryStore.listed, MemoryStore.accepts, MemoryStore.value?,
        MemoryStore.record?]
      rcases connection.store.store.find? (Key.ofTag tag) connection.now with _ | slot
      · rfl
      · cases slot <;> rfl

/-- A request to delete keys deletes them unless it fails. -/
theorem ask_delete_observed (keys : List String)
    (connection : Connection (ObservedStore MemoryStore)) :
    Spent 1 connection (ask (.delete keys) connection).2 ∧
      (∀ key, (ask (.delete keys) connection).2.store.store.find? key connection.now =
        if key ∈ keys ∧ connection.store.strikesAhead .delete 1 = false then none
        else connection.store.store.find? key connection.now) ∧
      (connection.store.strikesAhead .delete 1 = true →
        (ask (.delete keys) connection).1 = none) := by
  refine ⟨spent_ask (.delete keys) connection, fun key => ?_,
    fun struck => (ask_struck (.delete keys) struck).1⟩
  cases struck : connection.store.strikesAhead .delete 1 with
  | true =>
    rw [(ask_struck (.delete keys) struck).2]
    simp
  | false =>
    rw [(ask_unstruck (.delete keys) struck).2]
    simp only [and_true]
    exact MemoryStore.find?_delete ..

/-- A deletion of keys is one request, and counts nothing if it is not answered. -/
theorem deleteAll_observed (declared : connection.store.declared.keyValue = true)
    (member : String) (rest : List String) :
    (deleteAll (member :: rest) connection).2 = (ask (.delete (member :: rest)) connection).2 ∧
      ((ask (.delete (member :: rest)) connection).1 = none →
        (deleteAll (member :: rest) connection).1 = 0) := by
  have declares : (BackingStore.capabilities connection.store).declares .keyValue = true :=
    declared
  simp only [deleteAll, List.isEmpty_cons, Bool.false_eq_true, ↓reduceIte, bind_apply,
    declares_apply, declares]
  exact ⟨rfl, fun unanswered => congrArg (fun count : Option Nat => count.getD 0) unanswered⟩

/-- The deletion of the record of a tag is one request. -/
theorem dropRecord_observed (tracked : connection.store.declared.keepsTags = true)
    (record : String) :
    (dropRecord record connection).2 = (ask (.delete [record]) connection).2 := by
  have keeps : (BackingStore.capabilities connection.store).keepsTags = true := tracked
  simp only [dropRecord, tracksTags, bind_apply, get_apply, pure_apply, keeps, ↓reduceIte,
    discard_apply]

omit [Libraries] in
/-- The connection that an invalidation by a tag leaves, and what it counts: it goes on after the
record has been read only if that lists a key. -/
theorem invalidateTag_steps (tag : String) (connection : Connection σ) :
    invalidateTag tag connection =
      if (membersOf (Key.ofTag tag) connection).1.getD [] = [] then
        (0, (membersOf (Key.ofTag tag) connection).2)
      else
        let removed := deleteAll ((membersOf (Key.ofTag tag) connection).1.getD [])
          (membersOf (Key.ofTag tag) connection).2
        (removed.1, (dropRecord (Key.ofTag tag) removed.2).2) := by
  rw [invalidateTag, bind_apply]
  rcases (membersOf (Key.ofTag tag) connection).1 with _ | _ | ⟨member, rest⟩
  · rfl
  · rfl
  · rfl

/-- An invalidation by a tag whose record cannot be read or lists nothing deletes nothing. Otherwise
the keys that the record lists are gone unless the next deletion fails, and the record is gone
unless the one after it fails, whatever became of the keys. -/
theorem invalidateTag_observed (tracked : connection.store.declared.keepsTags = true)
    (tag : String) :
    (∃ deletions, Spent deletions connection (invalidateTag tag connection).2) ∧
      (∀ key, (invalidateTag tag connection).2.store.store.find? key connection.now =
        if connection.store.strikesAhead .members 1 = false ∧
            connection.store.store.listed tag connection.now ≠ [] ∧
            (key ∈ connection.store.store.listed tag connection.now ∧
                connection.store.strikesAhead .delete 1 = false ∨
              key = Key.ofTag tag ∧ connection.store.strikesAhead .delete 2 = false) then none
        else connection.store.store.find? key connection.now) ∧
      (connection.store.strikesAhead .delete 1 = true → (invalidateTag tag connection).1 = 0) := by
  obtain ⟨spent, held, members⟩ := membersOf_observed tracked tag
  rw [invalidateTag_steps, members]
  cases struck : connection.store.strikesAhead .members 1 with
  | true =>
    refine ⟨⟨0, spent⟩, fun key => ?_, fun _ => rfl⟩
    simpa using held key
  | false =>
    dsimp only
    rw [if_neg Bool.false_ne_true]
    cases shape : connection.store.store.listed tag connection.now with
    | nil =>
      refine ⟨⟨0, spent⟩, fun key => ?_, fun _ => rfl⟩
      simpa using held key
    | cons member rest =>
      rw [if_neg (List.cons_ne_nil member rest)]
      have tracked' := tracked
      rw [← spent.declared] at tracked'
      have values := (Bool.and_eq_true _ _ ▸ tracked').2
      obtain ⟨left, uncounted⟩ := deleteAll_observed values member rest
      obtain ⟨spent', gone, unanswered⟩ := ask_delete_observed (member :: rest)
        (membersOf (Key.ofTag tag) connection).2
      rw [← left] at spent' gone
      have both := spent.trans spent'
      have tracked'' := tracked
      rw [← both.declared] at tracked''
      have dropped := dropRecord_observed tracked'' (Key.ofTag tag)
      obtain ⟨spent'', gone', -⟩ := ask_delete_observed [Key.ofTag tag]
        (deleteAll (member :: rest) (membersOf (Key.ofTag tag) connection).2).2
      rw [← dropped] at spent'' gone'
      rw [spent.strikesAhead 1, spent.now] at gone
      rw [both.strikesAhead 1, both.now] at gone'
      rw [spent.strikesAhead 1] at unanswered
      refine ⟨⟨_, both.trans spent''⟩, fun key => ?_, fun fails => uncounted (unanswered fails)⟩
      dsimp only
      rw [gone' key, gone key, held key]
      simp only [List.mem_singleton, Nat.reduceAdd, true_and, ne_eq, reduceCtorEq,
        not_false_eq_true]
      by_cases here : key = Key.ofTag tag ∧ connection.store.strikesAhead .delete 2 = false
      · rw [if_pos here, if_pos (.inr here)]
      · simp only [here, or_false, ↓reduceIte]

/-- The connection at a later instant with an observer that lets no request fail. -/
def calmed (connection : Connection (ObservedStore σ)) (later : Millis) :
    Connection (ObservedStore σ) :=
  { connection with store := { connection.store with plans := [] }, now := later }

/-- An invalidation by a tag that read the record and failed to delete the keys in it counts none,
and every key but that of the record holds what it held. It goes on to delete the record: only if
that fails too the record still lists the keys, and an invalidation without faults, at any instant
when the record has not expired, deletes them. If the record is gone the keys stay, and no
invalidation by the tag comes to them. -/
theorem invalidateTag_retried (connection : Connection (ObservedStore MemoryStore))
    (tracked : connection.store.declared.keepsTags = true) (tag : String)
    (answered : connection.store.strikesAhead .members 1 = false)
    (lists : connection.store.store.listed tag connection.now ≠ [])
    (struck : connection.store.strikesAhead .delete 1 = true)
    {later : Millis} (ordered : connection.now ≤ later) :
    let failed := invalidateTag tag connection
    let retried := (invalidateTag tag (failed.2.calmed later)).2
    failed.1 = 0 ∧
      (∀ key, key ≠ Key.ofTag tag →
        failed.2.store.store.find? key connection.now =
          connection.store.store.find? key connection.now) ∧
      failed.2.store.store.listed tag connection.now =
        (if connection.store.strikesAhead .delete 2 then
          connection.store.store.listed tag connection.now else []) ∧
      ∀ key, key ∈ connection.store.store.listed tag connection.now → key ≠ Key.ofTag tag →
        retried.store.store.find? key later =
          if connection.store.strikesAhead .delete 2 ∧
              (connection.store.store.record? (Key.ofTag tag) later).isSome then none
          else connection.store.store.find? key later := by
  intro failed retried
  obtain ⟨⟨deletions, spent⟩, left, counted⟩ := invalidateTag_observed tracked tag
  have after : ∀ key instant, connection.now ≤ instant →
      failed.2.store.store.find? key instant =
        if key = Key.ofTag tag ∧ connection.store.strikesAhead .delete 2 = false then none
        else connection.store.store.find? key instant := by
    intro key instant reached
    rw [MemoryStore.find?_later reached, MemoryStore.find?_later reached, left key]
    simp only [answered, lists, struck, true_and, ne_eq, not_false_eq_true, reduceCtorEq, and_false,
      false_or]
    split <;> rfl
  have listing : ∀ instant, connection.now ≤ instant →
      failed.2.store.store.listed tag instant =
        if connection.store.strikesAhead .delete 2 then connection.store.store.listed tag instant
        else [] := by
    intro instant reached
    rw [MemoryStore.listed, MemoryStore.record?, after _ _ reached]
    cases connection.store.strikesAhead .delete 2 with
    | true => simp [MemoryStore.listed, MemoryStore.record?]
    | false => simp
  refine ⟨counted struck, fun key differs => ?_, listing _ (Nat.le_refl _),
    fun key listed differs => ?_⟩
  · rw [after key _ (Nat.le_refl _), if_neg fun both => differs both.1]
  · have tracked' : (failed.2.calmed later).store.declared.keepsTags = true := by
      rw [← tracked, ← spent.declared]
      rfl
    obtain ⟨-, found, -⟩ := invalidateTag_observed tracked' tag
    have spared := fun operation => ObservedStore.strikesAhead_of_unplanned
      (show (failed.2.calmed later).store.plans = [] from rfl) operation
    refine (found key).trans ?_
    simp only [spared, differs, true_and, or_false, and_true]
    have lists' : (failed.2.calmed later).store.store.listed tag (failed.2.calmed later).now = _ :=
      listing later ordered
    have held : (failed.2.calmed later).store.store.find? key (failed.2.calmed later).now = _ :=
      after key later ordered
    rw [held, lists', MemoryStore.listed_later ordered]
    -- The retry finds the keys exactly when the record is still there and has not expired.
    cases connection.store.strikesAhead .delete 2 with
    | false => simp [differs]
    | true =>
      cases (connection.store.store.record? (Key.ofTag tag) later).isSome with
      | false => simp
      | true => simp [listed, lists]

end

open scoped Libraries.Plain

/-- A connection on which one key has been written under a tag, and the next deletion fails. -/
def taggedOnce : Connection (ObservedStore MemoryStore) :=
  (setTagged "key" (Document.integer 1) ["tag"] none
    (opened .standard ⟨.ofCapacity 9, .all, [(.delete, .at [1])], none, []⟩ 0)).2

/-- After the failed deletion the key stays through the retry, for the record is gone. -/
theorem invalidateTag_retried_lost :
    (invalidateTag "tag" taggedOnce).1 = 0 ∧
      (invalidateTag "tag" taggedOnce).2.store.store.listed "tag" 0 = [] ∧
      (invalidateTag "tag" ((invalidateTag "tag" taggedOnce).2.calmed 0)).2.store.store.find?
        "key" 0 = some (.value ⟨"0|1", some 300000⟩) := by
  obtain ⟨answer, -, listing, retried⟩ := invalidateTag_retried taggedOnce (by decide +kernel)
    "tag" (by decide +kernel) (by decide +kernel) (by decide +kernel)
    (show taggedOnce.now ≤ 0 by decide +kernel)
  refine ⟨answer, listing.trans (by decide +kernel), ?_⟩
  exact (retried "key" (by decide +kernel) (by decide +kernel)).trans (by decide +kernel)

end Connection

end FailOpenCache
