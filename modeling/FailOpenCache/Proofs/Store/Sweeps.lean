import FailOpenCache.Proofs.Store.Fallback
import Mathlib.Data.Finset.Card

/-!
# Sweeps of the fallback store

A sweep drops what has expired, and what has expired is never read. So two runs of the fallback
store that differ in their sweeps only answer alike: one store holds what the other holds, except
for what has expired in the other, and every call keeps it so. The one call that sees more is a
deletion. It counts the keys under which something is held, be it live or not, and so its count is
greater without sweeps by the keys that a sweep would have cleared before.
-/

namespace FailOpenCache

namespace FallbackStore

/-- Something is held under a key, and all of it has expired. -/
def stale (store : FallbackStore) (key : String) (now : Millis) : Bool :=
  store.holds key && (store.value? key now).isNone && (store.record? key now).isNone

/-- Where everything has expired, something is held. -/
theorem holds_of_stale {store : FallbackStore} {key : String} {now : Millis}
    (lapsed : store.stale key now = true) : store.holds key = true := by
  rw [stale, Bool.and_eq_true, Bool.and_eq_true] at lapsed
  exact lapsed.1.1

/-- Where nothing is held, nothing is live. -/
theorem nothing_of_unheld {store : FallbackStore} {key : String}
    (unheld : store.holds key = false) (now : Millis) :
    store.value? key now = none ∧ store.record? key now = none := by
  rw [holds, Bool.or_eq_false_iff, Table.contains, Table.contains, Option.isSome_eq_false_iff,
    Option.isSome_eq_false_iff, Option.isNone_iff_eq_none, Option.isNone_iff_eq_none] at unheld
  rw [value?, record?, unheld.1, unheld.2]
  exact ⟨rfl, rfl⟩

/-- A key is held once another is dropped, if it was and is not that one. -/
theorem holds_remove (store : FallbackStore) (key other : String) :
    (store.remove key).holds other = (decide (other ≠ key) && store.holds other) := by
  rw [holds, holds, remove, Table.contains, Table.contains, Table.find?_erase, Table.find?_erase]
  by_cases same : other = key
  · simp [same]
  · simp [same, Table.contains]

/-- A deletion counts the keys under which something is held, each once. -/
theorem delete_fst (keys : List String) (store : FallbackStore) :
    (store.delete keys).1 = (keys.toFinset.filter fun key => store.holds key = true).card := by
  induction keys generalizing store with
  | nil => rfl
  | cons key rest ih =>
    have without : (rest.toFinset.filter fun other => (store.remove key).holds other = true) =
        (rest.toFinset.filter fun other => store.holds other = true).erase key := by
      ext other
      simp only [holds_remove, Finset.mem_filter, Finset.mem_erase, Bool.and_eq_true,
        decide_eq_true_eq]
      tauto
    rw [delete]
    dsimp only
    rw [ih, without, List.toFinset_cons, Finset.filter_insert]
    by_cases held : store.holds key = true
    · rw [if_pos held, if_pos held, ← Finset.erase_insert_eq_erase,
        Finset.card_erase_add_one (Finset.mem_insert_self key _)]
    · have outside : key ∉ rest.toFinset.filter fun other => store.holds other = true := by
        intro inside
        exact held (Finset.mem_filter.1 inside).2
      rw [if_neg held, if_neg held, Finset.erase_eq_of_notMem outside]

/-- One store holds what another holds, except for some of what has expired there. -/
structure Thinned (now : Millis) (swept plain : FallbackStore) : Prop where
  /-- The values. -/
  entries : Table.Thinned (fun entry => entry.isExpired now) swept.entries plain.entries
  /-- The records. -/
  sets : Table.Thinned (fun record => record.isExpired now) swept.sets plain.sets

namespace Thinned

variable {swept plain : FallbackStore} {now : Millis}

/-- A store holds what it holds. -/
theorem refl (now : Millis) (store : FallbackStore) : Thinned now store store :=
  ⟨.refl _ _, .refl _ _⟩

/-- What is left of a store that holds less holds less. -/
theorem trans {less : FallbackStore} (early : Thinned now swept plain)
    (late : Thinned now less swept) : Thinned now less plain :=
  ⟨early.entries.trans late.entries, early.sets.trans late.sets⟩

/-- A store that is read loses a value at most that has expired. -/
theorem of_get (store : FallbackStore) (key : String) (now : Millis) :
    Thinned now (store.get key now).2 store where
  entries := by
    rw [(store.entries_get key now).1]
    exact .of_settle _ _ _
  sets := by
    rw [(store.entries_get key now).2]
    exact .refl _ _

/-- More has expired later. -/
theorem later {later : Millis} (ordered : now ≤ later) (thinned : Thinned now swept plain) :
    Thinned later swept plain :=
  ⟨thinned.entries.mono fun _ => hasPassed_mono ordered,
    thinned.sets.mono fun _ => hasPassed_mono ordered⟩

/-- The same value is live under a key. -/
theorem value?_eq (thinned : Thinned now swept plain) (key : String) :
    swept.value? key now = plain.value? key now :=
  thinned.entries.live_eq key

/-- The same record is live under a key. -/
theorem record?_eq (thinned : Thinned now swept plain) (key : String) :
    swept.record? key now = plain.record? key now :=
  thinned.sets.live_eq key

/-- The store that holds less is swept. -/
theorem purge (thinned : Thinned now swept plain) : Thinned now (swept.purge now).2 plain :=
  ⟨thinned.entries.sweep, thinned.sets.sweep⟩

/-- A read. -/
theorem get (thinned : Thinned now swept plain) (key : String) :
    (swept.get key now).1 = (plain.get key now).1 ∧
      Thinned now (swept.get key now).2 (plain.get key now).2 := by
  constructor
  · rw [get_fst, get_fst, thinned.value?_eq]
  · have read := swept.entries_get key now
    have read' := plain.entries_get key now
    constructor
    · rw [read.1, read'.1]
      exact thinned.entries.settle key
    · rw [read.2, read'.2]
      exact thinned.sets

/-- A use of a record. -/
theorem useSet (thinned : Thinned now swept plain) (key : String) :
    (swept.useSet key now).1 = (plain.useSet key now).1 ∧
      Thinned now (swept.useSet key now).2 (plain.useSet key now).2 := by
  constructor
  · rw [useSet_fst, useSet_fst, thinned.record?_eq]
  · have used := swept.sets_useSet key now
    have used' := plain.sets_useSet key now
    constructor
    · rw [used.2, used'.2]
      exact thinned.entries
    · rw [used.1, used'.1]
      exact thinned.sets.settle key

/-- A probe. -/
theorem probe (thinned : Thinned now swept plain) (key : String) :
    (swept.probe key now).1 = (plain.probe key now).1 ∧
      Thinned now (swept.probe key now).2 (plain.probe key now).2 := by
  obtain ⟨same, left⟩ := thinned.get key
  rw [FallbackStore.probe, FallbackStore.probe]
  rcases read : swept.get key now with ⟨found, swept'⟩
  rcases read' : plain.get key now with ⟨found', plain'⟩
  rw [read, read'] at same left
  dsimp only at same left
  subst same
  cases found with
  | some payload => exact ⟨rfl, left⟩
  | none =>
    obtain ⟨record, used⟩ := left.useSet key
    exact ⟨congrArg Option.isSome record, used⟩

/-- A write. -/
theorem set (thinned : Thinned now swept plain) (key payload : String) (lifetime : Seconds) :
    Thinned now (swept.set key payload lifetime now) (plain.set key payload lifetime now) :=
  ⟨thinned.entries.put key _, thinned.sets⟩

/-- An addition to a counter. -/
theorem increment (thinned : Thinned now swept plain) (key : String) (amount : Int) :
    (swept.increment key amount now).1 = (plain.increment key amount now).1 ∧
      Thinned now (swept.increment key amount now).2 (plain.increment key amount now).2 := by
  have same : swept.counter key now = plain.counter key now := by
    rw [counter_eq, counter_eq, thinned.value?_eq]
  rw [FallbackStore.increment, FallbackStore.increment, same]
  split
  · exact ⟨rfl, thinned.entries.put key _, thinned.sets⟩
  · exact ⟨rfl, thinned.entries.put key _, thinned.sets⟩

/-- An addition of a member. -/
theorem addMember (thinned : Thinned now swept plain) (key member : String)
    (lifetime : Seconds) :
    Thinned now (swept.addMember key member lifetime now)
      (plain.addMember key member lifetime now) := by
  refine ⟨thinned.entries, ?_⟩
  rw [sets_addMember, sets_addMember, thinned.record?_eq]
  exact thinned.sets.put key _

/-- A read of members. -/
theorem members (thinned : Thinned now swept plain) (key : String) :
    (swept.members key now).1 = (plain.members key now).1 ∧
      Thinned now (swept.members key now).2 (plain.members key now).2 := by
  constructor
  · rw [members_fst, members_fst, thinned.record?_eq]
  · exact (thinned.useSet key).2

/-- The keys that match a pattern. -/
theorem keysLike (thinned : Thinned now swept plain) (pattern : Pattern) :
    (swept.keysLike pattern now).Perm (plain.keysLike pattern now) :=
  (thinned.entries.names_perm.append thinned.sets.names_perm).filter _

/-- Keys are deleted. -/
theorem delete (thinned : Thinned now swept plain) (keys : List String) :
    Thinned now (swept.delete keys).2 (plain.delete keys).2 := by
  induction keys generalizing swept plain with
  | nil => exact thinned
  | cons key rest ih => exact ih ⟨thinned.entries.erase key, thinned.sets.erase key⟩

/-- What is held under a key of one store only has expired. -/
theorem stale_of_unheld (thinned : Thinned now swept plain) {key : String}
    (held : plain.holds key = true) (unheld : ¬ swept.holds key = true) :
    plain.stale key now = true := by
  rw [Bool.not_eq_true] at unheld
  obtain ⟨value, record⟩ := nothing_of_unheld unheld now
  rw [thinned.value?_eq] at value
  rw [thinned.record?_eq] at record
  rw [stale, held, value, record]
  rfl

/-- What is held under a key is held where less has been dropped. -/
theorem holds (thinned : Thinned now swept plain) {key : String} (held : swept.holds key = true) :
    plain.holds key = true := by
  rw [FallbackStore.holds, Bool.or_eq_true] at held ⊢
  exact held.imp thinned.entries.contains thinned.sets.contains

/-- A deletion counts more keys where less has been dropped before: those under which all that is
held has expired. -/
theorem delete_fst_add (thinned : Thinned now swept plain) (keys : List String) :
    (plain.delete keys).1 = (swept.delete keys).1 +
      (keys.toFinset.filter fun key =>
        plain.stale key now = true ∧ ¬ swept.holds key = true).card := by
  rw [delete_fst, delete_fst, ← Finset.card_union_of_disjoint]
  · congr 1
    ext key
    simp only [Finset.mem_union, Finset.mem_filter]
    constructor
    · rintro ⟨inside, held⟩
      by_cases kept : swept.holds key = true
      · exact .inl ⟨inside, kept⟩
      · exact .inr ⟨inside, thinned.stale_of_unheld held kept, kept⟩
    · rintro (⟨inside, held⟩ | ⟨inside, lapsed, -⟩)
      · exact ⟨inside, thinned.holds held⟩
      · exact ⟨inside, holds_of_stale lapsed⟩
  · refine Finset.disjoint_filter.2 fun key _ held lapsed => ?_
    exact lapsed.2 held

end Thinned

/-- A call to the fallback store. -/
inductive Call where
  /-- Read the payload under a key. -/
  | get (key : String)
  /-- Write a payload with a lifetime. -/
  | set (key payload : String) (lifetime : Seconds)
  /-- Delete keys, and count them. -/
  | delete (keys : List String)
  /-- Say whether a value or a set is live under a key. -/
  | probe (key : String)
  /-- Add to a counter. -/
  | increment (key : String) (amount : Int)
  /-- Add a member to a set. -/
  | addMember (key member : String) (lifetime : Seconds)
  /-- Read the members of a set. -/
  | members (key : String)
  /-- List the keys that match a pattern. -/
  | keysLike (pattern : Pattern)
  /-- Sweep. -/
  | purge
deriving DecidableEq

namespace Call

/-- What a call is answered with. -/
def Reply : Call → Type
  | get _ => Option String
  | set _ _ _ | addMember _ _ _ => Unit
  | delete _ | purge => Nat
  | probe _ => Bool
  | increment _ _ => Option Int
  | members _ | keysLike _ => List String

/-- The call is a sweep. -/
def isSweep : Call → Bool
  | purge => true
  | _ => false

/-- The counts of a deletion by two stores, of which the first has been swept more often. The other
one also counts the keys under which all that it holds has expired and the first holds nothing; so
the counts are the same exactly when there is no such key. -/
def CountsAgree (keys : List String) (now : Millis) (swept plain : FallbackStore)
    (counted counted' : Nat) : Prop :=
  counted' = counted + (keys.toFinset.filter fun key =>
      plain.stale key now = true ∧ ¬ swept.holds key = true).card ∧
    (counted = counted' ↔ ∀ key ∈ keys, plain.stale key now = true → swept.holds key = true)

/-- The answers of two stores to a call, of which the first has been swept more often, agree: those
of a deletion as counts, the keys listed up to their order, and all others are the same. -/
def Agrees : (call : Call) → Millis → FallbackStore → FallbackStore → call.Reply → call.Reply → Prop
  | delete keys, now, swept, plain, counted, counted' =>
    CountsAgree keys now swept plain counted counted'
  | keysLike _, _, _, _, listed, listed' => listed.Perm listed'
  | _, _, _, _, answer, answer' => answer = answer'

end Call

/-- Carry out a call at an instant. -/
def perform (store : FallbackStore) (now : Millis) : (call : Call) → call.Reply × FallbackStore
  | .get key => store.get key now
  | .set key payload lifetime => ((), store.set key payload lifetime now)
  | .delete keys => store.delete keys
  | .probe key => store.probe key now
  | .increment key amount => store.increment key amount now
  | .addMember key member lifetime => ((), store.addMember key member lifetime now)
  | .members key => store.members key now
  | .keysLike pattern => (store.keysLike pattern now, store)
  | .purge => store.purge now

/-- What a call comes to. -/
structure Performed where
  /-- When the call is made. -/
  now : Millis
  /-- The call. -/
  call : Call
  /-- The store that it finds. -/
  found : FallbackStore
  /-- Its answer. -/
  answer : call.Reply

/-- Carry out calls one after the other, each at its instant. -/
def performAll (store : FallbackStore) : List (Millis × Call) → List Performed
  | [] => []
  | (now, call) :: rest =>
    ⟨now, call, store, (store.perform now call).1⟩ ::
      (store.perform now call).2.performAll rest

/-- One call at one instant is answered alike by two stores, of which the first has been swept more
often. -/
inductive Performed.Alike : Performed → Performed → Prop where
  /-- The call is the same, and the answers agree. -/
  | intro {now : Millis} {call : Call} {swept plain : FallbackStore} {answer answer' : call.Reply}
    (agrees : call.Agrees now swept plain answer answer') :
    Performed.Alike ⟨now, call, swept, answer⟩ ⟨now, call, plain, answer'⟩

/-- A call other than a sweep is answered alike, and the stores stay alike. -/
theorem Thinned.perform {swept plain : FallbackStore} {now : Millis}
    (thinned : Thinned now swept plain) {call : Call} (noSweep : call.isSweep = false) :
    call.Agrees now swept plain (swept.perform now call).1 (plain.perform now call).1 ∧
      Thinned now (swept.perform now call).2 (plain.perform now call).2 := by
  cases call with
  | get key => exact thinned.get key
  | set key payload lifetime => exact ⟨rfl, thinned.set key payload lifetime⟩
  | delete keys =>
    have counted := thinned.delete_fst_add keys
    have same : (swept.delete keys).1 = (plain.delete keys).1 ↔
        ∀ key ∈ keys, plain.stale key now = true → swept.holds key = true := by
      rw [counted, Nat.left_eq_add, Finset.card_eq_zero, Finset.filter_eq_empty_iff]
      simp only [List.mem_toFinset, not_and, not_not]
    exact ⟨⟨counted, same⟩, thinned.delete keys⟩
  | probe key => exact thinned.probe key
  | increment key amount => exact thinned.increment key amount
  | addMember key member lifetime => exact ⟨rfl, thinned.addMember key member lifetime⟩
  | members key => exact thinned.members key
  | keysLike pattern => exact ⟨thinned.keysLike pattern, thinned⟩
  | purge => exact absurd noSweep (by decide)

/-- Runs of stores that hold the same but for what has expired answer alike, if they differ in their
sweeps only. -/
theorem Thinned.performAll {swept plain : FallbackStore} {now : Millis}
    (thinned : Thinned now swept plain) {calls : List (Millis × Call)}
    (ordered : (now :: calls.map Prod.fst).Pairwise (· ≤ ·)) :
    List.Forall₂ Performed.Alike
      ((swept.performAll calls).filter fun performed => !performed.call.isSweep)
      (plain.performAll (calls.filter fun call => !call.2.isSweep)) := by
  -- A sweep is a step of the first store only, any other call is one of both.
  induction calls generalizing swept plain now with
  | nil => exact .nil
  | cons first rest ih =>
    obtain ⟨instant, call⟩ := first
    obtain ⟨before, behind⟩ := List.pairwise_cons.1 ordered
    have reached := thinned.later (before instant List.mem_cons_self)
    rw [FallbackStore.performAll]
    cases sweeps : call.isSweep with
    | true =>
      cases call with
      | purge => exact ih reached.purge behind
      | _ => exact absurd sweeps (by simp [Call.isSweep])
    | false =>
      obtain ⟨agrees, left⟩ := reached.perform sweeps
      simp only [List.filter_cons, sweeps, Bool.not_false, ↓reduceIte, FallbackStore.performAll]
      exact .cons (.intro agrees) (ih left behind)

/-- A sweep counts the values and the records that have expired, leaves those that are live and no
others. -/
theorem purge_spec (store : FallbackStore) (now : Millis) :
    (store.purge now).1 = (store.entries.filter fun _ entry => entry.isExpired now).size +
        (store.sets.filter fun _ record => record.isExpired now).size ∧
      (∀ key, (store.purge now).2.entries.find? key = store.value? key now) ∧
      ∀ key, (store.purge now).2.sets.find? key = store.record? key now := by
  refine ⟨?_, fun key => Table.find?_filter _ _ key, fun key => Table.find?_filter _ _ key⟩
  have entries := store.entries.size_filter_add fun entry => entry.isExpired now
  have sets := store.sets.size_filter_add fun record => record.isExpired now
  show store.size - size _ = _
  simp only [size]
  omega

/-- Sweeps between the other calls of a run, as many as there are and wherever they are, change no
answer of the others, but for the counts of deletions: a deletion counts a key less exactly when
nothing is held under it any more and something would be without the sweeps, all of it expired. And
a sweep counts what has expired, values and records, and leaves exactly what is live. -/
theorem performAll_swept (store : FallbackStore) {calls : List (Millis × Call)}
    (ordered : (calls.map Prod.fst).Pairwise (· ≤ ·)) :
    List.Forall₂ Performed.Alike
        ((store.performAll calls).filter fun performed => !performed.call.isSweep)
        (store.performAll (calls.filter fun call => !call.2.isSweep)) ∧
      ∀ (held : FallbackStore) (now : Millis),
        (held.purge now).1 = (held.entries.filter fun _ entry => entry.isExpired now).size +
            (held.sets.filter fun _ record => record.isExpired now).size ∧
          (∀ key, (held.purge now).2.entries.find? key = held.value? key now) ∧
          ∀ key, (held.purge now).2.sets.find? key = held.record? key now := by
  have ordered' : (0 :: calls.map Prod.fst).Pairwise (· ≤ ·) :=
    List.pairwise_cons.2 ⟨fun _ _ => Nat.zero_le _, ordered⟩
  exact ⟨(Thinned.refl 0 store).performAll ordered', purge_spec⟩

/-- The count of a deletion. -/
def Performed.removed? : Performed → Option Nat
  | ⟨_, .delete _, _, counted⟩ => some counted
  | _ => none

/-- A key is deleted when its value has expired, once with a sweep in between and once without. -/
def lingeringCalls : List (Millis × Call) :=
  [(0, .set "k" "v" 1), (1000, .delete ["k"]), (1000, .set "k" "v" 1), (2000, .purge),
    (2000, .delete ["k"])]

/-- The value that has expired is counted by a deletion, unless a sweep comes before. -/
theorem performAll_swept_lingering :
    List.Forall₂ Performed.Alike
        ((empty.performAll lingeringCalls).filter fun performed => !performed.call.isSweep)
        (empty.performAll (lingeringCalls.filter fun call => !call.2.isSweep)) ∧
      (empty.performAll lingeringCalls).filterMap Performed.removed? = [1, 0] ∧
      (empty.performAll (lingeringCalls.filter fun call => !call.2.isSweep)).filterMap
        Performed.removed? = [1, 1] :=
  ⟨(performAll_swept empty (by decide)).1, by decide, by decide⟩

end FallbackStore

end FailOpenCache
