import FailOpenCache.Libraries.Plain
import FailOpenCache.Proofs.Store.EagerAnswers
import FailOpenCache.Proofs.Store.Records

/-!
# What a refused request leaves

A request to the store in memory can fail once it has begun: a key holds what the request is not
about, a counter would leave its range, a pattern is none. What had been met until then was only
used, and a use changes nothing of what is live, so the store is as it was. Adding a member to
several keys is the one request that writes as it goes on: it fails at the first key that holds a
value, and the keys before that one keep what they got.
-/

namespace FailOpenCache.MemoryStore

/-- One store is left of another at an instant without a loss: the same is live, with the same
deadlines, and nothing is held that was not. -/
structure Intact (store left : MemoryStore) (now : Millis) : Prop where
  /-- Every key holds what it held, unless that has expired. -/
  live : ∀ key, left.find? key now = store.find? key now
  /-- What is held was held before. -/
  held : ∀ key slot, left.slots.find? key = some slot → store.slots.find? key = some slot
  /-- No key has given way to another. -/
  evictions : left.evictions = store.evictions

namespace Intact

variable {store : MemoryStore} {now : Millis}

/-- A store is left of itself. -/
theorem refl (store : MemoryStore) (now : Millis) : Intact store store now :=
  ⟨fun _ => rfl, fun _ _ => id, rfl⟩

/-- What is left of what is left. -/
theorem trans {mid left : MemoryStore} (first : Intact store mid now)
    (later : Intact mid left now) : Intact store left now where
  live key := (later.live key).trans (first.live key)
  held key slot found := first.held key slot (later.held key slot found)
  evictions := later.evictions.trans first.evictions

/-- A use leaves the store intact: what it drops has expired. -/
theorem use (store : MemoryStore) (key : String) (now : Millis) :
    Intact store (store.use key now).2 now where
  live other := find?_use store key other now
  held other slot found := by
    rcases use_slots store key now with same | dropped
    · rwa [same] at found
    · rw [dropped, Table.find?_erase] at found
      split at found
      · exact absurd found (by simp)
      · exact found
  evictions := evictions_use store key now

/-- Reads of several keys leave the store intact, be they refused or not. -/
theorem getMany (keys : List String) (store : MemoryStore) (now : Millis) :
    Intact store (store.getMany keys now).2 now := by
  induction keys generalizing store with
  | nil => exact refl store now
  | cons key rest ih =>
    have first : Intact store (store.get key now).2 now := by
      rw [get_snd]
      exact use store key now
    rw [MemoryStore.getMany]
    rcases read : store.get key now with ⟨error | found, used⟩
    · rw [read] at first
      exact first
    · rw [read] at first
      exact first.trans (ih used)

/-- A refused addition to a counter leaves the store intact. -/
theorem increment {key : String} {amount : Int} {error : StoreError}
    (refused : (store.increment key amount now).1 = .error error) :
    Intact store (store.increment key amount now).2 now := by
  have nothing : addition? (store.find? key now) amount = none := by
    cases addition : addition? (store.find? key now) amount with
    | none => rfl
    | some counted =>
      rw [increment_counted addition] at refused
      exact absurd refused (by simp)
  rw [(increment_refused nothing).2]
  exact use store key now

end Intact

variable {store : MemoryStore} {now : Millis}

/-- The addition of a member to keys stopped at one that holds a value, and what is left is what the
addition to the keys before it leaves. -/
def Stopped (store : MemoryStore) (keys : List String) (member : String) (lifetime : Seconds)
    (now : Millis) (left : MemoryStore) : Prop :=
  ∃ before key after, keys = before ++ key :: after ∧
    (store.addMember before member lifetime now).1 = .ok () ∧
    (∃ entry, (store.addMember before member lifetime now).2.find? key now =
      some (.value entry)) ∧
    Intact (store.addMember before member lifetime now).2 left now

/-- A key that is written is the first of those before the one where the addition stops. -/
theorem Stopped.behind {written left : MemoryStore} {key member : String} {rest : List String}
    {lifetime : Seconds}
    (step : ∀ later, store.addMember (key :: later) member lifetime now =
      written.addMember later member lifetime now)
    (stopped : Stopped written rest member lifetime now left) :
    Stopped store (key :: rest) member lifetime now left := by
  obtain ⟨before, stop, after, rfl, accepted, value, intact⟩ := stopped
  refine ⟨key :: before, stop, after, rfl, ?_⟩
  rw [step before]
  exact ⟨accepted, value, intact⟩

/-- A refused addition of a member stopped at a key that holds a value. -/
theorem addMember_refused {keys : List String} {member : String} {lifetime : Seconds}
    {error : StoreError} (refused : (store.addMember keys member lifetime now).1 = .error error) :
    Stopped store keys member lifetime now (store.addMember keys member lifetime now).2 := by
  induction keys generalizing store with
  | nil => exact absurd refused (by simp [addMember])
  | cons key rest ih =>
    have answered := use_fst store key now
    have intact := Intact.use store key now
    rw [addMember] at refused ⊢
    rcases used : store.use key now with ⟨_ | slot, left⟩
    · rw [used] at refused
      exact (ih refused).behind fun later => by rw [addMember, used]
    · rw [used] at refused answered intact
      cases slot with
      | set members deadline => exact (ih refused).behind fun later => by rw [addMember, used]
      | value entry => exact ⟨[], key, rest, rfl, rfl, ⟨entry, answered.symm⟩, intact⟩

/-- A request that is refused leaves the store intact, whatever the request and the store, unless it
adds a member to several keys: then it leaves exactly what adding the member to the keys before the
one that holds a value leaves. -/
theorem answer_refused [Libraries] {request : Request} {error : StoreError}
    (refused : (store.answer request now).1 = .error error) :
    (request.operation ≠ .addMember → Intact store (store.answer request now).2 now) ∧
      ∀ keys member lifetime, request = .addMember keys member lifetime →
        ∃ before key after, keys = before ++ key :: after ∧
          (store.answer (.addMember before member lifetime) now).1 = .ok () ∧
          (∃ entry, (store.answer (.addMember before member lifetime) now).2.find? key now =
            some (.value entry)) ∧
          Intact (store.answer (.addMember before member lifetime) now).2
            (store.answer request now).2 now := by
  constructor
  · intro single
    cases request with
    | ping => exact .refl store now
    | close => exact absurd refused (by simp [answer])
    | get key =>
      have left : (store.answer (.get key) now).2 = (store.use key now).2 :=
        get_snd store key now
      rw [left]
      exact .use store key now
    | set key payload lifetime => exact absurd refused (by simp [answer])
    | delete keys => exact absurd refused (by simp [answer])
    | probe key => exact .use store key now
    | increment key amount => exact .increment refused
    | scan cursor pattern count => exact .refl store now
    | getMany keys => exact .getMany keys store now
    | setMany items lifetime => exact absurd refused (by simp [answer])
    | addMember keys member lifetime => exact absurd rfl single
    | members key =>
      have left : (store.answer (.members key) now).2 = (store.use key now).2 :=
        members_snd store key now
      rw [left]
      exact .use store key now
  · rintro keys member lifetime rfl
    exact addMember_refused refused

/-- Requests that fill a store for three keys with a value, a record and another value. -/
def crowdingCalls : List (Millis × Request) :=
  [(0, .set "old" "1" 0), (0, .addMember ["tag:s"] "x" 0), (0, .set "plain" "2" 0)]

open scoped Libraries.Plain

/-- The store that these requests leave. -/
def crowded : MemoryStore := ((ofCapacity 3).answerAll crowdingCalls).2

/-- In a full store a counter that would leave its range changes nothing, and the addition of a
member stops at the second of three keys. -/
theorem answer_refused_crowded :
    Intact crowded (crowded.answer (.increment "plain" greatestCounter) 0).2 0 ∧
      ∃ before key after, ["tag:s", "plain", "tag:new"] = before ++ key :: after ∧
        (crowded.answer (.addMember before "m" 5) 0).1 = .ok () ∧
        (∃ entry, (crowded.answer (.addMember before "m" 5) 0).2.find? key 0 =
          some (.value entry)) ∧
        Intact (crowded.answer (.addMember before "m" 5) 0).2
          (crowded.answer (.addMember ["tag:s", "plain", "tag:new"] "m" 5) 0).2 0 := by
  have overflows : (crowded.answer (.increment "plain" greatestCounter) 0).1 =
      .error (.backend .counterOverflow) := rfl
  have wrongKind : (crowded.answer (.addMember ["tag:s", "plain", "tag:new"] "m" 5) 0).1 =
      .error (.backend .wrongKind) := rfl
  exact ⟨(answer_refused overflows).1 (by decide),
    (answer_refused wrongKind).2 _ _ _ rfl⟩

/-- An addition of a member that is refused at the last of its keys has written the first, has put
the second into the store, and has made a live key give way to it. -/
theorem addMember_halfway :
    let left := (crowded.answer (.addMember ["tag:s", "tag:new", "plain"] "m" 5) 0).2
    (crowded.answer (.addMember ["tag:s", "tag:new", "plain"] "m" 5) 0).1 =
        .error (.backend .wrongKind) ∧
      (crowded.find? "old" 0).isSome = true ∧ left.find? "old" 0 = none ∧
      crowded.find? "tag:s" 0 = some (.set ⟨["x"], by decide⟩ none) ∧
      left.find? "tag:s" 0 = some (.set ⟨["x", "m"], by decide⟩ (some 5000)) ∧
      crowded.slots.contains "tag:new" = false ∧ left.slots.contains "tag:new" = true := by
  refine ⟨rfl, ?_⟩
  decide

end FailOpenCache.MemoryStore
