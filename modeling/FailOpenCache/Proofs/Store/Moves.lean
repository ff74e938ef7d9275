import FailOpenCache.Cache.Batches
import FailOpenCache.Proofs.Store.Fallback

/-!
# What can happen under a key

Under a key a store has at most a value and a record that are live. An operation moves what is there
in three ways only: it writes an entry, it drops everything, or it changes the record. A licence
says which of the three an operation has under a key, and every move that it makes is within its
licence. What stays true under a key is read off the licence then: a value that may be neither
written nor dropped stays as it is, one that may not be dropped stays live, and where nothing may be
written nothing appears.
-/

namespace FailOpenCache

/-- What is live under a key. -/
structure Contents where
  /-- The value. -/
  value : Option Entry
  /-- The record of members. -/
  record : Option MemberRecord

/-- Nothing is live. -/
def Contents.nothing : Contents := ⟨none, none⟩

/-- What may be done under a key. -/
structure Licence where
  /-- An entry may be written. -/
  write : Prop
  /-- Everything may be dropped. -/
  delete : Prop
  /-- The record may be changed. -/
  enlist : Prop

/-- Nothing may be done. -/
def Licence.none : Licence := ⟨False, False, False⟩

/-- What is done under a key within a licence, one thing after the other. -/
inductive Moves (licence : Licence) (now : Millis) (start : Contents) : Contents → Prop where
  /-- Nothing is done. -/
  | refl : Moves licence now start start
  /-- An entry is written, which has not expired at once if the clock can still go on. -/
  | write {before : Contents} (moves : Moves licence now start before) (allowed : licence.write)
    (entry : Entry) (fresh : now < lastWord → entry.isExpired now = false)
    (record : Option MemberRecord) :
    Moves licence now start ⟨(some entry).filter fun entry => !entry.isExpired now, record⟩
  /-- Everything is dropped. -/
  | delete {before : Contents} (moves : Moves licence now start before)
    (allowed : licence.delete) : Moves licence now start .nothing
  /-- The record is changed. -/
  | enlist {before : Contents} (moves : Moves licence now start before)
    (allowed : licence.enlist) (record : Option MemberRecord) :
    Moves licence now start ⟨before.value, record⟩

namespace Moves

variable {licence : Licence} {now : Millis} {before after : Contents}

/-- What is left as it was. -/
theorem of_eq (same : after = before) : Moves licence now before after :=
  same ▸ .refl

/-- What is done after what has been done. -/
theorem trans {first second third : Contents} (early : Moves licence now first second)
    (late : Moves licence now second third) : Moves licence now first third := by
  induction late with
  | refl => exact early
  | write _ allowed entry fresh record ih => exact ih.write allowed entry fresh record
  | delete _ allowed ih => exact ih.delete allowed
  | enlist _ allowed record ih => exact ih.enlist allowed record

/-- A value that may be neither written nor dropped is the same afterwards. -/
theorem value_eq (moves : Moves licence now before after) (unwritten : ¬ licence.write)
    (undeleted : ¬ licence.delete) : after.value = before.value := by
  induction moves with
  | refl => rfl
  | write _ allowed => exact absurd allowed unwritten
  | delete _ allowed => exact absurd allowed undeleted
  | enlist _ _ _ ih => exact ih

/-- A value that may not be dropped is live afterwards, unless one is written at the last instant of
the clock. -/
theorem isSome_value (moves : Moves licence now before after) (undeleted : ¬ licence.delete)
    (early : licence.write → now < lastWord) (live : before.value.isSome) :
    after.value.isSome := by
  induction moves with
  | refl => exact live
  | write _ allowed entry fresh record => simp [Option.filter, fresh (early allowed)]
  | delete _ allowed => exact absurd allowed undeleted
  | enlist _ _ _ ih => exact ih

/-- Where nothing is live and nothing may be written or enlisted, nothing is live afterwards. -/
theorem nothing (moves : Moves licence now before after) (unwritten : ¬ licence.write)
    (unlisted : ¬ licence.enlist) (empty : before = .nothing) : after = .nothing := by
  cases moves with
  | refl => exact empty
  | write _ allowed => exact absurd allowed unwritten
  | delete => rfl
  | enlist _ allowed => exact absurd allowed unlisted

end Moves

namespace MemoryStore

variable {store : MemoryStore} {licence : Licence} {now : Millis} {key : String}

/-- What is live under a key of the store in memory. -/
def contents (store : MemoryStore) (key : String) (now : Millis) : Contents :=
  ⟨store.value? key now, store.record? key now⟩

/-- The same is live if the same is found. -/
theorem contents_eq {left : MemoryStore} (found : left.find? key now = store.find? key now) :
    left.contents key now = store.contents key now := by
  rw [contents, contents, value?, value?, record?, record?, found]

/-- A use of a key. -/
theorem contents_use (store : MemoryStore) (other key : String) (now : Millis) :
    (store.use other now).2.contents key now = store.contents key now :=
  contents_eq (store.find?_use other key now)

/-- A value that is put under a key. -/
theorem moves_insert {other : String} {entry : Entry} (allowed : other = key → licence.write)
    (fresh : now < lastWord → entry.isExpired now = false)
    (kept : (store.insert other (.value entry) now).evictions = store.evictions) :
    Moves licence now (store.contents key now)
      ((store.insert other (.value entry) now).contents key now) := by
  have found := find?_insert kept key
  by_cases here : key = other
  · rw [if_pos here] at found
    have written : Moves licence now (store.contents key now) _ :=
      Moves.refl.write (allowed here.symm) entry fresh
        ((live (.value entry) now).bind Slot.record?)
    rw [← value_live entry now] at written
    have left : (store.insert other (.value entry) now).contents key now =
        ⟨(live (.value entry) now).bind Slot.entry?,
          (live (.value entry) now).bind Slot.record?⟩ := by
      rw [contents, value?, record?, found]
    rw [left]
    exact written
  · rw [if_neg here] at found
    exact .of_eq (contents_eq found)

/-- A deletion. -/
theorem moves_delete {keys : List String} (allowed : key ∈ keys → licence.delete) :
    Moves licence now (store.contents key now) ((store.delete keys now).2.contents key now) := by
  have found := store.find?_delete keys key now
  by_cases here : key ∈ keys
  · rw [if_pos here] at found
    have left : (store.delete keys now).2.contents key now = .nothing := by
      rw [contents, value?, record?, found]
      rfl
    rw [left]
    exact Moves.refl.delete (allowed here)
  · rw [if_neg here] at found
    exact .of_eq (contents_eq found)

/-- The entry that an addition comes to has not expired. -/
theorem fresh_addition {amount sum : Int} {entry : Entry}
    (counted : addition? (store.find? key now) amount = some (sum, entry)) :
    entry.isExpired now = false := by
  rcases found : store.find? key now with _ | slot
  · rw [found] at counted
    obtain ⟨total, -, same⟩ := Option.map_eq_some_iff.1 counted
    obtain ⟨-, rfl⟩ := Prod.mk.inj same
    rfl
  · rw [found] at counted
    cases slot with
    | set members deadline => exact absurd counted (by simp [addition?])
    | value held =>
      obtain ⟨count, -, rest⟩ := Option.bind_eq_some_iff.1 counted
      obtain ⟨total, -, same⟩ := Option.map_eq_some_iff.1 rest
      obtain ⟨-, rfl⟩ := Prod.mk.inj same
      exact isExpired_of_find? found

/-- An addition to a counter. -/
theorem moves_increment {other : String} {amount : Int} (allowed : other = key → licence.write)
    (kept : (store.increment other amount now).2.evictions = store.evictions) :
    Moves licence now (store.contents key now)
      ((store.increment other amount now).2.contents key now) := by
  cases addition : addition? (store.find? other now) amount with
  | none =>
    rw [(increment_refused addition).2]
    exact .of_eq (contents_use store other key now)
  | some counted =>
    rw [increment_counted addition] at kept ⊢
    rw [← contents_use store other key now]
    exact moves_insert allowed (fun _ => fresh_addition addition)
      (kept.trans (store.evictions_use other now).symm)

/-- An addition to a counter under a key where nothing is live puts the amount there. -/
theorem increment_nothing {amount : Int} (low : leastCounter ≤ amount)
    (high : amount ≤ greatestCounter) (empty : store.contents key now = .nothing) :
    store.increment key amount now =
      (.ok amount, (store.use key now).2.insert key
        (.value ⟨Text.integerText amount, none⟩) now) := by
  have value : store.value? key now = none := congrArg Contents.value empty
  have record : store.record? key now = none := congrArg Contents.record empty
  have nothing : store.find? key now = none := by
    rw [← Option.isNone_iff_eq_none, ← Option.isSome_eq_false_iff, isSome_find?, value, record]
    rfl
  refine increment_counted ?_
  rw [nothing, addition?, addToCounter?_zero low high]
  rfl

/-- Writes of several keys. -/
theorem moves_setMany {items : List (String × String)} {lifetime : Seconds}
    (allowed : key ∈ items.map Prod.fst → licence.write)
    (kept : (store.setMany items lifetime now).evictions = store.evictions) :
    Moves licence now (store.contents key now)
      ((store.setMany items lifetime now).contents key now) := by
  induction items generalizing store with
  | nil => exact .refl
  | cons item rest ih =>
    have early := store.evictions_le_insert item.1 (.value (.write item.2 lifetime now)) now
    have late := evictions_le_setMany rest (store.set item.1 item.2 lifetime now) lifetime now
    have keptFirst := Nat.le_antisymm (kept ▸ late) early
    have first : Moves licence now (store.contents key now) _ :=
      moves_insert (fun here => allowed (here ▸ List.mem_cons_self))
        (Entry.isExpired_write item.2 lifetime) keptFirst
    exact first.trans (ih (fun held => allowed (List.mem_cons_of_mem _ held))
      (kept.trans keptFirst.symm))

/-- An addition of a member to records. -/
theorem moves_addMember {keys : List String} {member : String} {lifetime : Seconds}
    (allowed : key ∈ keys → licence.enlist)
    (kept : (store.addMember keys member lifetime now).2.evictions = store.evictions) :
    Moves licence now (store.contents key now)
      ((store.addMember keys member lifetime now).2.contents key now) := by
  obtain ⟨value, record⟩ := addMember_spec kept key
  rw [contents, contents, value, record]
  split
  · rename_i reached
    exact Moves.refl.enlist (allowed (mem_of_reaches reached)) _
  · exact .refl

end MemoryStore

/-- What a request does under a key is within a licence. -/
def Request.Within (licence : Licence) (key : String) : Request → Prop
  | set other _ _ | increment other _ => other = key → licence.write
  | setMany items _ => key ∈ items.map Prod.fst → licence.write
  | delete keys => key ∈ keys → licence.delete
  | addMember keys _ _ => key ∈ keys → licence.enlist
  | close => licence.delete
  | ping | get _ | probe _ | scan _ _ _ | getMany _ | members _ => True

/-- A request to the store in memory makes moves within its licence only. -/
theorem MemoryStore.moves_answer [Libraries] {store : MemoryStore} {licence : Licence} {now : Millis}
    {key : String} {request : Request} (within : request.Within licence key)
    (kept : (store.answer request now).2.evictions = store.evictions) :
    Moves licence now (store.contents key now) ((store.answer request now).2.contents key now) := by
  cases request with
  | ping => exact .refl
  | close => exact Moves.refl.delete within
  | get other =>
    have left : (store.answer (.get other) now).2 = _ := store.get_snd other now
    rw [left]
    exact .of_eq (contents_use store other key now)
  | set other payload lifetime =>
    exact moves_insert within (Entry.isExpired_write payload lifetime) kept
  | delete keys => exact moves_delete within
  | probe other => exact .of_eq (contents_use store other key now)
  | increment other amount => exact moves_increment within kept
  | scan cursor pattern count => exact .refl
  | getMany keys => exact .of_eq (contents_eq (store.find?_getMany keys key now))
  | setMany items lifetime => exact moves_setMany within kept
  | addMember keys member lifetime => exact moves_addMember within kept
  | members other =>
    have left : (store.answer (.members other) now).2 = _ := store.members_snd other now
    rw [left]
    exact .of_eq (contents_use store other key now)

namespace FallbackStore

variable {store : FallbackStore} {licence : Licence} {now : Millis} {key : String}

/-- What is live under a key of the fallback store. -/
def contents (store : FallbackStore) (key : String) (now : Millis) : Contents :=
  ⟨store.value? key now, store.record? key now⟩

/-- The same is live if the same value and the same record are. -/
theorem contents_eq {left : FallbackStore}
    (same : left.value? key now = store.value? key now ∧
      left.record? key now = store.record? key now) :
    left.contents key now = store.contents key now := by
  rw [contents, contents, same.1, same.2]

/-- Reads. -/
theorem contents_getEach (store : FallbackStore) (keys : List String) (key : String)
    (now : Millis) :
    (Connection.getEach now store keys).2.contents key now = store.contents key now := by
  induction keys generalizing store with
  | nil => rfl
  | cons other rest ih =>
    have first := contents_eq (store.get_snd other key now)
    exact (ih (store.get other now).2).trans first

/-- A value that is put under a key. -/
theorem moves_put {other : String} {entry : Entry} (allowed : other = key → licence.write)
    (fresh : now < lastWord → entry.isExpired now = false) :
    Moves licence now (store.contents key now)
      (contents { store with entries := store.entries.put other entry } key now) := by
  have left : contents { store with entries := store.entries.put other entry } key now =
      ⟨if key = other then (some entry).filter fun entry => !entry.isExpired now
        else store.value? key now, store.record? key now⟩ :=
    congrArg (Contents.mk · _) (store.value?_put other key entry now)
  rw [left]
  split
  · rename_i here
    exact Moves.refl.write (allowed here.symm) entry fresh _
  · exact .refl

/-- Writes of several keys. -/
theorem moves_setMany {items : List (String × String)} {lifetime : Seconds}
    (allowed : key ∈ items.map Prod.fst → licence.write) :
    Moves licence now (store.contents key now)
      ((items.foldl (fun written item => written.set item.1 item.2 lifetime now)
        store).contents key now) := by
  induction items generalizing store with
  | nil => exact .refl
  | cons item rest ih =>
    have first : Moves licence now (store.contents key now)
        ((store.set item.1 item.2 lifetime now).contents key now) :=
      moves_put (fun here => allowed (here ▸ List.mem_cons_self))
        (Entry.isExpired_write item.2 lifetime)
    exact first.trans (ih fun held => allowed (List.mem_cons_of_mem _ held))

/-- A deletion. -/
theorem moves_delete {keys : List String} (allowed : key ∈ keys → licence.delete) :
    Moves licence now (store.contents key now) ((store.delete keys).2.contents key now) := by
  obtain ⟨value, record⟩ := find?_delete keys store key now
  rw [contents, contents, value, record]
  split
  · rename_i here
    exact Moves.refl.delete (allowed here)
  · exact .refl

/-- An addition to a counter. -/
theorem moves_increment {other : String} {amount : Int} (allowed : other = key → licence.write) :
    Moves licence now (store.contents key now)
      ((store.increment other amount now).2.contents key now) := by
  have fresh : (store.counter other now).isExpired now = false := by
    rw [counter_eq]
    cases found : store.value? other now with
    | none => rfl
    | some entry => exact isExpired_of_value? found
  rw [increment]
  split
  · exact moves_put allowed fun _ => fresh
  · exact moves_put allowed fun _ => fresh

/-- An addition to a counter under a key where nothing is live puts the amount there. -/
theorem increment_nothing {amount : Int} (low : leastCounter ≤ amount)
    (high : amount ≤ greatestCounter) (empty : store.contents key now = .nothing) :
    store.increment key amount now =
      (some amount, { store with
        entries := store.entries.put key ⟨Text.integerText amount, none⟩ }) := by
  have value : store.value? key now = none := congrArg Contents.value empty
  refine increment_counted ?_
  rw [value, Option.map_none, MemoryStore.addition?, addToCounter?_zero low high]
  rfl

/-- An addition of a member to records. -/
theorem moves_addMember {keys : List String} {member : String} {lifetime : Seconds}
    (allowed : key ∈ keys → licence.enlist) :
    Moves licence now (store.contents key now)
      ((keys.foldl (fun recorded key => recorded.addMember key member lifetime now)
        store).contents key now) := by
  obtain ⟨value, record⟩ := foldl_addMember keys store member lifetime now key
  rw [contents, contents, value, record]
  split
  · rename_i reached
    exact Moves.refl.enlist (allowed (mem_of_reaches reached)) _
  · exact .refl

end FallbackStore

end FailOpenCache
