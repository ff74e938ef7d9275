import FailOpenCache.Fallback
import FailOpenCache.Proofs.Store.Memory

/-!
# Records of members

A record lists members until its deadline. Adding a member renews a record that is there, and starts
one anew that is not. The store in memory adds a member to several records in order and stops at the
first key that holds a value, so whether a record is reached depends on the keys before it; the
fallback store keeps values and records apart, and reaches all.
-/

namespace FailOpenCache

/-- An entry that is written before the last instant of the clock has not expired. -/
theorem Entry.isExpired_write (payload : String) (lifetime : Seconds) {now : Millis}
    (clock : now < lastWord) : (Entry.write payload lifetime now).isExpired now = false := by
  simp only [Entry.isExpired, Entry.write, deadlineAfter]
  split
  · rfl
  · rename_i lasting
    rw [hasPassed, decide_eq_false_iff_not, Nat.not_le]
    exact Nat.lt_min.2 ⟨Nat.lt_add_of_pos_right
      (Nat.mul_pos (by decide) (Nat.pos_of_ne_zero lasting)), clock⟩

/-- The value in a slot. -/
def Slot.entry? : Slot → Option Entry
  | value entry => some entry
  | set _ _ => none

/-- The record in a slot. -/
def Slot.record? : Slot → Option MemberRecord
  | value _ => none
  | set members deadline => some ⟨members, deadline⟩

/-- A name that is held is not inserted again. -/
theorem NameSet.insert_of_mem {set : NameSet} {name : String} (held : name ∈ set.names) :
    set.insert name = set := by
  rw [NameSet.insert, dif_pos held]

namespace MemberRecord

/-- A record with a member more and, unless the lifetime is zero, a new deadline; what is not there
starts with the member alone. -/
def added (member : String) (lifetime : Seconds) (now : Millis) :
    Option MemberRecord → MemberRecord
  | none => ⟨.singleton member, deadlineAfter now lifetime⟩
  | some record =>
    ⟨record.members.insert member,
      if lifetime = 0 then record.deadline else deadlineAfter now lifetime⟩

/-- What is there of a record after a member has been added. -/
def renewed (member : String) (lifetime : Seconds) (now : Millis) (record : Option MemberRecord) :
    Option MemberRecord :=
  (some (added member lifetime now record)).filter fun record => !record.isExpired now

/-- The member that was added is listed. -/
theorem mem_added (member : String) (lifetime : Seconds) (now : Millis)
    (record : Option MemberRecord) : member ∈ (added member lifetime now record).members.names := by
  cases record with
  | none => exact List.mem_singleton_self member
  | some record => exact (NameSet.mem_insert _ _ _).2 (.inl rfl)

/-- Adding a member to what is there twice at one instant is adding it once. -/
theorem renewed_renewed {record : Option MemberRecord} {now : Millis}
    (there : ∀ held ∈ record, held.isExpired now = false) (member : String)
    (lifetime : Seconds) :
    renewed member lifetime now (renewed member lifetime now record) =
      renewed member lifetime now record := by
  by_cases passed : (added member lifetime now record).isExpired now = true
  · have gone : renewed member lifetime now record = none := by
      simp [renewed, Option.filter, passed]
    -- What is gone at once has a deadline of its own, and starting anew gives it the same one.
    have anew : (added member lifetime now none).isExpired now = true := by
      cases record with
      | none => exact passed
      | some held =>
        have live := there held rfl
        simp only [isExpired, added] at passed live ⊢
        split at passed
        · rw [live] at passed
          exact absurd passed Bool.false_ne_true
        · exact passed
    rw [gone, renewed]
    simp [Option.filter, anew]
  · have stays : renewed member lifetime now record = some (added member lifetime now record) := by
      simp [renewed, Option.filter, passed]
    have listed := NameSet.insert_of_mem (mem_added member lifetime now record)
    have deadline : (if lifetime = 0 then (added member lifetime now record).deadline
        else deadlineAfter now lifetime) = (added member lifetime now record).deadline := by
      split
      · rfl
      · rename_i stated
        cases record with
        | none => rfl
        | some record => exact (if_neg stated).symm
    have again : added member lifetime now (some (added member lifetime now record)) =
        added member lifetime now record := by
      rw [added, listed, deadline]
    rw [stays, renewed, again]
    simp [Option.filter, passed]

end MemberRecord

/-- A member that is added to keys in order comes to a key, when it passes no key on the way and at
the end that does not accept members. -/
def reaches (accepts : String → Bool) (key : String) : List String → Bool
  | [] => false
  | first :: rest => accepts first && (first == key || reaches accepts key rest)

/-- Where all keys accept members it does not matter which keys do. -/
theorem reaches_of_accepted {accepts : String → Bool} {keys : List String}
    (accepted : ∀ key ∈ keys, accepts key = true) (other : String) :
    reaches accepts other keys = reaches (fun _ => true) other keys := by
  induction keys with
  | nil => rfl
  | cons key rest ih =>
    rw [reaches, reaches, accepted key List.mem_cons_self,
      ih fun key held => accepted key (List.mem_cons_of_mem _ held)]

/-- Only one of the keys is reached. -/
theorem mem_of_reaches {accepts : String → Bool} {keys : List String} {key : String}
    (reached : reaches accepts key keys = true) : key ∈ keys := by
  induction keys with
  | nil => exact absurd reached Bool.false_ne_true
  | cons first rest ih =>
    rw [reaches, Bool.and_eq_true, Bool.or_eq_true, beq_iff_eq] at reached
    rcases reached.2 with same | later
    · exact same ▸ List.mem_cons_self
    · exact List.mem_cons_of_mem _ (ih later)

namespace MemoryStore

/-- The value that is live under a key. -/
def value? (store : MemoryStore) (key : String) (now : Millis) : Option Entry :=
  (store.find? key now).bind Slot.entry?

/-- The record that is live under a key. -/
def record? (store : MemoryStore) (key : String) (now : Millis) : Option MemberRecord :=
  (store.find? key now).bind Slot.record?

/-- A key accepts members unless it holds a value. -/
def accepts (store : MemoryStore) (now : Millis) (key : String) : Bool :=
  (store.value? key now).isNone

/-- A key holds something exactly when a value or a record is live under it. -/
theorem isSome_find? (store : MemoryStore) (key : String) (now : Millis) :
    (store.find? key now).isSome =
      ((store.value? key now).isSome || (store.record? key now).isSome) := by
  rw [value?, record?]
  rcases store.find? key now with _ | slot
  · rfl
  · cases slot <;> rfl

/-- A slot of a value is live as long as its entry is. -/
theorem value_live (entry : Entry) (now : Millis) :
    (live (.value entry) now).bind Slot.entry? =
      (some entry).filter fun entry => !entry.isExpired now := by
  have same : (Slot.value entry).isExpired now = entry.isExpired now := rfl
  simp only [live, Option.filter, same]
  split
  · rfl
  · rfl

/-- A slot of members is live as long as its record is. -/
theorem record_live (record : MemberRecord) (now : Millis) :
    (live (.set record.members record.deadline) now).bind Slot.entry? = none ∧
      (live (.set record.members record.deadline) now).bind Slot.record? =
        (some record).filter fun record => !record.isExpired now := by
  have same : (Slot.set record.members record.deadline).isExpired now = record.isExpired now := rfl
  simp only [live, Option.filter, same]
  split
  · exact ⟨rfl, rfl⟩
  · exact ⟨rfl, rfl⟩

/-- A value that is live later is live now, and has not expired by then. -/
theorem value?_later {now later : Millis} (ordered : now ≤ later) (store : MemoryStore)
    (key : String) :
    store.value? key later =
      (store.value? key now).filter fun entry => !entry.isExpired later := by
  rw [value?, value?, find?_later ordered]
  cases store.find? key now with
  | none => rfl
  | some slot =>
    cases slot with
    | value entry => exact value_live entry later
    | set members deadline => exact (record_live ⟨members, deadline⟩ later).1

/-- A record that is live later is live now, and has not expired by then. -/
theorem record?_later {now later : Millis} (ordered : now ≤ later) (store : MemoryStore)
    (key : String) :
    store.record? key later =
      (store.record? key now).filter fun record => !record.isExpired later := by
  rw [record?, record?, find?_later ordered]
  cases store.find? key now with
  | none => rfl
  | some slot =>
    cases slot with
    | value entry =>
      rw [Option.filter]
      split <;> rfl
    | set members deadline => exact (record_live ⟨members, deadline⟩ later).2

/-- A record that is live has not expired. -/
theorem isExpired_of_record? {store : MemoryStore} {key : String} {now : Millis} :
    ∀ held ∈ store.record? key now, held.isExpired now = false := by
  intro held found
  obtain ⟨slot, inside, same⟩ := Option.bind_eq_some_iff.1 found
  cases slot with
  | value entry => exact absurd same (by simp [Slot.record?])
  | set members deadline =>
    obtain rfl := Option.some.inj same
    exact isExpired_of_find? inside

/-- Adding a member counts the evictions. -/
theorem evictions_le_addMember (keys : List String) (store : MemoryStore) (member : String)
    (lifetime : Seconds) (now : Millis) :
    store.evictions ≤ (store.addMember keys member lifetime now).2.evictions := by
  induction keys generalizing store with
  | nil => exact Nat.le_refl _
  | cons key rest ih =>
    have same := evictions_use store key now
    rw [addMember]
    rcases used : store.use key now with ⟨_ | slot, left⟩
    · rw [used] at same
      exact Nat.le_trans (same ▸ evictions_le_insert ..) (ih _)
    · rw [used] at same
      cases slot with
      | value entry => exact Nat.le_of_eq same.symm
      | set members deadline =>
        have later := ih { left with
          slots := left.slots.put key (addTo members deadline member lifetime now) }
        exact Nat.le_trans (Nat.le_of_eq same.symm) later

/-- One key on the way of a member that is added. -/
theorem addMember_step {store after : MemoryStore} {key member : String} {lifetime : Seconds}
    {now : Millis} (accepted : store.accepts now key = true)
    (written : ∀ other, after.find? other now =
      if other = key then
        live (.set (MemberRecord.added member lifetime now (store.record? key now)).members
          (MemberRecord.added member lifetime now (store.record? key now)).deadline) now
      else store.find? other now) (other : String) :
    after.value? other now = store.value? other now ∧
      after.record? other now =
        if other = key then MemberRecord.renewed member lifetime now (store.record? key now)
        else store.record? other now := by
  obtain ⟨noValue, record⟩ :=
    record_live (MemberRecord.added member lifetime now (store.record? key now)) now
  simp only [value?, record?, written]
  split
  · rename_i same
    subst same
    refine ⟨noValue.trans ?_, record⟩
    exact (Option.isNone_iff_eq_none.1 accepted).symm
  · exact ⟨rfl, rfl⟩

/-- What a key on the way changes is taken up by the rest of the way. -/
theorem addMember_way {store mid after : MemoryStore} {key member : String} {rest : List String}
    {lifetime : Seconds} {now : Millis} (accepted : store.accepts now key = true)
    (step : ∀ other, mid.value? other now = store.value? other now ∧
      mid.record? other now =
        if other = key then MemberRecord.renewed member lifetime now (store.record? key now)
        else store.record? other now)
    (later : ∀ other, after.value? other now = mid.value? other now ∧
      after.record? other now =
        if reaches (mid.accepts now) other rest then
          MemberRecord.renewed member lifetime now (mid.record? other now)
        else mid.record? other now) (other : String) :
    after.value? other now = store.value? other now ∧
      after.record? other now =
        if reaches (store.accepts now) other (key :: rest) then
          MemberRecord.renewed member lifetime now (store.record? other now)
        else store.record? other now := by
  have accepts : mid.accepts now = store.accepts now := by
    funext key
    rw [MemoryStore.accepts, MemoryStore.accepts, (step key).1]
  obtain ⟨value, record⟩ := later other
  obtain ⟨value', record'⟩ := step other
  refine ⟨value.trans value', ?_⟩
  rw [record, record', accepts, reaches, accepted, Bool.true_and]
  by_cases same : other = key
  · subst same
    rw [if_pos rfl, MemberRecord.renewed_renewed isExpired_of_record?, BEq.rfl, Bool.true_or,
      ite_self, if_pos rfl]
  · have differs : (key == other) = false := by
      rw [beq_eq_false_iff_ne]
      exact Ne.symm same
    rw [if_neg same, differs, Bool.false_or]

/-- Adding a member without an eviction renews the records that are reached, and touches neither
others nor values. -/
theorem addMember_spec {keys : List String} {store : MemoryStore} {member : String}
    {lifetime : Seconds} {now : Millis}
    (kept : (store.addMember keys member lifetime now).2.evictions = store.evictions)
    (other : String) :
    (store.addMember keys member lifetime now).2.value? other now = store.value? other now ∧
      (store.addMember keys member lifetime now).2.record? other now =
        if reaches (store.accepts now) other keys then
          MemberRecord.renewed member lifetime now (store.record? other now)
        else store.record? other now := by
  induction keys generalizing store other with
  | nil => exact ⟨rfl, rfl⟩
  | cons key rest ih =>
    have answered := use_fst store key now
    have same := fun other => find?_use store key other now
    have counted := evictions_use store key now
    rw [addMember] at kept ⊢
    rcases used : store.use key now with ⟨_ | slot, left⟩
    · rw [used] at answered same counted kept
      dsimp only at answered same counted kept ⊢
      have accepted : store.accepts now key = true := by
        rw [accepts, value?, ← answered]
        rfl
      have first := evictions_le_insert left key (.set (.singleton member)
        (deadlineAfter now lifetime)) now
      have keptFirst : (left.insert key (.set (.singleton member)
          (deadlineAfter now lifetime)) now).evictions = left.evictions :=
        Nat.le_antisymm ((kept.trans counted.symm) ▸ evictions_le_addMember ..) first
      have none : store.record? key now = none := by
        rw [record?, ← answered]
        rfl
      refine addMember_way accepted (addMember_step accepted fun other => ?_)
        (fun other => ih (kept.trans (counted.symm.trans keptFirst.symm)) other) other
      rw [find?_insert keptFirst, same, none]
      rfl
    · rw [used] at answered same counted kept
      cases slot with
      | value entry =>
        have refused : store.accepts now key = false := by
          rw [accepts, value?, ← answered]
          rfl
        dsimp only at same ⊢
        rw [reaches, refused, Bool.false_and, if_neg Bool.false_ne_true, value?, value?, record?,
          record?, same]
        exact ⟨rfl, rfl⟩
      | set members deadline =>
        dsimp only at answered same counted kept ⊢
        have accepted : store.accepts now key = true := by
          rw [accepts, value?, ← answered]
          rfl
        have held : store.record? key now = some ⟨members, deadline⟩ := by
          rw [record?, ← answered]
          rfl
        refine addMember_way accepted (addMember_step accepted fun other => ?_)
          (fun other => ih (kept.trans counted.symm) other) other
        rw [held, ← same]
        unfold find? live
        dsimp only
        rw [Table.find?_put]
        split <;> rfl

/-- A member list is answered for a record, none for nothing, and a value is refused. -/
theorem members_fst (store : MemoryStore) (key : String) (now : Millis) :
    (store.members key now).1 =
      if store.accepts now key then
        .ok (((store.record? key now).map fun record => record.members.names).getD [])
      else .error (.backend .wrongKind) := by
  have answered := use_fst store key now
  rw [members, accepts, value?, record?, ← answered]
  rcases store.use key now with ⟨_ | slot, left⟩
  · rfl
  · cases slot <;> rfl

/-- Reading members leaves the store as a use does. -/
theorem members_snd (store : MemoryStore) (key : String) (now : Millis) :
    (store.members key now).2 = (store.use key now).2 := by
  rw [members]
  rcases store.use key now with ⟨_ | slot, left⟩
  · rfl
  · cases slot <;> rfl

/-- A page of a walk shows keys that match the pattern only. -/
theorem matches_of_mem_scan [Libraries] {store : MemoryStore} {cursor count : Nat}
    {pattern : String} {now : Millis} {page : Page}
    (scanned : store.scan cursor pattern count now = .ok (.returned page)) {key : String}
    (shown : key ∈ page.keys) :
    ∃ compiled, Pattern.compile? pattern = some compiled ∧ compiled.matchesKey key = true := by
  rw [scan] at scanned
  cases compiled : Pattern.compile? pattern with
  | none => simp [compiled] at scanned
  | some found =>
    rw [compiled] at scanned
    obtain ⟨whole, -, rfl⟩ := Ending.map_eq_returned_iff.1 (Except.ok.inj scanned)
    have both := (List.mem_filter.1 shown).2
    rw [Bool.and_eq_true] at both
    exact ⟨found, rfl, both.2⟩

end MemoryStore

end FailOpenCache
