import FailOpenCache.Libraries.Plain
import FailOpenCache.Proofs.Cache.Accounts
import FailOpenCache.Proofs.Cache.Shelves

/-!
# Invalidation by a tag

A tag has one record for all keys written under it, and each write under the tag that states a
lifetime gives the whole record a new deadline. So the record can be gone while a key that it listed
is still there, and then an invalidation by the tag does not find the key. The deadline of the
record is followed through a run: the key is removed exactly when the record has never lapsed since
the key was listed.
-/

namespace FailOpenCache

/-- An operation of a run between a write under a tag and the invalidation of the tag. -/
inductive TagCommand : Type 1 where
  /-- Read the document under a key. -/
  | get (key : String)
  /-- Write a value. -/
  | set {α : Type} [Storable α] (key : String) (value : α) (stated : Option Seconds)
  /-- Write a value under tags. -/
  | setTagged {α : Type} [Storable α] (key : String) (value : α) (tags : List String)
    (stated : Option Seconds)
  /-- Delete a key. -/
  | delete (key : String)
  /-- Delete the keys that match a pattern. -/
  | invalidate (pattern : String)
  /-- Delete the keys written under a tag. -/
  | invalidateTag (tag : String)
  /-- Let time pass. -/
  | advance (span : Millis)

namespace TagCommand

variable {σ τ : Type} [BackingStore σ] [BackingStore τ]

/-- How far an operation moves the clock. -/
def span : TagCommand → Millis
  | advance span => span
  | _ => 0

variable [Libraries]

/-- Run an operation on a session. -/
def run : TagCommand → Session σ → Session σ
  | get key, session => (Session.get key session).2
  | set key value stated, session => (Session.set key value stated session).2
  | setTagged key value tags stated, session => (Session.setTagged key value tags stated session).2
  | delete key, session => (Session.delete key session).2
  | invalidate pattern, session => (Session.invalidate pattern session).2
  | invalidateTag tag, session => (Session.invalidateTag tag session).2
  | advance span, session => session.advance span

/-- Run operations on a session, one after the other. -/
def runAll (commands : List TagCommand) (session : Session σ) : Session σ :=
  commands.foldl (fun left command => command.run left) session

/-- The connection that an operation leaves. -/
def act : TagCommand → Connection σ → Connection σ
  | get key, connection => (Connection.get key connection).2
  | set key value stated, connection => (Connection.set key value stated connection).2
  | setTagged key value tags stated, connection =>
    (Connection.setTagged key value tags stated connection).2
  | delete key, connection => (Connection.deleteAll [key] connection).2
  | invalidate pattern, connection => (Connection.invalidate pattern connection).2
  | invalidateTag tag, connection => (Connection.invalidateTag tag connection).2
  | advance span, connection => { connection with now := advanceClock connection.now span }

/-- The connection that operations leave, one after the other. -/
def actAll (commands : List TagCommand) (connection : Connection σ) : Connection σ :=
  commands.foldl (fun left command => command.act left) connection

/-- A session with a connection goes on with the connection that the operation leaves. -/
theorem run_session (command : TagCommand) (connection : Connection σ) :
    command.run connection.session = (command.act connection).session := by
  cases command <;> rfl

/-- A session with a connection goes on with the connection that operations leave. -/
theorem runAll_session (commands : List TagCommand) (connection : Connection σ) :
    runAll commands connection.session = (actAll commands connection).session := by
  induction commands generalizing connection with
  | nil => rfl
  | cons command rest ih =>
    rw [runAll, List.foldl_cons, run_session]
    exact ih (command.act connection)

/-- An operation other than adding members to its record comes to a key: it writes or deletes the
key, or invalidates it by a pattern that it matches or by a tag whose record lists it or has it as
its own key. -/
def Touches (connection : Connection (MemoryStore ⊕ τ)) (key : String) : TagCommand → Prop
  | get _ | advance _ => False
  | @set _ _ other _ _ | @setTagged _ _ other _ _ _ | delete other => key = other
  | invalidate pattern => Connection.Matches pattern key
  | invalidateTag tag => connection.Invalidates tag key

/-- No operation of a run comes to a key or to the record of a tag. -/
def Undisturbed (key tag : String) : List TagCommand → Connection (MemoryStore ⊕ τ) → Prop
  | [], _ => True
  | command :: rest, connection =>
    ¬ command.Touches connection key ∧ ¬ command.Touches connection (Key.ofTag tag) ∧
      Undisturbed key tag rest (command.act connection)

/-- The deadline of the record of a tag after a write under tags: the one that the write states, if
it states one. -/
def renewedDeadline (stated : Option Seconds) (now : Millis) (deadline : Option Millis) :
    Option Millis :=
  if stated.getD 0 = 0 then deadline else deadlineAfter now (stated.getD 0)

/-- A write under tags comes to the record of a tag. -/
def Reaches [Storable α] (connection : Connection (MemoryStore ⊕ τ)) (tag key : String) (value : α)
    (tags : List String) (stated : Option Seconds) : Bool :=
  reaches (Connection.set key value stated connection).2.accepts (Key.ofTag tag)
    (tags.map Key.ofTag)

/-- What an operation makes of the deadline of the record of a tag, as long as the record has not
lapsed; there is no deadline to follow once it has. -/
def follow (tag : String) (connection : Connection (MemoryStore ⊕ τ))
    (standing : Option (Option Millis)) : TagCommand → Option (Option Millis)
  | @setTagged _ _ key value tags stated =>
    if Reaches connection tag key value tags stated then
      (standing.map (renewedDeadline stated connection.now)).filter fun deadline =>
        !hasPassed deadline connection.now
    else standing
  | advance span => standing.filter fun deadline =>
      !hasPassed deadline (advanceClock connection.now span)
  | _ => standing

/-- What a run makes of the deadline of the record of a tag. -/
def followAll (tag : String) : List TagCommand → Connection (MemoryStore ⊕ τ) →
    Option (Option Millis) → Option (Option Millis)
  | [], _, standing => standing
  | command :: rest, connection, standing =>
    followAll tag rest (command.act connection) (command.follow tag connection standing)

end TagCommand

namespace Connection

variable {τ : Type} [BackingStore τ] {α : Type} [Storable α]
  {connection : Connection (MemoryStore ⊕ τ)}

/-- A write under tags counts the evictions. -/
theorem counts_setTagged [Libraries] (usable : connection.Usable) (key : String) (value : α)
    (tags : List String) (stated : Option Seconds) :
    Counts connection (setTagged key value tags stated connection).2 := by
  obtain ⟨counts, -⟩ := set_shelf usable key value stated
  rw [setTagged, bind_apply]
  split
  · exact counts
  · exact counts.trans (recordTags_shelf (counts.usable usable) key tags stated).1

/-- A write under tags without an eviction leaves its entry under its key, renews the records that
it comes to, and changes nothing else. -/
theorem setTagged_shelf [Libraries] (usable : connection.Usable) (key : String) (value : α)
    (tags : List String) (stated : Option Seconds)
    (kept : (setTagged key value tags stated connection).2.evictions = connection.evictions) :
    (∀ other, other ≠ key →
        (setTagged key value tags stated connection).2.value? other = connection.value? other) ∧
      (∀ document, Storable.write? value = some document →
        (setTagged key value tags stated connection).2.value? key =
          (some (connection.entryOf key document stated)).filter
            fun entry => !entry.isExpired connection.now) ∧
      ∀ tag, key ≠ Key.ofTag tag →
        (setTagged key value tags stated connection).2.record? (Key.ofTag tag) =
          if TagCommand.Reaches connection tag key value tags stated then
            MemberRecord.renewed key (stated.getD 0) connection.now
              (connection.record? (Key.ofTag tag))
          else connection.record? (Key.ofTag tag) := by
  obtain ⟨counts, written⟩ := set_shelf usable key value stated
  have alike := quiet_set key value stated connection
  rw [setTagged, bind_apply] at kept ⊢
  cases tags with
  | nil =>
    obtain ⟨spares, entry⟩ := written kept
    exact ⟨spares.value, entry, fun tag differs => spares.record _ (Ne.symm differs)⟩
  | cons first rest =>
    rw [List.isEmpty_cons, if_neg Bool.false_ne_true] at kept ⊢
    obtain ⟨counts', recorded⟩ := recordTags_shelf (counts.usable usable) key (first :: rest)
      stated
    have keptWrite : (set key value stated connection).2.evictions = connection.evictions :=
      Nat.le_antisymm (kept ▸ counts'.evictions) counts.evictions
    obtain ⟨spares, entry⟩ := written keptWrite
    have renewed := recorded (kept.trans keptWrite.symm)
    refine ⟨fun other differs => ?_, fun document same => ?_, fun tag differs => ?_⟩
    · exact (renewed other).1.trans (spares.value other differs)
    · exact (renewed key).1.trans (entry document same)
    · rw [(renewed (Key.ofTag tag)).2, spares.record _ (Ne.symm differs), alike.now]
      rfl

/-- The deadline of the record of a tag, if the record lists a key; there is no deadline to follow
if it does not. -/
def listing (connection : Connection (MemoryStore ⊕ τ)) (key tag : String) :
    Option (Option Millis) :=
  ((connection.record? (Key.ofTag tag)).filter fun record =>
    decide (key ∈ record.members.names)).map MemberRecord.deadline

omit [BackingStore τ] in
/-- The record of a tag lists a key exactly when there is a deadline to follow. -/
theorem mem_listed_iff (key tag : String) :
    key ∈ connection.listed tag ↔ (connection.listing key tag).isSome := by
  rw [listed, listing]
  cases connection.record? (Key.ofTag tag) with
  | none => simp
  | some record => by_cases held : key ∈ record.members.names <;> simp [Option.filter, held]

end Connection

/-- Adding another key to a record gives what it lists the new deadline, unless that has passed at
once. -/
theorem MemberRecord.listing_renewed {key member : String} (differs : key ≠ member)
    (stated : Option Seconds) (now : Millis) (record : Option MemberRecord) :
    ((renewed member (stated.getD 0) now record).filter fun record =>
        decide (key ∈ record.members.names)).map MemberRecord.deadline =
      (((record.filter fun record => decide (key ∈ record.members.names)).map
          MemberRecord.deadline).map (TagCommand.renewedDeadline stated now)).filter
        fun deadline => !hasPassed deadline now := by
  cases record with
  | none =>
    have outside : key ∉ (added member (stated.getD 0) now none).members.names := fun held =>
      differs (List.mem_singleton.1 held)
    rw [renewed]
    by_cases passed : (added member (stated.getD 0) now none).isExpired now = true
    · simp [Option.filter, passed]
    · simp [Option.filter, passed, outside]
  | some record =>
    have listed : key ∈ (added member (stated.getD 0) now (some record)).members.names ↔
        key ∈ record.members.names := by
      rw [added, NameSet.mem_insert]
      exact ⟨fun either => either.resolve_left differs, .inr⟩
    have deadline : (added member (stated.getD 0) now (some record)).deadline =
        TagCommand.renewedDeadline stated now record.deadline := rfl
    have expired : (added member (stated.getD 0) now (some record)).isExpired now =
        hasPassed (TagCommand.renewedDeadline stated now record.deadline) now := by
      rw [isExpired, deadline]
    rw [renewed]
    by_cases held : key ∈ record.members.names
    · by_cases passed : hasPassed (TagCommand.renewedDeadline stated now record.deadline) now = true
      · simp [Option.filter, expired, passed, held]
      · simp [Option.filter, expired, passed, held, listed, deadline]
    · by_cases passed : hasPassed (TagCommand.renewedDeadline stated now record.deadline) now = true
      · simp [Option.filter, expired, passed, held]
      · simp [Option.filter, expired, passed, held, listed]

/-- Adding a key to a record lists it with the new deadline, unless that has passed at once. -/
theorem MemberRecord.listing_renewed_self (key : String) (stated : Option Seconds) (now : Millis)
    (record : Option MemberRecord) :
    ((renewed key (stated.getD 0) now record).filter fun record =>
        decide (key ∈ record.members.names)).map MemberRecord.deadline =
      (some (TagCommand.renewedDeadline stated now (record.bind MemberRecord.deadline))).filter
        fun deadline => !hasPassed deadline now := by
  have listed := mem_added key (stated.getD 0) now record
  have deadline : (added key (stated.getD 0) now record).deadline =
      TagCommand.renewedDeadline stated now (record.bind MemberRecord.deadline) := by
    cases record with
    | none =>
      rw [added, TagCommand.renewedDeadline, deadlineAfter]
      split <;> rfl
    | some record => rfl
  have expired : (added key (stated.getD 0) now record).isExpired now =
      hasPassed (TagCommand.renewedDeadline stated now
        (record.bind MemberRecord.deadline)) now := by
    rw [isExpired, deadline]
  rw [renewed]
  by_cases passed : hasPassed (TagCommand.renewedDeadline stated now
      (record.bind MemberRecord.deadline)) now = true
  · simp [Option.filter, expired, passed]
  · simp [Option.filter, expired, passed, listed, deadline]

namespace TagCommand

variable {τ : Type} [BackingStore τ] {connection : Connection (MemoryStore ⊕ τ)}

section

variable [Libraries]

/-- Every operation leaves a usable connection usable and counts the evictions. -/
theorem counts_act (usable : connection.Usable) (command : TagCommand) :
    Connection.Counts connection (command.act connection) := by
  cases command with
  | get key => exact (Connection.get_shelf usable key).1
  | set key value stated => exact (Connection.set_shelf usable key value stated).1
  | setTagged key value tags stated =>
    exact Connection.counts_setTagged usable key value tags stated
  | delete key => exact (Connection.deleteAll_shelf usable [key]).1
  | invalidate pattern => exact (Connection.invalidate_shelf usable pattern).1
  | invalidateTag tag => exact (Connection.invalidateTag_shelf usable tag).1
  | advance span => exact ⟨id, Nat.le_refl _⟩

/-- A run leaves a usable connection usable and counts the evictions. -/
theorem counts_actAll (commands : List TagCommand) {connection : Connection (MemoryStore ⊕ τ)}
    (usable : connection.Usable) :
    Connection.Counts connection (actAll commands connection) := by
  induction commands generalizing connection with
  | nil => exact .refl _
  | cons command rest ih =>
    have first := counts_act usable command
    exact first.trans (ih (first.usable usable))

/-- The clock after an operation, as long as it does not start again. -/
theorem now_act (command : TagCommand) (clock : connection.now + command.span ≤ lastWord) :
    (command.act connection).now = connection.now + command.span := by
  cases command with
  | get key => exact (Connection.quiet_getKey key connection).now
  | set key value stated => exact (Connection.quiet_set key value stated connection).now
  | setTagged key value tags stated =>
    exact (Connection.quiet_setTagged key value tags stated connection).now
  | delete key => exact (Connection.quiet_deleteAll [key] connection).now
  | invalidate pattern => exact (Connection.quiet_invalidate pattern connection).now
  | invalidateTag tag => exact (Connection.quiet_invalidateTag tag connection).now
  | advance span => exact Nat.mod_eq_of_lt (Nat.lt_of_le_of_lt clock (by decide))

omit [Libraries] [BackingStore τ] in
/-- What is live after the clock has moved is what was live before, without what has expired. -/
theorem view_later {later : Millis} (ordered : connection.now ≤ later) (key : String) :
    ({ connection with now := later } : Connection (MemoryStore ⊕ τ)).value? key =
        ((connection.value? key).filter fun entry => !entry.isExpired later) ∧
      ({ connection with now := later } : Connection (MemoryStore ⊕ τ)).record? key =
        ((connection.record? key).filter fun record => !record.isExpired later) := by
  rcases store : connection.store with memory | other
  · simp only [Connection.value?, Connection.record?, store]
    exact ⟨MemoryStore.value?_later ordered memory key,
      MemoryStore.record?_later ordered memory key⟩
  · simp only [Connection.value?, Connection.record?, store]
    exact ⟨FallbackStore.value?_later ordered connection.cache.fallback key,
      FallbackStore.record?_later ordered connection.cache.fallback key⟩

omit [Libraries] [BackingStore τ] in
/-- The listing of a key after the clock has moved. -/
theorem listing_later {later : Millis} (ordered : connection.now ≤ later) (key tag : String) :
    ({ connection with now := later } : Connection (MemoryStore ⊕ τ)).listing key tag =
      (connection.listing key tag).filter fun deadline => !hasPassed deadline later := by
  rw [Connection.listing, Connection.listing, (view_later ordered (Key.ofTag tag)).2]
  cases connection.record? (Key.ofTag tag) with
  | none => rfl
  | some record =>
    by_cases passed : hasPassed record.deadline later = true
    · by_cases held : key ∈ record.members.names
      · simp [Option.filter, MemberRecord.isExpired, passed, held]
      · simp [Option.filter, MemberRecord.isExpired, passed, held]
    · by_cases held : key ∈ record.members.names
      · simp [Option.filter, MemberRecord.isExpired, passed, held]
      · simp [Option.filter, MemberRecord.isExpired, passed, held]

/-- The clock after a run, as long as it does not start again. -/
theorem now_actAll (commands : List TagCommand) {connection : Connection (MemoryStore ⊕ τ)}
    (clock : connection.now + (commands.map span).sum ≤ lastWord) :
    (actAll commands connection).now = connection.now + (commands.map span).sum := by
  induction commands generalizing connection with
  | nil => rfl
  | cons command rest ih =>
    rw [List.map_cons, List.sum_cons, ← Nat.add_assoc] at clock ⊢
    have now := now_act command (Nat.le_trans (Nat.le_add_right _ _) clock)
    rw [← now] at clock ⊢
    exact ih clock

/-- The key holds an entry until the entry expires. -/
def Holds (connection : Connection (MemoryStore ⊕ τ)) (key : String) (entry : Entry) : Prop :=
  connection.value? key = (some entry).filter fun entry => !entry.isExpired connection.now

/-- An operation that comes neither to a key nor to the record of a tag spares the entry of the key,
and changes the listing of the key as it is followed. -/
theorem act_listing (usable : connection.Usable) (command : TagCommand) {key tag : String}
    {entry : Entry} (apart : ¬ command.Touches connection key)
    (apart' : ¬ command.Touches connection (Key.ofTag tag))
    (clock : connection.now + command.span ≤ lastWord)
    (kept : (command.act connection).evictions = connection.evictions)
    (holds : Holds connection key entry) :
    Holds (command.act connection) key entry ∧
      (command.act connection).listing key tag =
        command.follow tag connection (connection.listing key tag) := by
  have now := now_act command clock
  have spared : ∀ {changed : String → Prop},
      Connection.Spares changed connection (command.act connection) →
      ¬ changed key → ¬ changed (Key.ofTag tag) → command.span = 0 →
      Holds (command.act connection) key entry ∧
        (command.act connection).listing key tag = connection.listing key tag := by
    intro changed spares here there still
    rw [still, Nat.add_zero] at now
    refine ⟨?_, ?_⟩
    · rw [Holds, spares.value key here, now]
      exact holds
    · rw [Connection.listing, spares.record _ there]
      rfl
  cases command with
  | get other => exact spared (Connection.get_shelf usable other).2 id id rfl
  | set other value stated =>
    exact spared ((Connection.set_shelf usable other value stated).2 kept).1 apart apart' rfl
  | setTagged other value tags stated =>
    obtain ⟨values, -, records⟩ :=
      Connection.setTagged_shelf usable other value tags stated kept
    refine ⟨?_, ?_⟩
    · have same := values key apart
      have still : (act (setTagged other value tags stated) connection).now = connection.now := now
      rw [Holds, still]
      exact same.trans holds
    · have renewed := records tag (Ne.symm apart')
      rw [follow, Connection.listing]
      refine (congrArg (fun record : Option MemberRecord => (record.filter fun record =>
        decide (key ∈ record.members.names)).map MemberRecord.deadline) renewed).trans ?_
      split
      · exact MemberRecord.listing_renewed apart stated connection.now _
      · rfl
  | delete other =>
    exact spared (Connection.deleteAll_shelf usable [other]).2.1
      (fun held => apart (List.mem_singleton.1 held))
      (fun held => apart' (List.mem_singleton.1 held)) rfl
  | invalidate pattern =>
    exact spared (Connection.invalidate_shelf usable pattern).2 apart apart' rfl
  | invalidateTag other =>
    exact spared (Connection.invalidateTag_shelf usable other).2.1 apart apart' rfl
  | advance span =>
    have later : advanceClock connection.now span = connection.now + span := now
    have ordered : connection.now ≤ advanceClock connection.now span := by
      rw [later]
      exact Nat.le_add_right _ _
    refine ⟨?_, listing_later ordered key tag⟩
    have moved := (view_later ordered key).1
    rw [holds] at moved
    exact moved.trans (FallbackStore.filter_later Entry.deadline ordered _).symm

/-- A run that comes neither to a key nor to the record of a tag spares the entry of the key, and
changes the listing of the key as it is followed. -/
theorem actAll_listing (commands : List TagCommand) {connection : Connection (MemoryStore ⊕ τ)}
    (usable : connection.Usable) {key tag : String} {entry : Entry}
    (apart : Undisturbed key tag commands connection)
    (clock : connection.now + (commands.map span).sum ≤ lastWord)
    (kept : (actAll commands connection).evictions = connection.evictions)
    (holds : Holds connection key entry) :
    Holds (actAll commands connection) key entry ∧
      (actAll commands connection).listing key tag =
        followAll tag commands connection (connection.listing key tag) := by
  induction commands generalizing connection with
  | nil => exact ⟨holds, rfl⟩
  | cons command rest ih =>
    obtain ⟨here, there, later⟩ := apart
    rw [List.map_cons, List.sum_cons, ← Nat.add_assoc] at clock
    have counts := counts_act usable command
    have inTime := Nat.le_trans (Nat.le_add_right _ _) clock
    have keptFirst : (command.act connection).evictions = connection.evictions :=
      Nat.le_antisymm (kept ▸ (counts_actAll rest (counts.usable usable)).evictions)
        counts.evictions
    obtain ⟨holds', listing⟩ := act_listing usable command here there inTime keptFirst holds
    have now := now_act command inTime
    have rested := ih (counts.usable usable) later (by rw [now]; exact clock)
      (kept.trans keptFirst.symm) holds'
    rw [listing] at rested
    exact rested

/-- The deadline of the record of a tag after a write under tags, as long as the record lists the
key: the one of the write if the write comes to the record, and what it was otherwise. -/
def started {α : Type} [Storable α] (connection : Connection (MemoryStore ⊕ τ)) (tag key : String)
    (value : α) (tags : List String) (stated : Option Seconds) : Option (Option Millis) :=
  if Reaches connection tag key value tags stated then
    (some (renewedDeadline stated connection.now
      ((connection.record? (Key.ofTag tag)).bind MemberRecord.deadline))).filter fun deadline =>
        !hasPassed deadline connection.now
  else connection.listing key tag

/-- An operation states no lifetime for the records of tags. -/
def Unstated : TagCommand → Prop
  | @setTagged _ _ _ _ _ stated => stated.getD 0 = 0
  | _ => True

/-- A record without a deadline stands as long as no operation states a lifetime. -/
theorem followAll_unstated (tag : String) (commands : List TagCommand)
    (connection : Connection (MemoryStore ⊕ τ))
    (unstated : ∀ command ∈ commands, command.Unstated) :
    followAll tag commands connection (some none) = some none := by
  induction commands generalizing connection with
  | nil => rfl
  | cons command rest ih =>
    have first : command.follow tag connection (some none) = some none := by
      cases command with
      | setTagged key value tags stated =>
        have none : stated.getD 0 = 0 := unstated _ List.mem_cons_self
        rw [follow, Option.map_some, renewedDeadline, if_pos none]
        split <;> rfl
      | _ => rfl
    rw [followAll, first]
    exact ih _ fun other held => unstated other (List.mem_cons_of_mem _ held)

/-- A tag is invalidated completely as long as no write under tags states a lifetime: the record to
which a write comes stands ever since. -/
theorem isSome_followAll_started {α : Type} [Storable α] (connection : Connection (MemoryStore ⊕ τ))
    {tag key : String} {value : α} {tags : List String} {stated : Option Seconds}
    (reached : Reaches connection tag key value tags stated = true)
    (endless : (connection.record? (Key.ofTag tag)).bind MemberRecord.deadline = none)
    (without : stated.getD 0 = 0) (commands : List TagCommand)
    (unstated : ∀ command ∈ commands, command.Unstated) :
    (followAll tag commands (Connection.setTagged key value tags stated connection).2
      (started connection tag key value tags stated)).isSome := by
  have first : started connection tag key value tags stated = some none := by
    rw [started, if_pos reached, endless, renewedDeadline, if_pos without]
    rfl
  rw [first, followAll_unstated tag commands _ unstated]
  rfl

/-- A key that was written under a tag and that nothing has come to since is removed by invalidating
the tag exactly when the record of the tag has listed it ever since: the write came to the record,
and the deadline of the record, which each write under the tag that states a lifetime sets for all
keys, has never passed. When the record has lapsed, the key stays although its own deadline has not
passed. -/
theorem get_invalidateTag {α : Type} [Storable α] (connection : Connection (MemoryStore ⊕ τ))
    (usable : connection.Usable) {key tag : String} (apart : key ≠ Key.ofTag tag) {value : α}
    {document : Document} (written : Storable.write? value = some document)
    (formed : document.WellFormed) (tags : List String) (stated : Option Seconds)
    (commands : List TagCommand)
    (undisturbed : Undisturbed key tag commands
      (Connection.setTagged key value tags stated connection).2)
    (clock : connection.now + (commands.map span).sum ≤ lastWord)
    (kept : (actAll commands (Connection.setTagged key value tags stated connection).2).evictions =
      connection.evictions)
    (live : hasPassed (deadlineAfter connection.now (connection.cache.rules.resolve key stated))
      (connection.now + (commands.map span).sum) = false) :
    (Session.get key (Session.invalidateTag tag (runAll commands
        (Session.setTagged key value tags stated connection.session).2)).2).1 =
      if (followAll tag commands (Connection.setTagged key value tags stated connection).2
          (started connection tag key value tags stated)).isSome then none
      else document.reread? := by
  have run : runAll commands (Session.setTagged key value tags stated connection.session).2 =
      (actAll commands (Connection.setTagged key value tags stated connection).2).session :=
    runAll_session commands _
  rw [run]
  have alike := Connection.quiet_setTagged key value tags stated connection
  have counts := Connection.counts_setTagged usable key value tags stated
  have usable' := counts.usable usable
  have counts' := counts_actAll commands usable'
  have keptWrite : (Connection.setTagged key value tags stated connection).2.evictions =
      connection.evictions := Nat.le_antisymm (kept ▸ counts'.evictions) counts.evictions
  obtain ⟨-, entry, records⟩ := Connection.setTagged_shelf usable key value tags stated keptWrite
  have holds : Holds (Connection.setTagged key value tags stated connection).2 key
      (connection.entryOf key document stated) := by
    rw [Holds, alike.now]
    exact entry document written
  have listing : (Connection.setTagged key value tags stated connection).2.listing key tag =
      started connection tag key value tags stated := by
    rw [Connection.listing, records tag apart, started]
    split
    · exact MemberRecord.listing_renewed_self key stated connection.now _
    · rfl
  have fresh : (connection.entryOf key document stated).isExpired
      (connection.now + (commands.map span).sum) = false := live
  rw [← alike.now] at clock fresh
  obtain ⟨holds', listing'⟩ := actAll_listing commands usable' undisturbed clock
    (kept.trans keptWrite.symm) holds
  rw [listing] at listing'
  -- At the end of the run the key still holds its entry.
  have there : (actAll commands
      (Connection.setTagged key value tags stated connection).2).value? key =
        some (connection.entryOf key document stated) := by
    rw [holds', now_actAll commands clock]
    simp [Option.filter, fresh]
  have usable'' := counts'.usable usable'
  obtain ⟨counts'', spares, gone⟩ := Connection.invalidateTag_shelf usable'' tag
  refine (Connection.get_fst (counts''.usable usable'') key).trans ?_
  rw [← listing']
  by_cases listed : key ∈ (actAll commands
      (Connection.setTagged key value tags stated connection).2).listed tag
  · rw [gone key listed, if_pos ((Connection.mem_listed_iff key tag).1 listed)]
    rfl
  · have apart' : ¬ (actAll commands
        (Connection.setTagged key value tags stated connection).2).Invalidates tag key := by
      rintro ⟨-, held | same⟩
      · exact listed held
      · exact apart same
    rw [spares.value key apart', there,
      if_neg fun stands => listed ((Connection.mem_listed_iff key tag).2 stands)]
    exact Connection.document?_entryOf formed connection key stated

end

open scoped Libraries.Plain

/-- A second key under the tag, with a lifetime of one second, takes the record of the tag with it:
after that second the first key stays. -/
theorem get_invalidateTag_lapsed :
    let store : MemoryStore ⊕ BareStore := .inl (.ofCapacity 9)
    (Session.get "first" (Session.invalidateTag "tag"
        (runAll [.setTagged "second" (Document.integer 2) ["tag"] (some 1), .advance 1000]
          (Session.setTagged "first" (Document.integer 1) ["tag"] none
            (Connection.opened .standard store 0).session).2)).2).1 = some (.integer 1) := by
  intro store
  have formed : (Document.integer 1).WellFormed := ⟨by decide, by decide⟩
  refine (get_invalidateTag (.opened .standard store 0) trivial (by decide) rfl formed ["tag"] none
    _ ?_ (by decide) ?_ (by decide)).trans ?_
  · refine ⟨?_, ?_, id, id, trivial⟩
    · exact (by decide : "first" ≠ "second")
    · exact (by decide : Key.ofTag "tag" ≠ "second")
  · decide +kernel
  · decide +kernel

end TagCommand

end FailOpenCache
