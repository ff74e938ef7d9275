import FailOpenCache.Proofs.Cache.Batches
import FailOpenCache.Proofs.Cache.Faultless
import FailOpenCache.Proofs.Cache.Requests
import FailOpenCache.Proofs.Cache.Shelves
import FailOpenCache.Proofs.Cache.TagRetry
import FailOpenCache.Proofs.Store.Moves

/-!
# What operations do under a key

A cache keeps values where its store declares them, and in the process otherwise. Over a store in
memory that declares any groups of operations, every operation makes moves under a key within the
licence that its arguments give it: it writes under the keys of its values, drops the keys that it
deletes, and changes the records of its tags. Steps within a licence are within it together.
-/

namespace FailOpenCache

/-- Requests to a store behind an observer lead on in the store, and the observer stays the same. -/
theorem Led.behind {σ : Type} [BackingStore σ] {first later : ObservedStore σ}
    (led : Led first later) :
    Led first.store later.store ∧ later.declared = first.declared ∧ later.plans = first.plans := by
  induction led with
  | refl => exact ⟨.refl, rfl, rfl⟩
  | @ask observed request now _ ih =>
    obtain ⟨led, declared, plans⟩ := ih
    obtain ⟨failed, shape⟩ := ObservedStore.answer_calls request now observed
    refine ⟨?_, by rw [shape, declared], by rw [shape, plans]⟩
    have answered : BackingStore.answer request now observed =
        ObservedStore.answer request now observed := rfl
    rw [answered, ObservedStore.answer]
    split
    · exact led
    · exact led.ask request now

/-- The records of tags are kept where values are. -/
def Capabilities.KeepsTogether (declared : Capabilities) : Prop :=
  declared.keyValue = true → declared.sets = true

/-- An invalidation by a pattern comes to where values are kept. -/
def Capabilities.ReachesValues (declared : Capabilities) : Prop :=
  declared.keyValue = true → declared.scan = true

instance (declared : Capabilities) : Decidable declared.KeepsTogether :=
  inferInstanceAs (Decidable (declared.keyValue = true → declared.sets = true))

instance (declared : Capabilities) : Decidable declared.ReachesValues :=
  inferInstanceAs (Decidable (declared.keyValue = true → declared.scan = true))

namespace Connection

variable {α β ε : Type} {declared : Capabilities} {key : String} {licence : Licence}

/-- What is live under a key where values are kept. -/
def contents (connection : Connection (ObservedStore MemoryStore)) (key : String) : Contents :=
  if connection.store.declared.keyValue then connection.store.store.contents key connection.now
  else connection.cache.fallback.contents key connection.now

variable [Libraries]

/-- Between two connections moves are made under a key within a licence, if no request fails and no
key gives way to another. -/
structure Altered (licence : Licence) (key : String)
    (before after : Connection (ObservedStore MemoryStore)) : Prop where
  /-- The store is changed by requests only. -/
  led : Led before.store after.store
  /-- The clock stands still. -/
  now : after.now = before.now
  /-- The moves are within the licence. -/
  moves : before.store.plans = [] →
    after.store.store.evictions = before.store.store.evictions →
      Moves licence before.now (before.contents key) (after.contents key)

/-- What two steps alter is altered by both together. -/
theorem Altered.trans {first second third : Connection (ObservedStore MemoryStore)}
    (early : Altered licence key first second) (late : Altered licence key second third) :
    Altered licence key first third where
  led := early.led.trans late.led
  now := late.now.trans early.now
  moves unplanned kept := by
    have counted := early.led.behind.1.evictions_le
    have countedLater := late.led.behind.1.evictions_le
    have keptFirst := Nat.le_antisymm (kept ▸ countedLater) counted
    have moved := late.moves (early.led.behind.2.2.trans unplanned) (kept.trans keptFirst.symm)
    rw [early.now] at moved
    exact (early.moves unplanned keptFirst).trans moved

/-- The operation makes moves under a key within a licence, if the store declares these groups. -/
def Alters (declared : Capabilities) (key : String) (licence : Licence)
    (operation : StateM (Connection (ObservedStore MemoryStore)) α) : Prop :=
  ∀ connection, connection.store.declared = declared →
    Altered licence key connection (operation connection).2

instance (pattern key : String) : Decidable (Matches pattern key) :=
  decidable_of_iff ((Pattern.compile? pattern).any (Pattern.matchesKey · key) = true)
    (Option.any_eq_true _ _)

/-! ## Steps -/

/-- What an operation that leaves the store and the clock alone does in the process. -/
theorem altered_of_same {before after : Connection (ObservedStore MemoryStore)}
    (store : after.store = before.store) (now : after.now = before.now)
    (moves : before.store.declared.keyValue = false →
      Moves licence before.now (before.cache.fallback.contents key before.now)
        (after.cache.fallback.contents key before.now)) : Altered licence key before after where
  led := store ▸ .refl
  now := now
  moves _ _ := by
    rw [contents, contents, store, now]
    split
    · exact .refl
    · rename_i served
      exact moves (Bool.eq_false_iff.2 served)

/-- An answer alone. -/
theorem alters_pure (answer : α) : Alters declared key licence (pure answer) :=
  fun _ _ => altered_of_same rfl rfl fun _ => .refl

/-- Two steps. -/
theorem alters_bind {first : StateM (Connection (ObservedStore MemoryStore)) α}
    {later : α → StateM (Connection (ObservedStore MemoryStore)) β}
    (early : Alters declared key licence first)
    (late : ∀ answer, Alters declared key licence (later answer)) :
    Alters declared key licence (first >>= later) := fun connection groups =>
  (early connection groups).trans
    (late _ _ ((early connection groups).led.behind.2.1.trans groups))

/-- An operation without its answer. -/
theorem alters_discard {operation : StateM (Connection (ObservedStore MemoryStore)) α}
    (alters : Alters declared key licence operation) :
    Alters declared key licence
      (discard operation : StateM (Connection (ObservedStore MemoryStore)) PUnit) :=
  fun connection groups => alters connection groups

/-- A choice between operations. -/
theorem alters_ite {condition : Prop} [Decidable condition]
    {first later : StateM (Connection (ObservedStore MemoryStore)) α}
    (early : Alters declared key licence first) (late : Alters declared key licence later) :
    Alters declared key licence (if condition then first else later) := by
  split
  · exact early
  · exact late

/-- A look at the connection. -/
theorem alters_look : Alters declared key licence
    (MonadState.get : StateM (Connection (ObservedStore MemoryStore)) _) :=
  fun _ _ => altered_of_same rfl rfl fun _ => .refl

/-- A look at the declarations. -/
theorem alters_declares (group : OperationGroup) :
    Alters declared key licence (declares group) :=
  fun _ _ => altered_of_same rfl rfl fun _ => .refl

/-- A look at the lifetime of a write. -/
theorem alters_lifetimeOf (other : String) (stated : Option Seconds) :
    Alters declared key licence (lifetimeOf other stated) :=
  fun _ _ => altered_of_same rfl rfl fun _ => .refl

/-- The count of an event. -/
theorem alters_count (event : Event) : Alters declared key licence (count event) :=
  fun _ _ => altered_of_same rfl rfl fun _ => .refl

/-- A ticket that is taken. -/
theorem alters_takeTicket (other : String) : Alters declared key licence (takeTicket other) :=
  fun _ _ => altered_of_same rfl rfl fun _ => .refl

/-- A ticket that is given back. -/
theorem alters_giveBack (ticket : Ticket) : Alters declared key licence (giveBack ticket) :=
  fun _ _ => altered_of_same rfl rfl fun _ => .refl

/-- A call of the fallback store, which matters if the values are kept there. -/
theorem alters_inProcess {serving : Millis → FallbackStore → α × FallbackStore}
    (moves : declared.keyValue = false → ∀ now fallback,
      Moves licence now (fallback.contents key now) ((serving now fallback).2.contents key now)) :
    Alters declared key licence (inProcess serving) :=
  fun _ groups => altered_of_same rfl rfl fun served => moves (groups ▸ served) _ _

/-- An operation that is served in the process, which matters if the values are kept there. -/
theorem alters_serve {serving : Millis → FallbackStore → α × FallbackStore}
    (moves : declared.keyValue = false → ∀ now fallback,
      Moves licence now (fallback.contents key now) ((serving now fallback).2.contents key now)) :
    Alters declared key licence (serve serving) :=
  alters_bind (alters_count .fallback) fun _ => alters_inProcess moves

/-- A request, which matters if the values are kept in the store. -/
theorem alters_ask {asked : Request}
    (within : declared.keyValue = true → asked.Within licence key) :
    Alters declared key licence (ask asked) := fun connection groups => by
  have asks := @onlyAsks_ask (ObservedStore MemoryStore) _ asked
  refine ⟨asks.led connection, asks.still connection, fun unplanned kept => ?_⟩
  obtain ⟨counters, apply⟩ := ask_apply asked connection
  obtain ⟨-, store, -, same⟩ := StoreView.answer_behind unplanned asked connection.now
  rw [apply] at kept ⊢
  dsimp only at kept ⊢
  rw [contents, contents]
  dsimp only
  rw [same, store]
  rw [store] at kept
  split
  · rename_i values
    exact MemoryStore.moves_answer (within (groups ▸ values)) kept
  · exact .refl

/-- A choice by what the store declares. -/
theorem alters_either {group : OperationGroup}
    {asked served : StateM (Connection (ObservedStore MemoryStore)) α}
    (asks : Alters declared key licence asked) (serves : Alters declared key licence served) :
    Alters declared key licence (do if ← declares group then asked else served) :=
  alters_bind (alters_declares group) fun _ => alters_ite asks serves

/-- A choice by whether the store keeps the records of tags. -/
theorem alters_tracked {asked served : StateM (Connection (ObservedStore MemoryStore)) α}
    (asks : declared.keepsTags = true → Alters declared key licence asked)
    (serves : declared.keepsTags = false → Alters declared key licence served) :
    Alters declared key licence (do if ← tracksTags then asked else served) := by
  intro connection groups
  have same : BackingStore.capabilities connection.store = declared := groups
  simp only [tracksTags, bind_apply, get_apply, pure_apply, same]
  cases keeps : declared.keepsTags with
  | true => exact asks keeps connection groups
  | false => exact serves keeps connection groups

variable [Storable α]

/-! ## Values -/

/-- Settling what a read found. -/
theorem alters_settle (found : Option String) : Alters declared key licence (settle found) := by
  cases found with
  | none => exact alters_bind (alters_count _) fun _ => alters_pure _
  | some payload =>
    rw [settle]
    cases Payload.decode payload with
    | ok document => exact alters_bind (alters_count _) fun _ => alters_pure _
    | error fault =>
      exact alters_bind (alters_count _) fun _ =>
        alters_bind (alters_count _) fun _ => alters_pure _

/-- A read. -/
theorem alters_get (other : String) : Alters declared key licence (Connection.get other) := by
  refine alters_bind (alters_either (alters_ask fun _ => trivial)
    (alters_bind (alters_serve fun _ now fallback => ?_) fun _ => alters_pure _)) fun found => ?_
  · exact .of_eq (FallbackStore.contents_eq (fallback.get_snd other key now))
  · cases found with
    | none => exact alters_pure _
    | some found => exact alters_settle found

/-- A read of a shape. -/
theorem alters_getAs (other : String) : Alters declared key licence (getAs α other) :=
  alters_bind (alters_get other) fun _ => alters_pure _

/-- A write. -/
theorem alters_set {other : String} {value : α} {stated : Option Seconds}
    (allowed : other = key → (Storable.write? value).isSome → licence.write) :
    Alters declared key licence (set other value stated) := by
  cases written : Storable.write? value with
  | none =>
    intro connection _
    rw [set_unwritten written]
    exact altered_of_same rfl rfl fun _ => .refl
  | some document =>
    have allowed' : other = key → licence.write := fun here => allowed here (by rw [written]; rfl)
    refine alters_bind (alters_bind alters_look fun _ => alters_pure _) fun payload => ?_
    cases payload with
    | none => exact alters_pure _
    | some payload =>
      refine alters_bind (alters_lifetimeOf _ _) fun lifetime => alters_either
        (alters_discard (alters_ask fun _ => allowed')) (alters_serve fun _ now fallback => ?_)
      exact FallbackStore.moves_put allowed' (Entry.isExpired_write payload lifetime)

/-- A deletion. -/
theorem alters_deleteAll {keys : List String} (allowed : key ∈ keys → licence.delete) :
    Alters declared key licence (deleteAll keys) :=
  alters_ite (alters_pure _) (alters_either
    (alters_bind (alters_ask fun _ => allowed) fun _ => alters_pure _)
    (alters_serve fun _ _ _ => FallbackStore.moves_delete allowed))

/-- A probe. -/
theorem alters_probe (other : String) : Alters declared key licence (probe other) := by
  refine alters_either (alters_bind (alters_ask fun _ => trivial) fun _ => alters_pure _)
    (alters_serve fun _ now fallback => ?_)
  exact .of_eq (FallbackStore.contents_eq (fallback.probe_snd other key now))

/-- An addition to a counter. -/
theorem alters_increment {other : String} {amount : Int} (allowed : other = key → licence.write) :
    Alters declared key licence (increment other amount) :=
  alters_either (alters_bind (alters_ask fun _ => allowed) fun _ => alters_pure _)
    (alters_bind (alters_serve fun _ _ _ => FallbackStore.moves_increment allowed)
      fun _ => alters_pure _)

/-! ## Batches -/

/-- A write of a group. -/
theorem alters_writeGroup {group : WriteGroup}
    (allowed : key ∈ group.items.map Prod.fst → licence.write) :
    Alters declared key licence (writeGroup group) := by
  have each : ∀ lifetime items, (key ∈ items.map Prod.fst → licence.write) →
      Alters declared key licence (writeEach lifetime items) := by
    intro lifetime items
    induction items with
    | nil => exact fun _ => alters_pure _
    | cons item rest ih =>
      exact fun allowed => alters_bind
        (alters_discard (alters_ask fun _ here => allowed (here ▸ List.mem_cons_self)))
        fun _ => ih fun held => allowed (List.mem_cons_of_mem _ held)
  exact alters_bind (alters_declares _) fun _ => alters_ite
    (alters_serve fun _ _ _ => FallbackStore.moves_setMany allowed)
    (alters_either (alters_discard (alters_ask fun _ => allowed)) (each _ _ allowed))

/-- A write of several values. -/
theorem alters_setMany {items : List (String × α)} {stated : Option Seconds}
    (allowed : (∃ item ∈ items, item.1 = key ∧ (Storable.write? item.2).isSome) → licence.write) :
    Alters declared key licence (setMany items stated) := by
  have writes : ∀ groups : List WriteGroup,
      (∀ group ∈ groups, key ∈ group.items.map Prod.fst → licence.write) →
        Alters declared key licence (writeGroups groups) := by
    intro groups
    induction groups with
    | nil => exact fun _ => alters_pure _
    | cons group rest ih =>
      exact fun allowed => alters_bind (alters_writeGroup (allowed group List.mem_cons_self))
        fun _ => ih fun other inside => allowed other (List.mem_cons_of_mem _ inside)
  intro connection groups
  refine writes (groupsOf stated items connection).1 (fun group inside held => ?_) connection groups
  obtain ⟨item, member, same⟩ := List.mem_map.1 held
  obtain ⟨given, asked, under, form⟩ := mem_groupsOf inside member
  exact allowed ⟨given, asked, under.trans same, form⟩

/-- A read of several values. -/
theorem alters_getMany (keys : List String) : Alters declared key licence (getMany keys) := by
  have each : ∀ keys, Alters declared key licence (readEach keys) := by
    intro keys
    induction keys with
    | nil => exact alters_pure _
    | cons other rest ih =>
      exact alters_bind (alters_ask fun _ => trivial) fun _ => alters_bind ih fun _ => alters_pure _
  have settles : ∀ found answers, Alters declared key licence (settleAll answers found) := by
    intro found
    induction found with
    | nil => exact fun answers => alters_pure _
    | cons first rest ih => exact fun answers => alters_bind (alters_settle _) fun _ => ih _
  refine alters_bind (alters_bind (alters_declares _) fun _ =>
    alters_ite (alters_bind (alters_serve fun _ now fallback => ?_) fun _ => alters_pure _)
      (alters_either (alters_ask fun _ => trivial)
        (alters_bind (each keys) fun _ => alters_pure _))) fun found => ?_
  · exact .of_eq (fallback.contents_getEach keys key now)
  · cases found with
    | none => exact alters_pure _
    | some found => exact settles _ _

/-! ## Tags -/

omit [Libraries] in
/-- A record of tags that is kept in the store is kept where values are. -/
theorem keepsTogether_of_keepsTags (keeps : declared.keepsTags = true) : declared.KeepsTogether :=
  fun _ => (Bool.and_eq_true _ _ ▸ keeps).1

omit [Libraries] in
/-- A record of tags that is kept in the process is kept where values are, if they are there. -/
theorem keepsTogether_of_served (served : declared.keyValue = false) : declared.KeepsTogether :=
  fun values => absurd (served.symm.trans values) Bool.false_ne_true

/-- A write under tags. -/
theorem alters_setTagged {other : String} {value : α} {tags : List String}
    {stated : Option Seconds}
    (write : other = key → (Storable.write? value).isSome → licence.write)
    (enlist : key ∈ tags.map Key.ofTag → declared.KeepsTogether → licence.enlist) :
    Alters declared key licence (setTagged other value tags stated) :=
  alters_bind (alters_set write) fun _ => alters_ite (alters_pure _) (alters_tracked
    (fun keeps => alters_discard (alters_ask fun _ held =>
      enlist held (keepsTogether_of_keepsTags keeps)))
    fun _ => alters_serve fun served _ _ => FallbackStore.moves_addMember fun held =>
      enlist held (keepsTogether_of_served served))

omit [Storable α] in
/-- A reading of a record. -/
theorem alters_membersOf (record : String) : Alters declared key licence (membersOf record) := by
  refine alters_tracked (fun _ => alters_ask fun _ => trivial)
    fun _ => alters_bind (alters_serve fun _ now fallback => ?_) fun _ => alters_pure _
  exact .of_eq (FallbackStore.contents_eq (fallback.useSet_snd record key now))

omit [Storable α] in
/-- A deletion of a record. -/
theorem alters_dropRecord {record : String}
    (allowed : key = record → declared.KeepsTogether → licence.delete) :
    Alters declared key licence (dropRecord record) :=
  alters_tracked
    (fun keeps => alters_discard (alters_ask fun _ held =>
      allowed (List.mem_singleton.1 held) (keepsTogether_of_keepsTags keeps)))
    fun _ => alters_discard (alters_inProcess fun served _ _ =>
      FallbackStore.moves_delete fun held =>
        allowed (List.mem_singleton.1 held) (keepsTogether_of_served served))

/-- The keys that the record of a tag lists where it is kept. -/
def listedUnder (connection : Connection (ObservedStore MemoryStore)) (tag : String) :
    List String :=
  if connection.store.declared.keepsTags then connection.store.store.listed tag connection.now
  else (connection.cache.fallback.members (Key.ofTag tag) connection.now).1

/-- Without faults the keys that are read off the record of a tag are those that it lists. -/
theorem membersOf_fst {connection : Connection (ObservedStore MemoryStore)}
    (unplanned : connection.store.plans = []) (tag : String) :
    (membersOf (Key.ofTag tag) connection).1.getD [] = connection.listedUnder tag := by
  cases keeps : connection.store.declared.keepsTags with
  | true =>
    obtain ⟨-, -, found⟩ := membersOf_observed keeps tag
    rw [found, listedUnder, keeps, ObservedStore.strikesAhead_of_unplanned unplanned]
    rfl
  | false =>
    have same : (BackingStore.capabilities connection.store).keepsTags = false := keeps
    rw [listedUnder, keeps, membersOf]
    simp only [tracksTags, bind_apply, get_apply, pure_apply, same, Bool.false_eq_true, ↓reduceIte,
      serve_apply]
    rfl

/-- An invalidation by a tag. -/
theorem altered_invalidateTag {connection : Connection (ObservedStore MemoryStore)} {tag : String}
    (allowed : connection.listedUnder tag ≠ [] →
      (key ∈ connection.listedUnder tag ∨
        key = Key.ofTag tag ∧ connection.store.declared.KeepsTogether) → licence.delete) :
    Altered licence key connection (invalidateTag tag connection).2 := by
  have asks := @onlyAsks_invalidateTag (ObservedStore MemoryStore) _ tag
  refine ⟨asks.led connection, asks.still connection, fun unplanned kept => ?_⟩
  have members := membersOf_fst unplanned tag
  have read : Altered licence key connection (membersOf (Key.ofTag tag) connection).2 :=
    alters_membersOf (Key.ofTag tag) connection rfl
  rw [invalidateTag_steps, members] at kept ⊢
  by_cases empty : connection.listedUnder tag = []
  · rw [if_pos empty] at kept ⊢
    exact read.moves unplanned kept
  · rw [if_neg empty] at kept ⊢
    have deletes : Alters connection.store.declared key licence
        (deleteAll (connection.listedUnder tag)) :=
      alters_deleteAll fun held => allowed empty (.inl held)
    have drops : Alters connection.store.declared key licence (dropRecord (Key.ofTag tag)) :=
      alters_dropRecord fun here together => allowed empty (.inr ⟨here, together⟩)
    have deleted := read.trans (deletes _ read.led.behind.2.1)
    exact (deleted.trans (drops _ deleted.led.behind.2.1)).moves unplanned kept

/-! ## Patterns -/

/-- The keys that a page shows match the pattern of the walk. -/
theorem matches_of_scanned {connection : Connection (ObservedStore MemoryStore)}
    {pattern : String} {cursor count : Nat} {page : Page}
    (scanned : (ask (.scan cursor pattern count) connection).1 = some (.returned page))
    {other : String} (shown : other ∈ page.keys) : Matches pattern other := by
  obtain ⟨counters, apply⟩ := ask_apply (.scan cursor pattern count) connection
  have answered : BackingStore.answer (.scan cursor pattern count) connection.now
      connection.store = ObservedStore.answer _ _ _ := rfl
  rw [apply, answered, ObservedStore.answer] at scanned
  split at scanned
  · exact absurd scanned (by simp [Except.toOption])
  · have answer : (BackingStore.answer (.scan cursor pattern count) connection.now
        connection.store.store).1 =
          connection.store.store.scan cursor pattern count connection.now := rfl
    dsimp only at scanned
    rw [answer] at scanned
    cases found : connection.store.store.scan cursor pattern count connection.now with
    | error fault =>
      rw [found] at scanned
      exact absurd scanned (by simp [Except.toOption, Except.map])
    | ok whole =>
      rw [found] at scanned
      obtain rfl : whole = .returned page := Option.some.inj scanned
      exact MemoryStore.matches_of_mem_scan found shown

/-- A walk, which comes to values if they are kept in the store. -/
theorem alters_walk {pattern : String} (allowed : Matches pattern key → licence.delete)
    (cursor removed pages : Nat) :
    Alters declared key licence (walk pattern cursor removed pages) := by
  induction pages generalizing cursor removed with
  | zero => exact alters_pure _
  | succ pages ih =>
    intro connection groups
    rw [walk, bind_apply, get_apply, bind_apply]
    dsimp only
    generalize size : max connection.cache.configuration.scanBatch 1 = count
    have asks : Alters declared key licence (ask (.scan cursor pattern count)) :=
      alters_ask fun _ => trivial
    have scanned := asks connection groups
    have shown : ∀ page,
        (ask (.scan cursor pattern count) connection).1 = some (.returned page) →
          ∀ other ∈ page.keys, Matches pattern other :=
      fun page found other => matches_of_scanned found
    generalize ask (.scan cursor pattern count) connection = result at scanned shown ⊢
    rcases result with ⟨_ | page | _ | _, left⟩
    · exact scanned
    · have deleted : Alters declared key licence (deletePage page.keys) :=
        alters_ite (alters_pure _) (alters_ask fun _ held => allowed (shown page rfl key held))
      refine scanned.trans (alters_bind deleted (fun count => ?_) left
        (scanned.led.behind.2.1.trans groups))
      cases count with
      | none => exact alters_pure _
      | some count => exact alters_ite (alters_pure _) (ih _ _)
    · exact scanned
    · exact scanned

/-- An invalidation by a pattern. -/
theorem alters_invalidate {pattern : String}
    (allowed : Matches pattern key → declared.ReachesValues → licence.delete) :
    Alters declared key licence (invalidate pattern) := by
  have walked : Alters declared key licence (walkStore pattern) := by
    intro connection groups
    have same : BackingStore.capabilities connection.store = declared := groups
    rw [walkStore, bind_apply, get_apply]
    dsimp only
    rw [same]
    cases walks : declared.deletesByWalk with
    | false => exact alters_pure _ connection groups
    | true =>
      exact alters_walk (fun matched => allowed matched fun _ => (Bool.and_eq_true _ _ ▸ walks).1)
        _ _ _ connection groups
  refine alters_bind walked fun ending => ?_
  cases ending with
  | panicked | running => exact alters_pure _
  | returned result =>
    refine alters_ite (alters_bind (alters_inProcess fun served now fallback => ?_)
      fun _ => alters_pure _) (alters_pure _)
    rw [deleteMatching]
    cases compiles : Pattern.compile? pattern with
    | none => exact .refl
    | some compiled =>
      refine FallbackStore.moves_delete fun held => allowed ⟨compiled, compiles, ?_⟩
        fun values => ?_
      · exact (FallbackStore.mem_keysLike.1 held).2
      · exact absurd (served.symm.trans values) Bool.false_ne_true

end Connection

end FailOpenCache
