import FailOpenCache.Proofs.Cache.OnMemory

/-!
# Batches of writes

A batch is written group by group, and the groups stand in the order of their lifetimes rather than
in the order of the batch. Two writes under one key have one lifetime, so they are in one group and
in their order there: under each key the groups write what the batch says, in the order of the
batch.
-/

namespace FailOpenCache

/-- One write of a batch. -/
structure PlannedWrite where
  /-- The key. -/
  key : String
  /-- The payload. -/
  payload : String
  /-- The lifetime. -/
  lifetime : Seconds
deriving DecidableEq

/-- The writes of a group. -/
def WriteGroup.planned (group : WriteGroup) : List PlannedWrite :=
  group.items.map fun item => ⟨item.1, item.2, group.lifetime⟩

/-- The writes of groups, one group after the other. -/
def plannedOf (groups : List WriteGroup) : List PlannedWrite :=
  groups.flatMap WriteGroup.planned

/-- The writes under one key. -/
def writesUnder (key : String) (writes : List PlannedWrite) : List PlannedWrite :=
  writes.filter fun write => write.key = key

/-- Writes under one key are found in each of two parts. -/
theorem writesUnder_append (key : String) (first later : List PlannedWrite) :
    writesUnder key (first ++ later) = writesUnder key first ++ writesUnder key later :=
  List.filter_append ..

/-- Groups of one lifetime each, the shortest first, in which each key has its own lifetime. -/
structure Grouped (lifetime : String → Seconds) (groups : List WriteGroup) : Prop where
  /-- The lifetimes increase. -/
  ordered : groups.Pairwise fun first later => first.lifetime < later.lifetime
  /-- A key is in the group of its lifetime. -/
  own : ∀ group ∈ groups, ∀ item ∈ group.items, lifetime item.1 = group.lifetime

variable {lifetime : String → Seconds}

/-- A key is not written by groups of other lifetimes. -/
theorem writesUnder_of_foreign {groups : List WriteGroup}
    (own : ∀ group ∈ groups, ∀ item ∈ group.items, lifetime item.1 = group.lifetime)
    {key : String} (foreign : ∀ group ∈ groups, lifetime key ≠ group.lifetime) :
    writesUnder key (plannedOf groups) = [] := by
  refine List.filter_eq_nil_iff.2 fun write written => ?_
  obtain ⟨group, inside, planned⟩ := List.mem_flatMap.1 written
  obtain ⟨item, held, rfl⟩ := List.mem_map.1 planned
  rw [decide_eq_true_eq]
  intro same
  exact foreign group inside (same ▸ own group inside item held)

/-- The groups behind a group have greater lifetimes than its own. -/
theorem Grouped.behind {group : WriteGroup} {rest : List WriteGroup}
    (grouped : Grouped lifetime (group :: rest)) :
    (∀ later ∈ rest, group.lifetime < later.lifetime) ∧ Grouped lifetime rest := by
  obtain ⟨first, later⟩ := List.pairwise_cons.1 grouped.ordered
  exact ⟨first, later, fun other inside => grouped.own other (List.mem_cons_of_mem _ inside)⟩

/-- Every group after an addition has the lifetime of one before it, or that of the addition. -/
theorem mem_addToGroups {added : Seconds} {item : String × String} {groups : List WriteGroup}
    {group : WriteGroup} (held : group ∈ addToGroups added item groups) :
    group.lifetime = added ∨ ∃ before ∈ groups, before.lifetime = group.lifetime := by
  induction groups with
  | nil =>
    rw [addToGroups, List.mem_singleton] at held
    exact .inl (congrArg WriteGroup.lifetime held)
  | cons first rest ih =>
    rw [addToGroups] at held
    split at held
    · rcases List.mem_cons.1 held with same | inside
      · exact .inl (congrArg WriteGroup.lifetime same)
      · exact .inr ⟨group, inside, rfl⟩
    · split at held
      · rcases List.mem_cons.1 held with same | inside
        · exact .inl (congrArg WriteGroup.lifetime same)
        · exact .inr ⟨group, List.mem_cons_of_mem _ inside, rfl⟩
      · rcases List.mem_cons.1 held with same | inside
        · exact .inr ⟨first, List.mem_cons_self, congrArg WriteGroup.lifetime same.symm⟩
        · rcases ih inside with same | ⟨before, kept, same⟩
          · exact .inl same
          · exact .inr ⟨before, List.mem_cons_of_mem _ kept, same⟩

/-- An addition to the group of its lifetime keeps groups grouped. -/
theorem Grouped.add {groups : List WriteGroup} (grouped : Grouped lifetime groups)
    (item : String × String) :
    Grouped lifetime (addToGroups (lifetime item.1) item groups) := by
  induction groups with
  | nil =>
    refine ⟨List.pairwise_singleton _ _, fun group held other inside => ?_⟩
    rw [addToGroups, List.mem_singleton] at held
    subst held
    rw [List.mem_singleton.1 inside]
  | cons first rest ih =>
    obtain ⟨greater, behind⟩ := grouped.behind
    have ownFirst := grouped.own first List.mem_cons_self
    rw [addToGroups]
    split
    · rename_i shorter
      refine ⟨List.pairwise_cons.2 ⟨fun other inside => ?_, grouped.ordered⟩, ?_⟩
      · rcases List.mem_cons.1 inside with rfl | later
        · exact shorter
        · exact Nat.lt_trans shorter (greater other later)
      · intro group held other inside
        rcases List.mem_cons.1 held with rfl | later
        · rw [List.mem_singleton.1 inside]
        · exact grouped.own group later other inside
    · split
      · rename_i same
        refine ⟨List.pairwise_cons.2 ⟨fun other inside => ?_, behind.ordered⟩, ?_⟩
        · exact same ▸ greater other inside
        · intro group held other inside
          rcases List.mem_cons.1 held with rfl | later
          · rcases List.mem_append.1 inside with old | new
            · exact same ▸ ownFirst other old
            · rw [List.mem_singleton.1 new]
          · exact behind.own group later other inside
      · rename_i notShorter differs
        obtain ⟨ordered, own⟩ := ih behind
        refine ⟨List.pairwise_cons.2 ⟨fun other inside => ?_, ordered⟩, ?_⟩
        · rcases mem_addToGroups inside with same | ⟨before, kept, same⟩
          · have atMost : first.lifetime ≤ lifetime item.1 := Nat.le_of_not_lt notShorter
            exact same ▸ Nat.lt_of_le_of_ne atMost (Ne.symm differs)
          · exact same ▸ greater before kept
        · intro group held other inside
          rcases List.mem_cons.1 held with rfl | later
          · exact ownFirst other inside
          · exact own group later other inside

/-- An addition comes after everything else that is written under its key. -/
theorem writesUnder_addToGroups {groups : List WriteGroup} (grouped : Grouped lifetime groups)
    (item : String × String) (key : String) :
    writesUnder key (plannedOf (addToGroups (lifetime item.1) item groups)) =
      writesUnder key (plannedOf groups) ++
        writesUnder key [⟨item.1, item.2, lifetime item.1⟩] := by
  induction groups with
  | nil => rfl
  | cons first rest ih =>
    obtain ⟨greater, behind⟩ := grouped.behind
    have shape : ∀ (group : WriteGroup) (others : List WriteGroup),
        plannedOf (group :: others) = group.planned ++ plannedOf others :=
      fun _ _ => List.flatMap_cons
    -- Nothing of the key of the addition is written by groups of greater lifetimes.
    have apart : ∀ others : List WriteGroup,
        (∀ group ∈ others, ∀ item ∈ group.items, lifetime item.1 = group.lifetime) →
        (∀ group ∈ others, lifetime item.1 < group.lifetime) →
        writesUnder key [⟨item.1, item.2, lifetime item.1⟩] ++
            writesUnder key (plannedOf others) =
          writesUnder key (plannedOf others) ++
            writesUnder key [⟨item.1, item.2, lifetime item.1⟩] := by
      intro others own foreign
      by_cases same : item.1 = key
      · have none := writesUnder_of_foreign own fun group inside =>
          Nat.ne_of_lt (same ▸ foreign group inside)
        rw [none, List.append_nil, List.nil_append]
      · have none : writesUnder key [⟨item.1, item.2, lifetime item.1⟩] = [] := by
          simp [writesUnder, same]
        rw [none, List.append_nil, List.nil_append]
    rw [addToGroups]
    split
    · rename_i shorter
      rw [shape, writesUnder_append]
      refine apart (first :: rest) grouped.own fun group inside => ?_
      rcases List.mem_cons.1 inside with rfl | later
      · exact shorter
      · exact Nat.lt_trans shorter (greater group later)
    · split
      · rename_i same
        have joined : WriteGroup.planned ⟨lifetime item.1, first.items ++ [item]⟩ =
            first.planned ++ [⟨item.1, item.2, lifetime item.1⟩] := by
          simp [WriteGroup.planned, same]
        rw [shape, shape, joined, writesUnder_append, writesUnder_append, writesUnder_append,
          List.append_assoc, List.append_assoc]
        exact congrArg _ (apart rest behind.own fun group inside => same ▸ greater group inside)
      · rw [shape, shape, writesUnder_append, writesUnder_append, ih behind, List.append_assoc]

namespace Connection

variable {σ α : Type} [Storable α]

/-- The writes that a batch asks for, in its order. -/
def planOf [Libraries] (cache : Cache) (stated : Option Seconds) (items : List (String × α)) :
    List PlannedWrite :=
  items.filterMap fun item => (Storable.write? item.2).map fun document =>
    ⟨item.1, Payload.encode cache.configuration.compressionThreshold document,
      cache.rules.resolve item.1 stated⟩

/-- Under each key the groups of a batch write what the batch asks for, in its order. -/
theorem writesUnder_groupsOf [Libraries] (stated : Option Seconds) (items : List (String × α))
    (connection : Connection σ) (key : String) :
    writesUnder key (plannedOf (groupsOf stated items connection).1) =
      writesUnder key (planOf connection.cache stated items) := by
  obtain ⟨step, folded, passes, adds⟩ : ∃ step : List WriteGroup → String × α → List WriteGroup,
      (groupsOf stated items connection).1 = items.foldl step [] ∧
      (∀ groups item, Storable.write? item.2 = none → step groups item = groups) ∧
      ∀ groups item document, Storable.write? item.2 = some document →
        step groups item = addToGroups (connection.cache.rules.resolve item.1 stated) (item.1,
          Payload.encode connection.cache.configuration.compressionThreshold document) groups :=
    ⟨_, rfl, fun _ _ none => by simp only [none], fun _ _ _ some => by simp only [some]⟩
  rw [folded]
  clear folded
  suffices general : ∀ groups : List WriteGroup,
      Grouped (fun key => connection.cache.rules.resolve key stated) groups →
      writesUnder key (plannedOf (items.foldl step groups)) =
        writesUnder key (plannedOf groups) ++
          writesUnder key (planOf connection.cache stated items) from
    general [] ⟨List.Pairwise.nil, fun _ held => absurd held List.not_mem_nil⟩
  induction items with
  | nil => exact fun groups _ => (List.append_nil _).symm
  | cons item rest ih =>
    intro groups grouped
    rw [List.foldl_cons]
    cases written : Storable.write? item.2 with
    | none =>
      rw [passes _ _ written, ih groups grouped]
      simp [planOf, written]
    | some document =>
      have added := writesUnder_addToGroups grouped
        (item.1, Payload.encode connection.cache.configuration.compressionThreshold document) key
      have plan : planOf connection.cache stated (item :: rest) =
          [⟨item.1, Payload.encode connection.cache.configuration.compressionThreshold document,
            connection.cache.rules.resolve item.1 stated⟩] ++
            planOf connection.cache stated rest := by
        simp [planOf, written]
      rw [adds _ _ _ written]
      refine (ih _ (grouped.add (item.1, _))).trans ?_
      rw [added, plan, writesUnder_append, List.append_assoc]

/-- An item in a group of a batch is under the key of an item of the batch that has a written
form. -/
theorem mem_groupsOf [Libraries] {stated : Option Seconds} {items : List (String × α)}
    {connection : Connection σ} {group : WriteGroup}
    (inside : group ∈ (groupsOf stated items connection).1) {item : String × String}
    (held : item ∈ group.items) :
    ∃ given ∈ items, given.1 = item.1 ∧ (Storable.write? given.2).isSome := by
  have written : ⟨item.1, item.2, group.lifetime⟩ ∈
      writesUnder item.1 (plannedOf (groupsOf stated items connection).1) :=
    List.mem_filter.2 ⟨List.mem_flatMap.2 ⟨group, inside, List.mem_map.2 ⟨item, held, rfl⟩⟩,
      decide_eq_true rfl⟩
  rw [writesUnder_groupsOf] at written
  obtain ⟨given, member, planned⟩ := List.mem_filterMap.1 (List.mem_filter.1 written).1
  obtain ⟨document, form, same⟩ := Option.map_eq_some_iff.1 planned
  exact ⟨given, member, congrArg PlannedWrite.key same, by rw [form]; rfl⟩

end Connection

namespace MemoryStore

/-- Writes one after the other. -/
def writeAll (store : MemoryStore) (writes : List PlannedWrite) (now : Millis) : MemoryStore :=
  writes.foldl (fun written write => written.set write.key write.payload write.lifetime now) store

/-- What a key holds after writes, when it held something before. -/
def heldAfter (key : String) (now : Millis) (held : Option Slot) (writes : List PlannedWrite) :
    Option Slot :=
  writes.foldl (fun held write =>
    if write.key = key then live (.value (.write write.payload write.lifetime now)) now
    else held) held

/-- Only the writes under a key count for it. -/
theorem heldAfter_writesUnder (key : String) (now : Millis) (held : Option Slot)
    (writes : List PlannedWrite) :
    heldAfter key now held (writesUnder key writes) = heldAfter key now held writes := by
  induction writes generalizing held with
  | nil => rfl
  | cons write rest ih =>
    by_cases same : write.key = key
    · have kept : writesUnder key (write :: rest) = write :: writesUnder key rest := by
        simp [writesUnder, same]
      rw [kept]
      exact ih _
    · have dropped : writesUnder key (write :: rest) = writesUnder key rest := by
        simp [writesUnder, same]
      rw [dropped, ih]
      simp [heldAfter, same]

/-- Writes count the evictions. -/
theorem evictions_le_writeAll (writes : List PlannedWrite) (store : MemoryStore) (now : Millis) :
    store.evictions ≤ (store.writeAll writes now).evictions := by
  induction writes generalizing store with
  | nil => exact Nat.le_refl _
  | cons write rest ih => exact Nat.le_trans (evictions_le_insert ..) (ih _)

/-- Writes without an eviction leave under each key what it holds after them. -/
theorem find?_writeAll {writes : List PlannedWrite} {store : MemoryStore} {now : Millis}
    (kept : (store.writeAll writes now).evictions = store.evictions) (key : String) :
    (store.writeAll writes now).find? key now =
      heldAfter key now (store.find? key now) writes := by
  induction writes generalizing store with
  | nil => rfl
  | cons write rest ih =>
    have first := evictions_le_insert store write.key
      (.value (.write write.payload write.lifetime now)) now
    have later := evictions_le_writeAll rest
      (store.set write.key write.payload write.lifetime now) now
    have whole : ((store.set write.key write.payload write.lifetime now).writeAll rest
        now).evictions = store.evictions := kept
    have keptFirst : (store.set write.key write.payload write.lifetime now).evictions =
        store.evictions := Nat.le_antisymm (whole ▸ later) first
    have written := ih (whole.trans keptFirst.symm)
    have here := find?_insert keptFirst key
    rw [set] at written
    rw [here] at written
    refine written.trans ?_
    simp only [heldAfter, List.foldl_cons, eq_comm]

end MemoryStore

namespace Connection

/-- A group is one call to the store. -/
theorem writeGroup_onMemory [Libraries] (group : WriteGroup) (connection : Connection MemoryStore) :
    (writeGroup group connection).2.store =
      connection.store.writeAll group.planned connection.now := by
  have declared := declares_onMemory embeds_self (Eq.refl connection.store)
  simp only [writeGroup, bind_apply, declares_apply, declared, Bool.not_true, Bool.false_eq_true,
    ↓reduceIte, discard_apply, ask_store]
  rw [MemoryStore.writeAll, WriteGroup.planned, List.foldl_map]
  rfl

theorem quiet_writeEach {σ : Type} [BackingStore σ] (lifetime : Seconds)
    (items : List (String × String)) :
    Quiet (writeEach lifetime items : StateM (Connection σ) Unit) := by
  induction items with
  | nil => exact quiet_pure _
  | cons item rest ih => exact quiet_bind (quiet_discard (quiet_ask _)) fun _ => ih

theorem quiet_writeGroup {σ : Type} [BackingStore σ] (group : WriteGroup) :
    Quiet (writeGroup group : StateM (Connection σ) Unit) := by
  refine quiet_bind (quiet_declares _) fun declared => ?_
  cases declared with
  | false => exact quiet_serve _
  | true =>
    refine quiet_bind (quiet_declares _) fun pipelined => ?_
    cases pipelined with
    | false => exact quiet_writeEach _ _
    | true => exact quiet_discard (quiet_ask _)

theorem quiet_writeGroups {σ : Type} [BackingStore σ] (groups : List WriteGroup) :
    Quiet (writeGroups groups : StateM (Connection σ) Unit) := by
  induction groups with
  | nil => exact quiet_pure _
  | cons group rest ih => exact quiet_bind (quiet_writeGroup group) fun _ => ih

/-- Groups are written one after the other. -/
theorem writeGroups_onMemory [Libraries] (groups : List WriteGroup)
    (connection : Connection MemoryStore) :
    (writeGroups groups connection).2.store =
      connection.store.writeAll (plannedOf groups) connection.now := by
  induction groups generalizing connection with
  | nil => rfl
  | cons group rest ih =>
    have shape : plannedOf (group :: rest) = group.planned ++ plannedOf rest :=
      List.flatMap_cons
    rw [writeGroups, bind_apply, ih, writeGroup_onMemory, (quiet_writeGroup group connection).now,
      shape, MemoryStore.writeAll, MemoryStore.writeAll, MemoryStore.writeAll, List.foldl_append]

variable {α : Type} [Storable α]

/-- Writing several values is quiet. -/
theorem quiet_setMany [Libraries] {σ : Type} [BackingStore σ] (items : List (String × α))
    (stated : Option Seconds) : Quiet (setMany items stated : StateM (Connection σ) Unit) :=
  quiet_bind (quiet_bind quiet_get fun _ => quiet_pure _) fun groups => quiet_writeGroups groups

/-- A batch of writes counts the evictions. -/
theorem evictions_le_setMany [Libraries] (items : List (String × α)) (stated : Option Seconds)
    (connection : Connection MemoryStore) :
    connection.store.evictions ≤ (setMany items stated connection).2.store.evictions := by
  rw [setMany, bind_apply, writeGroups_onMemory]
  exact MemoryStore.evictions_le_writeAll ..

/-- A batch written without an eviction leaves under each key what it asks for. -/
theorem find?_setMany [Libraries] {items : List (String × α)} {stated : Option Seconds}
    {connection : Connection MemoryStore}
    (kept : (setMany items stated connection).2.store.evictions = connection.store.evictions)
    (key : String) :
    (setMany items stated connection).2.store.find? key connection.now =
      MemoryStore.heldAfter key connection.now (connection.store.find? key connection.now)
        (planOf connection.cache stated items) := by
  have shape : (setMany items stated connection).2.store = connection.store.writeAll
      (plannedOf (groupsOf stated items connection).1) connection.now :=
    writeGroups_onMemory _ _
  rw [shape] at kept ⊢
  rw [MemoryStore.find?_writeAll kept, ← MemoryStore.heldAfter_writesUnder,
    writesUnder_groupsOf, MemoryStore.heldAfter_writesUnder]

end Connection

end FailOpenCache
