import FailOpenCache.Cache.Invalidation
import FailOpenCache.Proofs.Cache.OnMemory
import FailOpenCache.Proofs.Store.EagerAnswers
import FailOpenCache.Proofs.Store.Pages

/-!
# Walks over the store in memory

A walk shows the keys page by page in the order of their last use, and deletes those that match as
it goes. A deletion takes keys of the page out of the order and leaves the stamps of the others
alone, so what lies ahead of the cursor stays ahead of it: a walk from the beginning meets every key
once, comes to an end by itself, and deletes and counts exactly those that are live and match. If
there is no room for its pages, it panics at the first one and deletes nothing.
-/

namespace FailOpenCache

namespace MemoryStore

variable {store : MemoryStore} {now : Millis}

/-- A removal takes a key out of the order of use. -/
theorem Coherent.order_remove (coherent : store.Coherent) (key : String) :
    (store.remove key).recency.order =
      store.recency.order.filter fun entry => decide (entry.2 ≠ key) :=
  coherent.recency.orderWithout_eq key

/-- A live key that is used and then removed is out of the order of use, and the others stand there
as before. -/
theorem Coherent.order_remove_use (coherent : store.Coherent) {key : String} {slot : Slot}
    (live : store.find? key now = some slot) :
    ((store.use key now).2.remove key).recency.order =
      store.recency.order.filter fun entry => decide (entry.2 ≠ key) := by
  rw [(coherent.use key now).order_remove, use_of_live live]
  simp only [Recency.touch, coherent.recency.orderWithout_eq, List.filter_append,
    List.filter_filter, Bool.and_self]
  simp

/-- A deletion of live keys counts them all, and takes them out of the order of use. -/
theorem Coherent.delete_live (coherent : store.Coherent) {keys : List String}
    (distinct : keys.Nodup) (live : ∀ key ∈ keys, (store.find? key now).isSome) :
    (store.delete keys now).1 = keys.length ∧
      (store.delete keys now).2.recency.order =
        store.recency.order.filter fun entry => decide (entry.2 ∉ keys) := by
  induction keys generalizing store with
  | nil => simp [delete]
  | cons key rest ih =>
    obtain ⟨once, distinct'⟩ := List.nodup_cons.1 distinct
    obtain ⟨slot, found⟩ := Option.isSome_iff_exists.1 (live key List.mem_cons_self)
    have kept := (coherent.use key now).remove key
    have out := coherent.order_remove_use found
    have live' : ∀ other ∈ rest, (((store.use key now).2.remove key).find? other now).isSome := by
      intro other held
      have differs : other ≠ key := fun same => once (same ▸ held)
      rw [find?_remove, if_neg differs, find?_use]
      exact live other (List.mem_cons_of_mem _ held)
    obtain ⟨counted, order⟩ := ih kept distinct' live'
    rw [out, List.filter_filter] at order
    rw [use_of_live found] at counted order
    rw [delete, use_of_live found]
    refine ⟨congrArg (· + 1) counted, order.trans (List.filter_congr fun entry _ => ?_)⟩
    rw [← Bool.decide_and, decide_eq_decide, List.mem_cons, not_or, and_comm]

/-- A deletion does not change whether other keys match. -/
theorem matching_delete {keys : List String} {compiled : Pattern} {entries : List (Nat × String)}
    (others : ∀ entry ∈ entries, entry.2 ∉ keys) :
    (store.delete keys now).2.matching now compiled entries =
      store.matching now compiled entries := by
  refine List.filter_congr fun key held => ?_
  obtain ⟨entry, inside, rfl⟩ := List.mem_map.1 held
  rw [find?_delete, if_neg (others entry inside)]

end MemoryStore

/-- No page of so many keys panics, whichever store of a kind is asked for it. -/
def PagesReturn (σ : Type) [BackingStore σ] (count : Nat) : Prop :=
  ∀ (cursor : Nat) (pattern : String) (now : Millis) (store : σ),
    (BackingStore.answer (.scan cursor pattern count) now store).1 ≠ .ok .panicked

/-- The store in memory shows every page that it can make room for. -/
theorem pagesReturn_memory [Libraries] {count : Nat} (few : count ≤ Recency.mostKeys) :
    PagesReturn MemoryStore count := by
  intro cursor pattern now store
  show store.scan cursor pattern count now ≠ .ok .panicked
  cases compiled : Pattern.compile? pattern with
  | none => simp [MemoryStore.scan, compiled]
  | some expression => simp [MemoryStore.scan_eq compiled few]

namespace Connection

open MemoryStore (matching_append mem_matching)

section

variable {σ : Type} [BackingStore σ] {pattern : String}

/-- The loop of a walk, which has no bound of its own: from a cursor and a count so many pages lead
to the end of the walk. It ends behind the last page, or at a call that fails or panics. -/
inductive Walks (pattern : String) :
    (pages cursor removed : Nat) → Connection σ → Ending Walk × Connection σ → Prop where
  /-- The page is refused. -/
  | unread {cursor removed : Nat} {connection left : Connection σ}
    (asked : ask (.scan cursor pattern (max connection.cache.configuration.scanBatch 1))
      connection = (none, left)) :
    Walks pattern 1 cursor removed connection (.returned ⟨removed, false⟩, left)
  /-- The page panics. -/
  | panicked {cursor removed : Nat} {connection left : Connection σ}
    (asked : ask (.scan cursor pattern (max connection.cache.configuration.scanBatch 1))
      connection = (some .panicked, left)) :
    Walks pattern 1 cursor removed connection (.panicked, left)
  /-- The deletion of the keys of the page is refused. -/
  | undeleted {cursor removed : Nat} {page : Page} {connection shown left : Connection σ}
    (asked : ask (.scan cursor pattern (max connection.cache.configuration.scanBatch 1))
      connection = (some (.returned page), shown))
    (deleted : deletePage page.keys shown = (none, left)) :
    Walks pattern 1 cursor removed connection (.returned ⟨removed, false⟩, left)
  /-- The page is the last one. -/
  | last {cursor removed count : Nat} {page : Page} {connection shown left : Connection σ}
    (asked : ask (.scan cursor pattern (max connection.cache.configuration.scanBatch 1))
      connection = (some (.returned page), shown))
    (deleted : deletePage page.keys shown = (some count, left)) (ends : page.next = 0) :
    Walks pattern 1 cursor removed connection (.returned ⟨removed + count, true⟩, left)
  /-- The page leads to another one. -/
  | next {pages cursor removed count : Nat} {page : Page}
    {connection shown left : Connection σ} {outcome : Ending Walk × Connection σ}
    (asked : ask (.scan cursor pattern (max connection.cache.configuration.scanBatch 1))
      connection = (some (.returned page), shown))
    (deleted : deletePage page.keys shown = (some count, left)) (more : page.next ≠ 0)
    (onward : Walks pattern pages page.next (removed + count) left outcome) :
    Walks pattern (pages + 1) cursor removed connection outcome

/-- One page of a walk, and what becomes of the rest. -/
theorem walk_page (pattern : String) (cursor removed bound : Nat) (connection : Connection σ) :
    walk pattern cursor removed (bound + 1) connection =
      let asked := ask (.scan cursor pattern (max connection.cache.configuration.scanBatch 1))
        connection
      match asked.1 with
      | none => (.returned ⟨removed, false⟩, asked.2)
      | some .panicked => (.panicked, asked.2)
      | some .running => (.running, asked.2)
      | some (.returned page) =>
        let deleted := deletePage page.keys asked.2
        match deleted.1 with
        | none => (.returned ⟨removed, false⟩, deleted.2)
        | some count =>
          if page.next = 0 then (.returned ⟨removed + count, true⟩, deleted.2)
          else walk pattern page.next (removed + count) bound deleted.2 := by
  rw [walk, bind_apply, get_apply, bind_apply]
  dsimp only
  cases (ask (.scan cursor pattern (max connection.cache.configuration.scanBatch 1))
    connection).1 with
  | none => rfl
  | some scanned =>
    cases scanned with
    | panicked | running => rfl
    | returned page =>
      dsimp only
      rw [bind_apply]
      cases (deletePage page.keys (ask (.scan cursor pattern
        (max connection.cache.configuration.scanBatch 1)) connection).2).1 with
      | none => rfl
      | some count => exact ite_apply ..

/-- A bound that leaves pages enough for the loop makes no difference to it. -/
theorem Walks.walk_eq {pages cursor removed : Nat} {connection : Connection σ}
    {outcome : Ending Walk × Connection σ}
    (walks : Walks pattern pages cursor removed connection outcome) {bound : Nat}
    (enough : pages ≤ bound) : walk pattern cursor removed bound connection = outcome := by
  induction walks generalizing bound with
  | unread asked | panicked asked =>
    obtain ⟨bound, rfl⟩ := Nat.exists_eq_add_of_le' enough
    simp only [walk_page, asked]
  | undeleted asked deleted =>
    obtain ⟨bound, rfl⟩ := Nat.exists_eq_add_of_le' enough
    simp only [walk_page, asked, deleted]
  | last asked deleted ends =>
    obtain ⟨bound, rfl⟩ := Nat.exists_eq_add_of_le' enough
    simp only [walk_page, asked, deleted, ends, ↓reduceIte]
  | next asked deleted more onward ih =>
    obtain ⟨bound, rfl⟩ := Nat.exists_eq_add_of_le' (Nat.le_of_add_left_le enough)
    simp only [walk_page, asked, deleted, more, ↓reduceIte]
    exact ih (Nat.le_of_succ_le_succ enough)

/-- A walk does not panic if none of its pages does. -/
theorem walk_ne_panicked {batch : Nat} (calm : PagesReturn σ (max batch 1))
    (cursor removed pages : Nat) {connection : Connection σ}
    (size : connection.cache.configuration.scanBatch = batch) :
    (walk pattern cursor removed pages connection).1 ≠ .panicked := by
  induction pages generalizing cursor removed connection with
  | zero => exact nofun
  | succ pages ih =>
    rw [walk_page, size]
    cases answered : (BackingStore.answer (.scan cursor pattern (max batch 1))
        connection.now connection.store).1 with
    | error error =>
      rw [ask_error answered]
      exact nofun
    | ok scanned =>
      rw [ask_ok answered]
      cases scanned with
      | panicked => exact absurd answered (calm _ _ _ _)
      | running => exact nofun
      | returned page =>
        dsimp only
        split
        · exact nofun
        · split
          · exact nofun
          · refine ih _ _ (Eq.trans ?_ size)
            exact congrArg Configuration.scanBatch (quiet_deletePage page.keys _).configuration

/-- An invalidation does not panic if none of its pages does. -/
theorem invalidate_ne_panicked [Libraries] (connection : Connection σ)
    (calm : PagesReturn σ (max connection.cache.configuration.scanBatch 1)) :
    (invalidate pattern connection).1 ≠ .panicked := by
  have walked : (walkStore pattern connection).1 ≠ .panicked := by
    rw [walkStore, bind_apply, get_apply, ite_apply]
    split
    · exact walk_ne_panicked calm _ _ _ rfl
    · exact nofun
  rw [invalidate, bind_apply]
  cases ending : (walkStore pattern connection).1 with
  | panicked => exact absurd ending walked
  | running => exact nofun
  | returned walk =>
    dsimp only
    rw [ite_apply]
    split
    · exact nofun
    · exact nofun

end

variable [Libraries]

/-- Deleting the keys of a page deletes them, if there are any. -/
theorem deletePage_eq (keys : List String) (connection : Connection MemoryStore) :
    deletePage keys connection =
      (some (connection.store.delete keys connection.now).1,
        { connection with store := (connection.store.delete keys connection.now).2 }) := by
  cases keys with
  | nil => rfl
  | cons key rest => rfl

/-- The loop of a walk shows a key on every page but the last one, so that it comes to an end if
there is room for a page. It deletes the keys that lie ahead, are live and match, counts them, and
changes nothing else. -/
theorem walks_ahead {pattern : String} {compiled : Pattern}
    (compiles : Pattern.compile? pattern = some compiled) (bound : Nat)
    {connection : Connection MemoryStore} (coherent : connection.store.Coherent)
    (few : connection.cache.configuration.scanBatch ≤ Recency.mostKeys) {cursor : Nat}
    (removed : Nat)
    (enough : (connection.store.recency.ahead cursor).length < bound) :
    ∃ (pages : Nat) (left : MemoryStore), pages ≤ bound ∧
      Walks pattern pages cursor removed connection
        (.returned ⟨removed + (connection.store.matching connection.now compiled
            (connection.store.recency.ahead cursor)).length, true⟩,
          { connection with store := left }) ∧
      left.Coherent ∧ left.evictions = connection.store.evictions ∧
      ∀ key, left.find? key connection.now =
        if key ∈ connection.store.matching connection.now compiled
            (connection.store.recency.ahead cursor) then none
        else connection.store.find? key connection.now := by
  induction bound generalizing connection cursor removed with
  | zero => exact absurd enough (Nat.not_lt_zero _)
  | succ bound ih =>
    generalize size : max (max connection.cache.configuration.scanBatch 1) 1 = count
    have positive : 0 < count := by omega
    generalize shape : connection.store.recency.ahead cursor = entries at enough ⊢
    have distinct : (entries.map Prod.snd).Nodup := by
      rw [← shape]
      exact (List.filter_sublist.map Prod.snd).nodup coherent.recency.nodup_keys
    rw [← List.take_append_drop count entries, List.map_append, List.nodup_append] at distinct
    obtain ⟨distinctShown, -, apart⟩ := distinct
    generalize page : connection.store.matching connection.now compiled (entries.take count) = keys
    have nodup : keys.Nodup := by
      rw [← page]
      exact List.filter_sublist.nodup distinctShown
    have shown : ∀ key ∈ keys, key ∈ (entries.take count).map Prod.snd ∧
        (connection.store.find? key connection.now).isSome := by
      intro key held
      rw [← page, mem_matching] at held
      exact ⟨held.1, held.2.1⟩
    have outside : ∀ entry ∈ entries.drop count, entry.2 ∉ keys := fun entry inside held =>
      apart entry.2 (shown entry.2 held).1 entry.2 (List.mem_map_of_mem inside) rfl
    obtain ⟨counted, order⟩ := coherent.delete_live nodup fun key held => (shown key held).2
    have kept := (coherent.mirrored_delete keys connection.now).coherent
    have evictions := connection.store.evictions_delete keys connection.now
    have found := fun key => connection.store.find?_delete keys key connection.now
    obtain ⟨-, next⟩ := Recency.pageOf_spec coherent.recency.ascending cursor positive
    rw [shape] at next
    -- One page is shown and deleted.
    have asked : ask (.scan cursor pattern (max connection.cache.configuration.scanBatch 1))
        connection = (some (.returned
          ⟨keys, (connection.store.recency.pageOf cursor count).next⟩), connection) := by
      have scanned := MemoryStore.scan_eq compiles (Recency.max_one_le_mostKeys.2 few)
        connection.store cursor connection.now
      rw [size, shape, page] at scanned
      exact ask_onMemory embeds_self rfl (.scan ..) scanned
    have deleted := deletePage_eq keys connection
    rw [counted] at deleted
    rcases next with ⟨last, nothing⟩ | ⟨more, some, rest⟩
    · have all : entries.take count = entries := by
        have whole := List.take_append_drop count entries
        rwa [nothing, List.append_nil] at whole
      rw [all] at page
      rw [page]
      exact ⟨1, _, Nat.le_add_left 1 bound, .last asked deleted last, kept, evictions, found⟩
    · -- What lies ahead of the next cursor is not touched by the deletion.
      have untouched : (connection.store.delete keys connection.now).2.recency.ahead
          (connection.store.recency.pageOf cursor count).next = entries.drop count := by
        rw [Recency.ahead, order, List.filter_comm]
        change (connection.store.recency.ahead _).filter _ = _
        rw [rest]
        exact List.filter_eq_self.2 fun entry inside => decide_eq_true (outside entry inside)
      have shorter : (entries.drop count).length < bound := by
        have positive' := List.length_pos_of_ne_nil some
        rw [List.length_drop] at positive' ⊢
        omega
      rw [← untouched] at shorter
      obtain ⟨pages, left, within, walked, coherent', evictions', found'⟩ :=
        @ih { connection with store := (connection.store.delete keys connection.now).2 }
          kept few _ (removed + keys.length) shorter
      dsimp only at walked evictions' found'
      rw [untouched, MemoryStore.matching_delete outside] at walked found'
      rw [← List.take_append_drop count entries, matching_append, page, List.length_append]
      refine ⟨pages + 1, left, Nat.succ_le_succ within, ?_, coherent',
        evictions'.trans evictions, fun key => ?_⟩
      · rw [← Nat.add_assoc]
        exact .next asked deleted more walked
      · rw [found', found key]
        by_cases here : key ∈ keys
        · simp [here]
        · simp [here]

/-- From the beginning the loop comes to an end on as many pages as there are keys and one more at
most, if there is room for a page. It deletes the keys that are live and match, counts them, and
changes nothing else. -/
theorem walks_order {pattern : String} {compiled : Pattern}
    (compiles : Pattern.compile? pattern = some compiled) {connection : Connection MemoryStore}
    (coherent : connection.store.Coherent)
    (few : connection.cache.configuration.scanBatch ≤ Recency.mostKeys) :
    ∃ (pages : Nat) (left : MemoryStore), pages ≤ BackingStore.pageBound connection.store ∧
      Walks pattern pages 0 0 connection
        (.returned ⟨(connection.store.matching connection.now compiled
            connection.store.recency.order).length, true⟩, { connection with store := left }) ∧
      left.Coherent ∧ left.evictions = connection.store.evictions ∧
      ∀ key, left.find? key connection.now =
        if key ∈ connection.store.matching connection.now compiled
            connection.store.recency.order then none
        else connection.store.find? key connection.now := by
  have enough : (connection.store.recency.ahead 0).length <
      BackingStore.pageBound connection.store := by
    rw [Recency.ahead_zero]
    exact Nat.lt_succ_self _
  have walks := walks_ahead compiles _ coherent few 0 enough
  rw [Recency.ahead_zero, Nat.zero_add] at walks
  exact walks

/-- The invalidation of a pattern is a walk over the store and then a deletion from the fallback
store. -/
theorem invalidate_walked {pattern : String} {connection left : Connection MemoryStore}
    {removed : Nat}
    (walked : walk pattern 0 0 (BackingStore.pageBound connection.store) connection =
      (.returned ⟨removed, true⟩, left)) :
    invalidate pattern connection =
      (.returned (removed + (deleteMatching pattern left.now left.cache.fallback).1),
        { left with cache := { left.cache with
          fallback := (deleteMatching pattern left.now left.cache.fallback).2 } }) := by
  have walks : (BackingStore.capabilities connection.store).deletesByWalk = true := rfl
  simp only [invalidate, walkStore, bind_apply, get_apply, walks, ↓reduceIte, walked,
    inProcess_apply, pure_apply]

/-- Nothing in an empty fallback store matches. -/
theorem deleteMatching_empty (pattern : String) (now : Millis) :
    deleteMatching pattern now .empty = (0, .empty) := by
  rw [deleteMatching]
  cases Pattern.compile? pattern <;> rfl

/-- Invalidating a pattern that can be compiled deletes the live keys that match it, counts them,
and changes nothing else, if there is room for a page. -/
theorem invalidate_compiled {pattern : String} {compiled : Pattern}
    (compiles : Pattern.compile? pattern = some compiled) {connection : Connection MemoryStore}
    (coherent : connection.store.Coherent)
    (few : connection.cache.configuration.scanBatch ≤ Recency.mostKeys)
    (bare : connection.cache.fallback = .empty) :
    ∃ left : MemoryStore,
      invalidate pattern connection =
        (.returned (connection.store.matching connection.now compiled
          connection.store.recency.order).length, { connection with store := left }) ∧
      left.Coherent ∧ left.evictions = connection.store.evictions ∧
      ∀ key, left.find? key connection.now =
        if key ∈ connection.store.matching connection.now compiled
            connection.store.recency.order then none
        else connection.store.find? key connection.now := by
  obtain ⟨pages, left, within, walks, rest⟩ := walks_order compiles coherent few
  refine ⟨left, ?_, rest⟩
  rw [invalidate_walked (walks.walk_eq within), bare, deleteMatching_empty, ← bare]
  rfl

/-- Invalidating a pattern that cannot be compiled is an error of the store, and deletes nothing. -/
theorem invalidate_uncompiled {pattern : String} (fails : Pattern.compile? pattern = none)
    (connection : Connection MemoryStore) :
    invalidate pattern connection =
      (.returned 0, { connection with cache := connection.cache.record .storeError }) := by
  have walks : (BackingStore.capabilities connection.store).deletesByWalk = true := rfl
  have pages : BackingStore.pageBound connection.store =
      connection.store.recency.order.length + 1 := rfl
  have refused : ∀ count, (connection.store.answer (.scan 0 pattern count) connection.now).1 =
      .error (.backend .badPattern) := by
    intro count
    simp only [MemoryStore.answer, MemoryStore.scan, fails]
    rfl
  have asked := fun count =>
    ask_refused_onMemory embeds_self rfl (.scan 0 pattern count) (refused count)
  simp only [invalidate, walkStore, bind_apply, get_apply, walks, ↓reduceIte, pages, walk, asked,
    pure_apply, Bool.false_eq_true]
  rfl

/-- Invalidating a pattern that can be compiled panics if there is no room for a page, and deletes
nothing. -/
theorem invalidate_panicked {pattern : String} {compiled : Pattern}
    (compiles : Pattern.compile? pattern = some compiled) {connection : Connection MemoryStore}
    (many : Recency.mostKeys < connection.cache.configuration.scanBatch) :
    invalidate pattern connection = (.panicked, connection) := by
  have walks : (BackingStore.capabilities connection.store).deletesByWalk = true := rfl
  have large : Recency.mostKeys < max connection.cache.configuration.scanBatch 1 :=
    Nat.lt_of_lt_of_le many (Nat.le_max_left _ _)
  have asked : ask (.scan 0 pattern (max connection.cache.configuration.scanBatch 1)) connection =
      (some .panicked, connection) :=
    ask_onMemory embeds_self rfl (.scan ..)
      (MemoryStore.scan_eq_panicked compiles large connection.store 0 connection.now)
  have walked : walk pattern 0 0 (BackingStore.pageBound connection.store) connection =
      (.panicked, connection) :=
    (Walks.panicked asked).walk_eq (Nat.le_add_left 1 _)
  simp only [invalidate, walkStore, bind_apply, get_apply, walks, ↓reduceIte, walked, pure_apply]

end Connection

end FailOpenCache
