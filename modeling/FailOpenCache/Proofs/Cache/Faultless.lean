import FailOpenCache.Proofs.Cache.OnMemory
import FailOpenCache.Proofs.Store.Fallback
import FailOpenCache.Store.Observed
import Mathlib.Logic.Function.Basic

/-!
# Stores that serve values without faults

A store serves values without faults when it has a view of what is live under each key, such that
a read answers from the view and a write changes it under its own key. Keys may give way to others,
which is counted, and what is said of the view holds as long as none does. A cache over such a
store keeps its values there, or in the process when the store does not declare them, and reads
and writes change what is live in the same way in both cases.
-/

namespace FailOpenCache

/-- What is live under each key. -/
abbrev Shelf := String → Option Entry

/-- A shelf with an entry under a key, unless the entry has expired at once. -/
def Shelf.put (key : String) (entry : Entry) (now : Millis) (shelf : Shelf) : Shelf :=
  Function.update shelf key ((some entry).filter fun entry => !entry.isExpired now)

/-- How the values in stores of a kind are seen. -/
structure StoreView (σ : Type) where
  /-- The stores that are seen. -/
  Covers : σ → Prop
  /-- The values that are live in a store at an instant. -/
  live : σ → Millis → Shelf
  /-- How many keys have given way to others. -/
  evictions : σ → Nat

namespace StoreView

variable {σ : Type} [BackingStore σ]

/-- What an answered request leaves: the declarations stay, evictions are counted, and without one
the view changes as it is said to. -/
structure Leaves (view : StoreView σ) (now : Millis) (change : Shelf → Shelf) (before after : σ) :
    Prop where
  /-- The store can still be seen. -/
  covers : view.Covers after
  /-- The declarations are the same. -/
  capabilities : BackingStore.capabilities after = BackingStore.capabilities before
  /-- Evictions are counted. -/
  evictions : view.evictions before ≤ view.evictions after
  /-- Without an eviction the view changes as it is said to. -/
  live : view.evictions after = view.evictions before →
    view.live after now = change (view.live before now)

/-- The stores that are seen serve values without faults as far as they declare them: a read answers
the payload that is live, a write puts its entry under its key, and adding members to sets touches
no value. -/
structure Faultless (view : StoreView σ) : Prop where
  /-- A read answers the payload that is live; where no value is, it may be refused. -/
  reply : ∀ {store : σ}, view.Covers store →
    (BackingStore.capabilities store).keyValue = true → ∀ (key : String) (now : Millis),
    Option.join (BackingStore.answer (.get key) now store).1.toOption =
      (view.live store now key).map Entry.payload
  /-- A read leaves the view as it is, and evicts nothing. -/
  get : ∀ {store : σ}, view.Covers store →
    (BackingStore.capabilities store).keyValue = true → ∀ (key : String) (now : Millis),
    view.Leaves now id store (BackingStore.answer (.get key) now store).2 ∧
      view.evictions (BackingStore.answer (.get key) now store).2 = view.evictions store
  /-- A write puts its entry under its key. -/
  set : ∀ {store : σ}, view.Covers store →
    (BackingStore.capabilities store).keyValue = true →
    ∀ (key payload : String) (lifetime : Seconds) (now : Millis),
    view.Leaves now (.put key (.write payload lifetime now) now) store
      (BackingStore.answer (.set key payload lifetime) now store).2
  /-- Adding a member leaves the view as it is. -/
  addMember : ∀ {store : σ}, view.Covers store →
    (BackingStore.capabilities store).keepsTags = true →
    ∀ (keys : List String) (member : String) (lifetime : Seconds) (now : Millis),
    view.Leaves now id store (BackingStore.answer (.addMember keys member lifetime) now store).2

/-- The store in memory as it is seen. -/
def ofMemory : StoreView MemoryStore where
  Covers _ := True
  live store now key := store.value? key now
  evictions := MemoryStore.evictions

/-- A request to the store in memory leaves the view as a use of a key does. -/
theorem leaves_use [Libraries] (store : MemoryStore) (key : String) (now : Millis) :
    ofMemory.Leaves now id store (store.use key now).2 where
  covers := trivial
  capabilities := rfl
  evictions := Nat.le_of_eq (store.evictions_use key now).symm
  live _ := by
    funext other
    simp only [ofMemory, MemoryStore.value?, MemoryStore.find?_use, id_eq]

/-- The store in memory serves values without faults. -/
theorem faultless_ofMemory [Libraries] : ofMemory.Faultless where
  reply {store} _ _ key now := by
    have answered : (BackingStore.answer (.get key) now store).1 = _ := store.get_fst key now
    rw [answered]
    simp only [ofMemory, MemoryStore.value?]
    rcases store.find? key now with _ | slot
    · rfl
    · cases slot <;> rfl
  get {store} _ _ key now := by
    have left : (BackingStore.answer (.get key) now store).2 = _ := store.get_snd key now
    rw [left]
    exact ⟨leaves_use store key now, store.evictions_use key now⟩
  set {store} _ _ key payload lifetime now := by
    have counted := store.evictions_le_insert key (.value (.write payload lifetime now)) now
    refine ⟨trivial, rfl, counted, fun kept => ?_⟩
    funext other
    have found : (store.set key payload lifetime now).find? other now = _ :=
      MemoryStore.find?_insert kept other
    simp only [ofMemory, MemoryStore.value?, Shelf.put, Function.update_apply]
    refine (congrArg (Option.bind · Slot.entry?) found).trans ?_
    split
    · exact MemoryStore.value_live ..
    · rfl
  addMember {store} _ _ keys member lifetime now := by
    refine ⟨trivial, rfl, MemoryStore.evictions_le_addMember .., fun kept => ?_⟩
    funext other
    exact (MemoryStore.addMember_spec kept other).1

/-- A store that declares nothing has no value to be seen. -/
def ofBare : StoreView BareStore where
  Covers store := store.declared = .none
  live _ _ _ := none
  evictions _ := 0

/-- A store that declares nothing has no value to serve. -/
theorem faultless_ofBare : ofBare.Faultless := by
  have undeclared : ∀ {store : BareStore}, ofBare.Covers store →
      (BackingStore.capabilities store).keyValue = false ∧
        (BackingStore.capabilities store).keepsTags = false := by
    intro store covered
    have none : BackingStore.capabilities store = .none := covered
    rw [none]
    exact ⟨rfl, rfl⟩
  refine ⟨fun covered declared => ?_, fun covered declared => ?_, fun covered declared => ?_,
    fun covered declared => ?_⟩
  · exact absurd ((undeclared covered).1.symm.trans declared) Bool.false_ne_true
  · exact absurd ((undeclared covered).1.symm.trans declared) Bool.false_ne_true
  · exact absurd ((undeclared covered).1.symm.trans declared) Bool.false_ne_true
  · exact absurd ((undeclared covered).2.symm.trans declared) Bool.false_ne_true

/-- A store behind an observer that makes no request fail, and that declares no more than the store
does. -/
def behind (view : StoreView σ) : StoreView (ObservedStore σ) where
  Covers observed := view.Covers observed.store ∧ observed.plans = [] ∧
    (observed.declared.keyValue = true →
      (BackingStore.capabilities observed.store).keyValue = true) ∧
    (observed.declared.keepsTags = true →
      (BackingStore.capabilities observed.store).keepsTags = true)
  live observed := view.live observed.store
  evictions observed := view.evictions observed.store

/-- An observer without plans lets a request reach the store. -/
theorem answer_behind {observed : ObservedStore σ} (unplanned : observed.plans = [])
    (request : Request) (now : Millis) :
    (BackingStore.answer request now observed).1 =
        (BackingStore.answer request now observed.store).1.map
          (ObservedStore.shorten observed.longestAnswer request) ∧
      (BackingStore.answer request now observed).2.store =
        (BackingStore.answer request now observed.store).2 ∧
      (BackingStore.answer request now observed).2.plans = [] ∧
      (BackingStore.answer request now observed).2.declared = observed.declared := by
  have spared : observed.strikes request.operation = false := by
    rw [ObservedStore.strikes, unplanned]
    rfl
  have answered : BackingStore.answer request now observed =
      ObservedStore.answer request now observed := rfl
  rw [answered, ObservedStore.answer, spared]
  exact ⟨rfl, rfl, unplanned, rfl⟩

/-- What a request leaves of the store, it leaves of the store behind an observer. -/
theorem Leaves.behind {view : StoreView σ} {observed : ObservedStore σ}
    (covered : view.behind.Covers observed) {request : Request} {now : Millis}
    {change : Shelf → Shelf}
    (leaves : view.Leaves now change observed.store
      (BackingStore.answer request now observed.store).2) :
    view.behind.Leaves now change observed (BackingStore.answer request now observed).2 := by
  obtain ⟨-, unplanned, keyValue, keepsTags⟩ := covered
  obtain ⟨-, store, plans, declared⟩ := answer_behind unplanned request now
  refine ⟨⟨store ▸ leaves.covers, plans, ?_, ?_⟩, declared, ?_, fun kept => ?_⟩
  · rw [declared, store, leaves.capabilities]
    exact keyValue
  · rw [declared, store, leaves.capabilities]
    exact keepsTags
  · simp only [StoreView.behind]
    rw [store]
    exact leaves.evictions
  · simp only [StoreView.behind] at kept ⊢
    rw [store] at kept ⊢
    exact leaves.live kept

/-- A store behind an observer without plans serves values without faults if the store does. -/
theorem Faultless.behind {view : StoreView σ} (faultless : view.Faultless) :
    view.behind.Faultless where
  reply {observed} covered declared key now := by
    rw [(answer_behind covered.2.1 (.get key) now).1]
    refine Eq.trans ?_ (faultless.reply covered.1 (covered.2.2.1 declared) key now)
    cases (BackingStore.answer (.get key) now observed.store).1 <;> rfl
  get {observed} covered declared key now := by
    obtain ⟨leaves, kept⟩ := faultless.get covered.1 (covered.2.2.1 declared) key now
    refine ⟨leaves.behind covered, ?_⟩
    simp only [StoreView.behind]
    rw [(answer_behind covered.2.1 (.get key) now).2.1]
    exact kept
  set covered declared key payload lifetime now :=
    (faultless.set covered.1 (covered.2.2.1 declared) key payload lifetime now).behind covered
  addMember covered declared keys member lifetime now :=
    (faultless.addMember covered.1 (covered.2.2.2 declared) keys member lifetime now).behind
      covered

end StoreView

namespace Connection

variable {σ : Type} [BackingStore σ] {view : StoreView σ} {connection : Connection σ}

/-- What is live under each key: in the store if it declares values, and in the process if not. -/
def shelf (connection : Connection σ) (view : StoreView σ) : Shelf :=
  if (BackingStore.capabilities connection.store).keyValue then
    view.live connection.store connection.now
  else fun key => connection.cache.fallback.value? key connection.now

/-- The settings, the rules and the clock stay, the store can still be seen, and evictions are
counted. -/
structure Stays (view : StoreView σ) (before after : Connection σ) : Prop where
  /-- The settings are the same. -/
  configuration : after.cache.configuration = before.cache.configuration
  /-- The rules are the same. -/
  rules : after.cache.rules = before.cache.rules
  /-- The clock is the same. -/
  now : after.now = before.now
  /-- The store can still be seen. -/
  covers : view.Covers after.store
  /-- Evictions are counted. -/
  evictions : view.evictions before.store ≤ view.evictions after.store

omit [BackingStore σ] in
/-- Doing nothing lets everything stay. -/
theorem Stays.refl (covered : view.Covers connection.store) : Stays view connection connection :=
  ⟨rfl, rfl, rfl, covered, Nat.le_refl _⟩

omit [BackingStore σ] in
/-- What stays in two steps stays in both together. -/
theorem Stays.trans {first second third : Connection σ} (early : Stays view first second)
    (late : Stays view second third) : Stays view first third where
  configuration := late.configuration.trans early.configuration
  rules := late.rules.trans early.rules
  now := late.now.trans early.now
  covers := late.covers
  evictions := Nat.le_trans early.evictions late.evictions

omit [BackingStore σ] in
/-- Two steps without an eviction are two steps without one each. -/
theorem Stays.kept {first second third : Connection σ} (early : Stays view first second)
    (late : Stays view second third)
    (kept : view.evictions third.store = view.evictions first.store) :
    view.evictions second.store = view.evictions first.store ∧
      view.evictions third.store = view.evictions second.store := by
  have first := Nat.le_antisymm (kept ▸ late.evictions) early.evictions
  exact ⟨first, kept.trans first.symm⟩

omit [BackingStore σ] in
/-- A write leaves the same entry as long as everything stays. -/
theorem Stays.entryOf [Libraries] {before after : Connection σ} (stays : Stays view before after) :
    after.entryOf = before.entryOf := by
  funext key document stated
  rw [Connection.entryOf, Connection.entryOf, stays.configuration, stays.rules, stays.now]

/-- What an operation leaves: without an eviction what is live changes as it is said to. -/
structure Leaves (view : StoreView σ) (change : Shelf → Shelf) (before after : Connection σ) :
    Prop extends Stays view before after where
  /-- Without an eviction what is live changes as it is said to. -/
  shelf : view.evictions after.store = view.evictions before.store →
    after.shelf view = change (before.shelf view)

/-- Two steps leave what the second one makes of what the first one leaves. -/
theorem Leaves.trans {first second third : Connection σ} {change change' : Shelf → Shelf}
    (early : Leaves view change first second) (late : Leaves view change' second third) :
    Leaves view (change' ∘ change) first third where
  toStays := early.toStays.trans late.toStays
  shelf kept := by
    obtain ⟨keptEarly, keptLate⟩ := early.toStays.kept late.toStays kept
    rw [late.shelf keptLate, early.shelf keptEarly, Function.comp_apply]

/-- What an operation leaves does not depend on the guards and the counters. -/
theorem Leaves.besides {before after : Connection σ} {change : Shelf → Shelf}
    (leaves : Leaves view change before after) (guards : Guards) (counters : Counters) :
    Leaves view change before
      { after with cache := { after.cache with guards := guards, counters := counters } } :=
  ⟨⟨leaves.configuration, leaves.rules, leaves.now, leaves.covers, leaves.evictions⟩, leaves.shelf⟩

/-- What a request leaves of a store that declares values, an operation leaves of the
connection. -/
theorem leaves_of_store {after : Connection σ} {change : Shelf → Shelf}
    (alike : Alike connection after)
    (declared : (BackingStore.capabilities connection.store).keyValue = true)
    (leaves : view.Leaves connection.now change connection.store after.store) :
    Leaves view change connection after where
  configuration := alike.configuration
  rules := alike.rules
  now := alike.now
  covers := leaves.covers
  evictions := leaves.evictions
  shelf kept := by
    simp only [shelf, leaves.capabilities, declared, ↓reduceIte, alike.now]
    exact leaves.live kept

/-- What is done in the process is left of the connection, if the store does not declare values. -/
theorem leaves_of_fallback {after : Connection σ} {change : Shelf → Shelf}
    (covered : view.Covers connection.store) (alike : Alike connection after)
    (declared : (BackingStore.capabilities connection.store).keyValue = false)
    (store : after.store = connection.store)
    (fallback : (fun key => after.cache.fallback.value? key connection.now) =
      change fun key => connection.cache.fallback.value? key connection.now) :
    Leaves view change connection after where
  configuration := alike.configuration
  rules := alike.rules
  now := alike.now
  covers := store ▸ covered
  evictions := Nat.le_of_eq (congrArg view.evictions store.symm)
  shelf _ := by
    simp only [shelf, store, declared, Bool.false_eq_true, ↓reduceIte, alike.now]
    exact fallback

/-- A read answers the document that is live, leaves everything as it is, and evicts nothing. -/
theorem get_leaves (faultless : view.Faultless) (covered : view.Covers connection.store)
    (key : String) :
    Leaves view id connection (get key connection).2 ∧
      view.evictions (get key connection).2.store = view.evictions connection.store ∧
      (get key connection).1 = (connection.shelf view key).bind Entry.document? := by
  have alike := quiet_getKey key connection
  by_cases declared : (BackingStore.capabilities connection.store).keyValue = true
  · have reply := faultless.reply covered declared key connection.now
    obtain ⟨left, kept⟩ := faultless.get covered declared key connection.now
    have shape : (get key connection).2.store =
          (BackingStore.answer (.get key) connection.now connection.store).2 ∧
        (get key connection).1 =
          (Option.join (BackingStore.answer (.get key) connection.now
            connection.store).1.toOption).bind fun payload =>
              (Payload.decode payload).toOption := by
      simp only [get, readPayload, bind_apply, declares_apply, Capabilities.declares, declared,
        ↓reduceIte]
      cases answered : (BackingStore.answer (.get key) connection.now connection.store).1 with
      | ok found =>
        rw [ask_ok answered]
        obtain ⟨document, store, -⟩ := settle_spec found { connection with
          store := (BackingStore.answer (.get key) connection.now connection.store).2 }
        exact ⟨store, document⟩
      | error fault =>
        rw [ask_error answered]
        exact ⟨rfl, rfl⟩
    refine ⟨leaves_of_store alike declared (shape.1 ▸ left), shape.1 ▸ kept, ?_⟩
    rw [shape.2, reply, shelf, if_pos declared, Option.bind_map]
    rfl
  · rw [Bool.not_eq_true] at declared
    have shape : (get key connection).2.store = connection.store ∧
        (get key connection).2.cache.fallback =
          (connection.cache.fallback.get key connection.now).2 ∧
        (get key connection).1 =
          (connection.cache.fallback.get key connection.now).1.bind fun payload =>
            (Payload.decode payload).toOption := by
      simp only [get, readPayload, bind_apply, declares_apply, Capabilities.declares, declared,
        Bool.false_eq_true, ↓reduceIte, serve_apply, pure_apply]
      obtain ⟨document, store, fallback⟩ := settle_spec
        (connection.cache.fallback.get key connection.now).1
        { connection with
          cache := { connection.cache.record .fallback with
            fallback := (connection.cache.fallback.get key connection.now).2 } }
      exact ⟨store, fallback, document⟩
    refine ⟨leaves_of_fallback covered alike declared shape.1 ?_,
      congrArg view.evictions shape.1, ?_⟩
    · funext other
      rw [shape.2.1]
      exact (FallbackStore.get_snd ..).1
    · rw [shape.2.2, FallbackStore.get_fst, shelf, declared, Option.bind_map]
      rfl

/-- A write puts the entry of its document under its key. -/
theorem set_leaves [Libraries] (faultless : view.Faultless) (covered : view.Covers connection.store)
    (key : String) (document : Document) (stated : Option Seconds) :
    Leaves view (.put key (connection.entryOf key document stated) connection.now) connection
      (set key document stated connection).2 := by
  have alike := quiet_set key document stated connection
  have written : Storable.write? document = some document := rfl
  by_cases declared : (BackingStore.capabilities connection.store).keyValue = true
  · have shape : (set key document stated connection).2.store =
        (BackingStore.answer (.set key
          (Payload.encode connection.cache.configuration.compressionThreshold document)
          (connection.cache.rules.resolve key stated)) connection.now connection.store).2 := by
      simp only [set, payloadOf, bind_apply, get_apply, pure_apply, written, Option.map_some,
        writePayload, lifetimeOf_apply, declares_apply, Capabilities.declares, declared,
        ↓reduceIte, discard_apply, ask_store]
    exact leaves_of_store alike declared (shape ▸ faultless.set covered declared _ _ _ _)
  · rw [Bool.not_eq_true] at declared
    have shape : (set key document stated connection).2.store = connection.store ∧
        (set key document stated connection).2.cache.fallback =
          connection.cache.fallback.set key
            (Payload.encode connection.cache.configuration.compressionThreshold document)
            (connection.cache.rules.resolve key stated) connection.now := by
      simp only [set, payloadOf, bind_apply, get_apply, pure_apply, written, Option.map_some,
        writePayload, lifetimeOf_apply, declares_apply, Capabilities.declares, declared,
        Bool.false_eq_true, ↓reduceIte, serve_apply, and_self]
    refine leaves_of_fallback covered alike declared shape.1 ?_
    funext other
    rw [shape.2, FallbackStore.value?_set, Shelf.put, Function.update_apply]
    rfl

/-- Recording tags leaves what is live as it is. -/
theorem recordTags_leaves (faultless : view.Faultless) (covered : view.Covers connection.store)
    (key : String) (tags : List String) (stated : Option Seconds) :
    Leaves view id connection (recordTags key tags stated connection).2 := by
  have alike := quiet_recordTags key tags stated connection
  by_cases tracked : (BackingStore.capabilities connection.store).keepsTags = true
  · have declared : (BackingStore.capabilities connection.store).keyValue = true := by
      rw [Capabilities.keepsTags, Bool.and_eq_true] at tracked
      exact tracked.2
    have shape : (recordTags key tags stated connection).2.store =
        (BackingStore.answer (.addMember (tags.map Key.ofTag) key (stated.getD 0))
          connection.now connection.store).2 := by
      simp only [recordTags, tracksTags, bind_apply, get_apply, pure_apply, tracked, ↓reduceIte,
        discard_apply, ask_store]
    exact leaves_of_store alike declared (shape ▸ faultless.addMember covered tracked _ _ _ _)
  · rw [Bool.not_eq_true] at tracked
    have shape : (recordTags key tags stated connection).2.store = connection.store ∧
        (recordTags key tags stated connection).2.cache.fallback =
          (tags.map Key.ofTag).foldl (fun recorded record =>
            recorded.addMember record key (stated.getD 0) connection.now)
              connection.cache.fallback := by
      simp only [recordTags, tracksTags, bind_apply, get_apply, pure_apply, tracked,
        Bool.false_eq_true, ↓reduceIte, serve_apply, and_self]
    refine ⟨⟨alike.configuration, alike.rules, alike.now, shape.1 ▸ covered,
      Nat.le_of_eq (congrArg view.evictions shape.1.symm)⟩, fun _ => ?_⟩
    simp only [shelf, shape.1, shape.2, alike.now, id_eq]
    split
    · rfl
    · funext other
      exact (FallbackStore.foldl_addMember ..).1

end Connection

end FailOpenCache
