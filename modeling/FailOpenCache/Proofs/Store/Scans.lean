import FailOpenCache.Proofs.Store.Onward
import FailOpenCache.Proofs.Store.Pages
import Mathlib.Data.List.Nodup

/-!
# Walks that others interrupt

A walk over the keys of the store in memory asks for one page after the other, from the beginning
until the cursor is zero, and between two pages the store may be asked for anything else. The cursor
is a stamp, and whatever is requested, no key comes to stand behind it: a key that is live whenever
a page is shown is on one of the pages, however often it is used or written meanwhile. If nothing
comes between the pages, the walk comes to an end by itself and shows no key twice. All this is said
of pages for which room can be made; asking for a larger one panics.
-/

namespace FailOpenCache

namespace MemoryStore

/-- A page of a walk, with the store that shows it and the instant. -/
structure TakenPage where
  /-- The store that shows the page. -/
  store : MemoryStore
  /-- When the page is shown. -/
  now : Millis
  /-- The page. -/
  page : Page

section

variable [Libraries]

/-- The pages of a walk from a cursor on until the cursor is zero, each at its instant. Between two
pages the store answers requests, of those that are allowed. -/
inductive PagedWalk (pattern : String) (count : Nat) (allowed : Request → Prop) :
    (clock : Nat → Millis) → MemoryStore → (cursor : Nat) → List TakenPage → Prop where
  /-- The page is the last one. -/
  | last {clock : Nat → Millis} {store : MemoryStore} {cursor : Nat} {page : Page}
    (scanned : store.scan cursor pattern count (clock 0) = .ok (.returned page))
    (ends : page.next = 0) :
    PagedWalk pattern count allowed clock store cursor [⟨store, clock 0, page⟩]
  /-- The page leads to another one. -/
  | next {clock : Nat → Millis} {store : MemoryStore} {cursor : Nat} {page : Page}
    {calls : List (Millis × Request)} {later : List TakenPage}
    (scanned : store.scan cursor pattern count (clock 0) = .ok (.returned page))
    (more : page.next ≠ 0)
    (fits : ∀ call ∈ calls, allowed call.2)
    (onward : PagedWalk pattern count allowed (fun turn => clock (turn + 1)) (store.after calls)
      page.next later) :
    PagedWalk pattern count allowed clock store cursor (⟨store, clock 0, page⟩ :: later)

/-- A walk that nothing comes between. -/
def Undisturbed : Request → Prop := fun _ => False

/-- The keys that pages show. -/
def shownKeys (pages : List TakenPage) : List String :=
  pages.flatMap fun taken => taken.page.keys

variable {store : MemoryStore} {pattern : String} {compiled : Pattern} {count cursor : Nat}
  {clock : Nat → Millis} {allowed : Request → Prop} {pages : List TakenPage} {key : String}

omit [Libraries] in
/-- A key that is live stands in the order of use. -/
theorem Coherent.entry_of_live (coherent : store.Coherent) {now : Millis}
    (live : (store.find? key now).isSome) : ∃ stamp, (stamp, key) ∈ store.recency.order := by
  by_cases held : key ∈ store.recency.keys
  · obtain ⟨entry, inside, rfl⟩ := List.mem_map.1 held
    exact ⟨entry.1, inside⟩
  · rw [coherent.find?_eq_none held] at live
    exact absurd live Bool.false_ne_true

/-- A page that is shown is one for which room can be made. -/
theorem few_of_scan (compiles : Pattern.compile? pattern = some compiled) {now : Millis}
    {page : Page} (scanned : store.scan cursor pattern count now = .ok (.returned page)) :
    count ≤ Recency.mostKeys := by
  by_contra many
  rw [scan_eq_panicked compiles (Nat.not_le.1 many)] at scanned
  cases scanned

/-- The page of a scan: of the first keys ahead of the cursor those that are live and match. The
next cursor is zero if nothing is left ahead, and otherwise what is left is ahead of it. -/
theorem Coherent.scan_spec (coherent : store.Coherent)
    (compiles : Pattern.compile? pattern = some compiled) {now : Millis} {page : Page}
    (scanned : store.scan cursor pattern count now = .ok (.returned page)) :
    page.keys = store.matching now compiled ((store.recency.ahead cursor).take (max count 1)) ∧
      (page.next = 0 ∧ (store.recency.ahead cursor).drop (max count 1) = [] ∨
        page.next ≠ 0 ∧ (store.recency.ahead cursor).drop (max count 1) ≠ [] ∧
          store.recency.ahead page.next = (store.recency.ahead cursor).drop (max count 1)) := by
  rw [scan_eq compiles (few_of_scan compiles scanned)] at scanned
  obtain rfl := Ending.returned.inj (Except.ok.inj scanned)
  have positive : 0 < max count 1 := by omega
  obtain ⟨-, next⟩ := Recency.pageOf_spec coherent.recency.ascending cursor positive
  exact ⟨rfl, next⟩

/-- The next cursor is never a stamp that is still to be given. -/
theorem Coherent.next_le (coherent : store.Coherent)
    (compiles : Pattern.compile? pattern = some compiled) {now : Millis} {page : Page}
    (scanned : store.scan cursor pattern count now = .ok (.returned page)) :
    page.next ≤ store.recency.next := by
  rcases (coherent.scan_spec compiles scanned).2 with ⟨ends, -⟩ | ⟨-, left, rest⟩
  · rw [ends]
    exact Nat.zero_le _
  · obtain ⟨entry, inside⟩ := List.exists_mem_of_ne_nil _ left
    rw [← rest] at inside
    obtain ⟨held, reached⟩ := List.mem_filter.1 inside
    exact Nat.le_of_lt (Nat.lt_of_le_of_lt (of_decide_eq_true reached)
      (coherent.recency.fresh entry held))

/-- What a page shows is live and matches. -/
theorem sound_of_scan (compiles : Pattern.compile? pattern = some compiled) {now : Millis}
    {page : Page} (scanned : store.scan cursor pattern count now = .ok (.returned page)) :
    ∀ key ∈ page.keys, (store.find? key now).isSome ∧ compiled.matchesKey key = true := by
  intro key held
  rw [scan_eq compiles (few_of_scan compiles scanned)] at scanned
  obtain rfl := Ending.returned.inj (Except.ok.inj scanned)
  exact (mem_matching.1 held).2

/-- One page: a key that is live and matches is shown, or stands behind the cursor, or is ahead of
the next cursor. -/
theorem Coherent.shown_or_ahead (coherent : store.Coherent)
    (compiles : Pattern.compile? pattern = some compiled) {now : Millis} {page : Page}
    (scanned : store.scan cursor pattern count now = .ok (.returned page))
    (fits : compiled.matchesKey key = true) (live : (store.find? key now).isSome) :
    key ∈ page.keys ∨ (∃ stamp < cursor, (stamp, key) ∈ store.recency.order) ∨
      page.next ≠ 0 ∧ ∃ stamp ≥ page.next, (stamp, key) ∈ store.recency.order := by
  obtain ⟨stamp, held⟩ := coherent.entry_of_live live
  obtain ⟨keys, next⟩ := coherent.scan_spec compiles scanned
  rcases Nat.lt_or_ge stamp cursor with passed | reached
  · exact .inr (.inl ⟨stamp, passed, held⟩)
  have ahead : (stamp, key) ∈ store.recency.ahead cursor :=
    List.mem_filter.2 ⟨held, decide_eq_true reached⟩
  rw [← List.take_append_drop (max count 1) (store.recency.ahead cursor)] at ahead
  rcases List.mem_append.1 ahead with here | later
  · rw [keys]
    exact .inl (mem_matching.2 ⟨List.mem_map_of_mem here, live, fits⟩)
  · rcases next with ⟨-, nothing⟩ | ⟨more, -, rest⟩
    · rw [nothing] at later
      exact absurd later List.not_mem_nil
    · rw [← rest] at later
      obtain ⟨inside, behind⟩ := List.mem_filter.1 later
      exact .inr (.inr ⟨more, stamp, of_decide_eq_true behind, inside⟩)

omit [Libraries] in
/-- Between two pages no key comes to stand behind the cursor: one that was ahead of it is not
behind it later. -/
theorem Coherent.not_passed (coherent : store.Coherent) {late : MemoryStore}
    (onward : store.recency.Onward late.recency) {next stamp stamp' : Nat}
    (given : next ≤ store.recency.next) (ahead : stamp ≥ next)
    (held : (stamp, key) ∈ store.recency.order) (held' : (stamp', key) ∈ late.recency.order) :
    ¬ stamp' < next := by
  intro passed
  rcases onward.old_or_fresh _ held' with old | fresh
  · have stamped := (coherent.recency.inverse key stamp).2 held
    rw [(coherent.recency.inverse key stamp').2 old] at stamped
    have same := Option.some.inj stamped
    omega
  · dsimp only at fresh
    omega

namespace PagedWalk

/-- What a page shows is live and matches when it is shown. -/
theorem sound (compiles : Pattern.compile? pattern = some compiled)
    (walk : PagedWalk pattern count allowed clock store cursor pages) :
    ∀ taken ∈ pages, ∀ key ∈ taken.page.keys,
      (taken.store.find? key taken.now).isSome ∧ compiled.matchesKey key = true := by
  induction walk with
  | last scanned ends =>
    intro taken held
    rw [List.mem_singleton.1 held]
    exact sound_of_scan compiles scanned
  | next scanned more fits onward ih =>
    intro taken held
    rcases List.mem_cons.1 held with rfl | later
    · exact sound_of_scan compiles scanned
    · exact ih taken later

/-- The invariant of a walk: a key that matches and is live whenever a page is shown is on one of
the pages that follow, or stands behind the cursor. -/
theorem shown_or_passed (coherent : store.Coherent)
    (compiles : Pattern.compile? pattern = some compiled)
    (stays : ∀ request, allowed request → request ≠ .close)
    (walk : PagedWalk pattern count allowed clock store cursor pages)
    (fits : compiled.matchesKey key = true)
    (live : ∀ taken ∈ pages, (taken.store.find? key taken.now).isSome) :
    (∃ taken ∈ pages, key ∈ taken.page.keys) ∨
      ∃ stamp < cursor, (stamp, key) ∈ store.recency.order := by
  induction walk with
  | last scanned ends =>
    rcases coherent.shown_or_ahead compiles scanned fits (live _ List.mem_cons_self) with
      shown | passed | ⟨more, -⟩
    · exact .inl ⟨_, List.mem_cons_self, shown⟩
    · exact .inr passed
    · exact absurd ends more
  | @next clock store cursor page calls later scanned more allow onward ih =>
    rcases coherent.shown_or_ahead compiles scanned fits (live _ List.mem_cons_self) with
      shown | passed | ⟨-, stamp, ahead, held⟩
    · exact .inl ⟨_, List.mem_cons_self, shown⟩
    · exact .inr passed
    have given := coherent.next_le compiles scanned
    have goesOn := store.onward_after fun call inside => stays _ (allow call inside)
    rcases ih (coherent.after calls) fun taken inside =>
        live taken (List.mem_cons_of_mem _ inside) with
      ⟨taken, inside, shown⟩ | ⟨stamp', passed, held'⟩
    · exact .inl ⟨taken, List.mem_cons_of_mem _ inside, shown⟩
    · exact absurd passed (coherent.not_passed goesOn given ahead held held')

/-- A walk from the beginning misses no key that matches and is live whenever a page is shown. -/
theorem complete (coherent : store.Coherent)
    (compiles : Pattern.compile? pattern = some compiled)
    (stays : ∀ request, allowed request → request ≠ .close)
    (walk : PagedWalk pattern count allowed clock store 0 pages)
    (fits : compiled.matchesKey key = true)
    (live : ∀ taken ∈ pages, (taken.store.find? key taken.now).isSome) :
    ∃ taken ∈ pages, key ∈ taken.page.keys := by
  rcases walk.shown_or_passed coherent compiles stays fits live with shown | ⟨stamp, passed, -⟩
  · exact shown
  · exact absurd passed (Nat.not_lt_zero stamp)

/-- What an undisturbed walk begins with: its first page, and what follows it in the same store. -/
theorem undisturbed_cases
    (walk : PagedWalk pattern count Undisturbed clock store cursor pages) :
    ∃ page, store.scan cursor pattern count (clock 0) = .ok (.returned page) ∧
      (page.next = 0 ∧ pages = [⟨store, clock 0, page⟩] ∨
        page.next ≠ 0 ∧ ∃ later, pages = ⟨store, clock 0, page⟩ :: later ∧
          PagedWalk pattern count Undisturbed (fun turn => clock (turn + 1)) store page.next
            later) := by
  cases walk with
  | last scanned ends => exact ⟨_, scanned, .inl ⟨ends, rfl⟩⟩
  | @next _ _ _ _ calls later scanned more none onward =>
    obtain rfl : calls = [] := List.eq_nil_iff_forall_not_mem.2 none
    exact ⟨_, scanned, .inr ⟨more, later, rfl, onward⟩⟩

/-- What an undisturbed walk shows first, and what it goes on with if something is left ahead. -/
theorem undisturbed_spec (coherent : store.Coherent)
    (compiles : Pattern.compile? pattern = some compiled)
    (walk : PagedWalk pattern count Undisturbed clock store cursor pages) :
    ∃ page : Page,
      page.keys =
          store.matching (clock 0) compiled ((store.recency.ahead cursor).take (max count 1)) ∧
        (pages = [⟨store, clock 0, page⟩] ∨
          (store.recency.ahead cursor).drop (max count 1) ≠ [] ∧
            store.recency.ahead page.next = (store.recency.ahead cursor).drop (max count 1) ∧
            ∃ later, pages = ⟨store, clock 0, page⟩ :: later ∧
              PagedWalk pattern count Undisturbed (fun turn => clock (turn + 1)) store page.next
                later) := by
  obtain ⟨page, scanned, next⟩ := walk.undisturbed_cases
  obtain ⟨keys, ahead⟩ := coherent.scan_spec compiles scanned
  refine ⟨page, keys, ?_⟩
  rcases next with ⟨-, shape⟩ | ⟨more, onward⟩
  · exact .inl shape
  · rcases ahead with ⟨ends, -⟩ | ⟨-, some, rest⟩
    · exact absurd ends more
    · exact .inr ⟨some, rest, onward⟩

/-- An undisturbed walk is determined by the store and the instants. -/
theorem undisturbed_unique {other : List TakenPage}
    (walk : PagedWalk pattern count Undisturbed clock store cursor pages)
    (walk' : PagedWalk pattern count Undisturbed clock store cursor other) : other = pages := by
  induction pages generalizing clock cursor other with
  | nil =>
    obtain ⟨page, -, ⟨-, shape⟩ | ⟨-, later, shape, -⟩⟩ := walk.undisturbed_cases
    · exact absurd shape (List.cons_ne_nil _ _).symm
    · exact absurd shape (List.cons_ne_nil _ _).symm
  | cons taken rest ih =>
    obtain ⟨page, scanned, next⟩ := walk.undisturbed_cases
    obtain ⟨page', scanned', next'⟩ := walk'.undisturbed_cases
    obtain rfl : page' = page :=
      Ending.returned.inj (Except.ok.inj (scanned'.symm.trans scanned))
    rcases next with ⟨ends, shape⟩ | ⟨more, later, shape, onward⟩
    · rcases next' with ⟨-, shape'⟩ | ⟨more', -⟩
      · rw [shape', shape]
      · exact absurd ends more'
    · rcases next' with ⟨ends', -⟩ | ⟨-, later', shape', onward'⟩
      · exact absurd ends' more
      · obtain ⟨rfl, rfl⟩ := List.cons.inj shape
        rw [shape', ih onward onward']

end PagedWalk

/-- An undisturbed walk comes to an end by itself, whatever the instants are. -/
theorem Coherent.exists_undisturbed (coherent : store.Coherent)
    (compiles : Pattern.compile? pattern = some compiled) (few : count ≤ Recency.mostKeys)
    (cursor : Nat) (clock : Nat → Millis) :
    ∃ pages, PagedWalk pattern count Undisturbed clock store cursor pages := by
  induction left : (store.recency.ahead cursor).length using Nat.strongRecOn
    generalizing cursor clock with
  | ind size ih =>
    obtain ⟨page, scanned⟩ :
        ∃ page, store.scan cursor pattern count (clock 0) = .ok (.returned page) :=
      ⟨_, scan_eq compiles few store cursor (clock 0)⟩
    rcases (coherent.scan_spec compiles scanned).2 with ⟨ends, -⟩ | ⟨more, some, rest⟩
    · exact ⟨_, .last scanned ends⟩
    · have shorter : (store.recency.ahead page.next).length < size := by
        have positive := List.length_pos_iff.2 some
        rw [List.length_drop] at positive
        rw [rest, List.length_drop]
        omega
      obtain ⟨later, onward⟩ := ih _ shorter page.next (fun turn => clock (turn + 1)) rfl
      have none : ∀ call ∈ ([] : List (Millis × Request)), Undisturbed call.2 :=
        fun call held => absurd held List.not_mem_nil
      exact ⟨_, .next scanned more none onward⟩

namespace PagedWalk

/-- What an undisturbed walk shows are keys that lie ahead, in their order. -/
theorem shownKeys_sublist (coherent : store.Coherent)
    (compiles : Pattern.compile? pattern = some compiled)
    (walk : PagedWalk pattern count Undisturbed clock store cursor pages) :
    (shownKeys pages).Sublist ((store.recency.ahead cursor).map Prod.snd) := by
  induction pages generalizing clock cursor with
  | nil => exact List.nil_sublist _
  | cons taken rest ih =>
    obtain ⟨page, keys, next⟩ := walk.undisturbed_spec coherent compiles
    have first : page.keys.Sublist
        (((store.recency.ahead cursor).take (max count 1)).map Prod.snd) := by
      rw [keys]
      exact List.filter_sublist
    rw [← List.take_append_drop (max count 1) (store.recency.ahead cursor), List.map_append]
    rcases next with shape | ⟨-, behind, later, shape, onward⟩
    · obtain ⟨rfl, rfl⟩ := List.cons.inj shape
      exact first.append (List.nil_sublist _)
    · obtain ⟨rfl, rfl⟩ := List.cons.inj shape
      rw [← behind]
      exact first.append (ih onward)

/-- Every page of an undisturbed walk but the last one passes as many keys as it may. -/
theorem length_le (coherent : store.Coherent)
    (compiles : Pattern.compile? pattern = some compiled)
    (walk : PagedWalk pattern count Undisturbed clock store cursor pages) :
    pages.length ≤ (store.recency.ahead cursor).length / max count 1 + 1 := by
  induction pages generalizing clock cursor with
  | nil => exact Nat.zero_le _
  | cons taken rest ih =>
    obtain ⟨page, -, shape | ⟨some, behind, later, shape, onward⟩⟩ :=
      walk.undisturbed_spec coherent compiles
    · obtain ⟨-, rfl⟩ := List.cons.inj shape
      exact Nat.le_add_left 1 _
    · obtain ⟨-, rfl⟩ := List.cons.inj shape
      have shorter := ih onward
      have positive : 0 < max count 1 := by omega
      have left := List.length_pos_iff.2 some
      rw [List.length_drop] at left
      rw [behind, List.length_drop] at shorter
      rw [Nat.div_eq_sub_div positive (Nat.le_of_lt (Nat.lt_of_sub_pos left)), List.length_cons]
      exact Nat.succ_le_succ shorter

/-- Every page of an undisturbed walk is shown by the store that the walk begins with, at an instant
of the walk. -/
theorem undisturbed_taken
    (walk : PagedWalk pattern count Undisturbed clock store cursor pages) :
    ∀ taken ∈ pages, taken.store = store ∧ ∃ turn, taken.now = clock turn := by
  induction pages generalizing clock cursor with
  | nil => exact fun _ held => absurd held List.not_mem_nil
  | cons first rest ih =>
    intro taken held
    obtain ⟨page, -, ⟨-, shape⟩ | ⟨-, later, shape, onward⟩⟩ := walk.undisturbed_cases
    · rw [shape, List.mem_singleton] at held
      rw [held]
      exact ⟨rfl, 0, rfl⟩
    · obtain ⟨rfl, rfl⟩ := List.cons.inj shape
      rcases List.mem_cons.1 held with rfl | inside
      · exact ⟨rfl, 0, rfl⟩
      · obtain ⟨same, turn, instant⟩ := ih onward taken inside
        exact ⟨same, turn + 1, instant⟩

/-- An undisturbed walk from the beginning shows a key that matches once, if it is live whenever a
page is shown. -/
theorem count_shownKeys (coherent : store.Coherent)
    (compiles : Pattern.compile? pattern = some compiled)
    (walk : PagedWalk pattern count Undisturbed clock store 0 pages)
    (fits : compiled.matchesKey key = true)
    (live : ∀ taken ∈ pages, (store.find? key taken.now).isSome) :
    (shownKeys pages).count key = 1 := by
  have sublist := walk.shownKeys_sublist coherent compiles
  rw [Recency.ahead_zero] at sublist
  have live' : ∀ taken ∈ pages, (taken.store.find? key taken.now).isSome := by
    intro taken inside
    rw [(walk.undisturbed_taken taken inside).1]
    exact live taken inside
  obtain ⟨taken, inside, shown⟩ := walk.complete coherent compiles (fun _ => False.elim) fits live'
  exact List.count_eq_one_of_mem (sublist.nodup coherent.recency.nodup_keys)
    (List.mem_flatMap.2 ⟨taken, inside, shown⟩)

/-- While no time passes an undisturbed walk from the beginning shows once each key that is live and
matches, and no other. -/
theorem count_standing (coherent : store.Coherent)
    (compiles : Pattern.compile? pattern = some compiled)
    (walk : PagedWalk pattern count Undisturbed clock store 0 pages) {now : Millis}
    (standing : ∀ turn, clock turn = now) (key : String) :
    (shownKeys pages).count key =
      if (store.find? key now).isSome ∧ compiled.matchesKey key then 1 else 0 := by
  have taken_now : ∀ taken ∈ pages, taken.store = store ∧ taken.now = now := by
    intro taken inside
    obtain ⟨same, turn, instant⟩ := walk.undisturbed_taken taken inside
    exact ⟨same, instant.trans (standing turn)⟩
  split
  · rename_i held
    refine walk.count_shownKeys coherent compiles held.2 fun taken inside => ?_
    rw [(taken_now taken inside).2]
    exact held.1
  · rename_i missing
    refine List.count_eq_zero.2 fun shown => missing ?_
    obtain ⟨taken, inside, here⟩ := List.mem_flatMap.1 shown
    have sound := walk.sound compiles taken inside key here
    rwa [(taken_now taken inside).1, (taken_now taken inside).2] at sound

end PagedWalk

/-- A walk over a store that has answered any requests before, with pages of any size at any
instants. A pattern that cannot be compiled is refused at every page. For any other pattern: a page
of more keys than there can be room for panics, whatever the store holds; what a page shows is live
and matches when it is shown; and whatever is requested between the pages, unless all keys are
forgotten, a key that matches is on one of the pages if it is live whenever a page is shown. If
there is room for the pages and nothing is requested between them, there is one walk. It has no more
pages than the keys fill, and one more; it shows no key twice, and a key that matches once if that
is live throughout: while no time passes exactly the live keys that match. -/
theorem scan_walks (capacity : Nat) (earlier : List (Millis × Request)) (pattern : String)
    (count : Nat) (clock : Nat → Millis) :
    let store := (MemoryStore.ofCapacity capacity).after earlier
    match Pattern.compile? pattern with
    | none => ∀ cursor now, store.scan cursor pattern count now = .error (.backend .badPattern)
    | some compiled =>
      (Recency.mostKeys < count →
        ∀ cursor now, store.scan cursor pattern count now = .ok .panicked) ∧
      (∀ pages, PagedWalk pattern count (· ≠ .close) clock store 0 pages →
        (∀ taken ∈ pages, ∀ key ∈ taken.page.keys,
          (taken.store.find? key taken.now).isSome ∧ compiled.matchesKey key = true) ∧
        ∀ key, compiled.matchesKey key = true →
          (∀ taken ∈ pages, (taken.store.find? key taken.now).isSome) →
          ∃ taken ∈ pages, key ∈ taken.page.keys) ∧
      (count ≤ Recency.mostKeys →
        ∃ pages, PagedWalk pattern count Undisturbed clock store 0 pages ∧
          (∀ other, PagedWalk pattern count Undisturbed clock store 0 other → other = pages) ∧
          pages.length ≤ store.size / max count 1 + 1 ∧
          (shownKeys pages).Nodup ∧
          (∀ key, compiled.matchesKey key = true →
            (∀ taken ∈ pages, (store.find? key taken.now).isSome) →
            (shownKeys pages).count key = 1) ∧
          ∀ now, (∀ turn, clock turn = now) → ∀ key,
            (shownKeys pages).count key =
              if (store.find? key now).isSome ∧ compiled.matchesKey key then 1 else 0) := by
  intro store
  have coherent : store.Coherent := (Coherent.ofCapacity capacity).after earlier
  cases compiles : Pattern.compile? pattern with
  | none =>
    intro cursor now
    rw [scan, compiles]
  | some compiled =>
    refine ⟨fun many cursor now => scan_eq_panicked compiles many store cursor now,
      fun pages walk => ⟨walk.sound compiles, fun key fits live =>
        walk.complete coherent compiles (fun _ => id) fits live⟩, fun few => ?_⟩
    obtain ⟨pages, walk⟩ := coherent.exists_undisturbed compiles few 0 clock
    have sublist := walk.shownKeys_sublist coherent compiles
    have length := walk.length_le coherent compiles
    rw [Recency.ahead_zero] at sublist length
    have size : store.size = store.recency.order.length := by
      have same := coherent.size_eq
      rwa [Recency.keys, List.length_map] at same
    rw [← size] at length
    refine ⟨pages, walk, fun other => walk.undisturbed_unique, length,
      sublist.nodup coherent.recency.nodup_keys,
      fun key => walk.count_shownKeys coherent compiles,
      fun now => walk.count_standing coherent compiles⟩

end

open scoped Libraries.Plain

/-- Requests that fill a store with three keys that match and one that does not. -/
def crowding : List (Millis × Request) :=
  [(0, .set "a1" "0|1" 0), (0, .set "a2" "0|2" 0), (0, .set "a3" "0|3" 9), (0, .set "b" "0|4" 0)]

/-- Requests between the first page and the second one. -/
def firstMeanwhile : List (Millis × Request) :=
  [(1, .set "a3" "0|5" 9), (1, .get "a1")]

/-- Requests between the second page and the third one. -/
def secondMeanwhile : List (Millis × Request) :=
  [(2, .delete ["a2"]), (2, .get "a3")]

/-- The pages of a walk that these requests come between. -/
def interruptedPages : List TakenPage :=
  let first := (ofCapacity 4).after crowding
  let second := first.after firstMeanwhile
  [⟨first, 0, ⟨["a1", "a2"], 2⟩⟩, ⟨second, 1, ⟨["a3"], 5⟩⟩,
    ⟨second.after secondMeanwhile, 2, ⟨["a1", "a3"], 0⟩⟩]

/-- A key that is written and read between the pages is shown nevertheless, even twice. -/
theorem scan_walks_interrupted :
    Pattern.compile? "a*" = some ⟨"a*", [.one (.exactly 'a'), .anyRun]⟩ ∧
      PagedWalk "a*" 2 (· ≠ .close) id ((ofCapacity 4).after crowding) 0 interruptedPages ∧
      ∃ taken ∈ interruptedPages, "a3" ∈ taken.page.keys := by
  have compiles : Pattern.compile? "a*" = some ⟨"a*", [.one (.exactly 'a'), .anyRun]⟩ := by decide
  have walk : PagedWalk "a*" 2 (· ≠ .close) id ((ofCapacity 4).after crowding) 0
      interruptedPages :=
    .next (by decide) (by decide) (by decide : ∀ call ∈ firstMeanwhile, call.2 ≠ .close)
      (.next (by decide) (by decide) (by decide : ∀ call ∈ secondMeanwhile, call.2 ≠ .close)
        (.last (by decide) rfl))
  have walks := scan_walks 4 crowding "a*" 2 id
  rw [compiles] at walks
  exact ⟨compiles, walk, (walks.2.1 _ walk).2 "a3" (by decide) (by decide)⟩

end MemoryStore

end FailOpenCache
