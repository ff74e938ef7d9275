import FailOpenCache.Proofs.Store.Pages
import Mathlib.Data.List.Induction

/-!
# Histories of the order of use

Whatever is asked of an order of use, one call after the other, its two maps stand for a line of
keys: a touch moves a key to the end of the line, a removal takes it out, and what gives way is the
head. The stamp of a key is the number of touches before its last one. A page shows the first keys
of the line whose stamps are not behind its cursor, and says from which stamp the next page goes on;
but room is made for all keys that a page may show before it is known how many these are, and a call
that asks for too many panics.
-/

namespace FailOpenCache.Recency

/-- What is asked of an order of use. -/
inductive Call where
  /-- Make a key the one used last. -/
  | touch (key : String)
  /-- Forget a key. -/
  | remove (key : String)
  /-- Take out the key whose last use is the oldest. -/
  | takeOldest
  /-- Show so many keys from a stamp on. -/
  | page (cursor count : Nat)
deriving DecidableEq

namespace Call

/-- What a call answers. -/
def Reply : Call → Type
  | touch _ | remove _ => Unit
  | takeOldest => Option String
  | page _ _ => Ending Page

/-- Answer a call. -/
def run : (call : Call) → Recency → call.Reply × Recency
  | touch key, recency => ((), recency.touch key)
  | remove key, recency => ((), recency.remove key)
  | takeOldest, recency =>
    match recency.takeOldest? with
    | none => (none, recency)
    | some (key, left) => (some key, left)
  | page cursor count, recency => (recency.page cursor count, recency)

/-- What a call does to a line of keys. -/
def move : Call → List String → List String
  | touch key, line => line.erase key ++ [key]
  | remove key, line => line.erase key
  | takeOldest, line => line.tail
  | page _ _, line => line

/-- The key that a call touches. -/
def touched? : Call → Option String
  | touch key => some key
  | remove _ | takeOldest | page _ _ => none

end Call

/-- The order of use after calls. -/
def after (calls : List Call) : Recency :=
  calls.foldl (fun recency call => (call.run recency).2) .empty

/-- The line of keys after calls. -/
def lineAfter (calls : List Call) : List String :=
  calls.foldl (fun line call => call.move line) []

/-- The keys that calls touch, one after the other. -/
def touches (calls : List Call) : List String := calls.filterMap Call.touched?

/-- The last call is answered by what the others leave. -/
theorem after_append_singleton (calls : List Call) (call : Call) :
    after (calls ++ [call]) = (call.run (after calls)).2 := by
  rw [after, List.foldl_append]
  rfl

/-- The last call moves the line that the others leave. -/
theorem lineAfter_append_singleton (calls : List Call) (call : Call) :
    lineAfter (calls ++ [call]) = call.move (lineAfter calls) := by
  rw [lineAfter, List.foldl_append]
  rfl

/-- The last call touches a key after all others. -/
theorem touches_append_singleton (calls : List Call) (call : Call) :
    touches (calls ++ [call]) = touches calls ++ call.touched?.toList := by
  rw [touches, List.filterMap_append]
  cases touched : call.touched? with
  | none => simp [touches, touched]
  | some key => simp [touches, touched]

/-- What a page from a cursor shows of a line of keys whose stamps are given. -/
structure ShowsPage (line : List String) (stamp? : String → Option Nat) (cursor count : Nat)
    (page : Page) : Prop where
  /-- The first keys in line of those whose stamps are not behind the cursor. -/
  keys : page.keys = (line.filter fun key => (stamp? key).any (cursor ≤ ·)).take count
  /-- A page without keys is the last one. -/
  nothing : page.keys = [] → page.next = 0
  /-- A page is the last one when no stamp is greater than that of the last key it shows; otherwise
  the next page goes on behind this stamp. -/
  last : ∀ key, page.keys.getLast? = some key → ∃ stamp, stamp? key = some stamp ∧
    (page.next = 0 ↔ ∀ other later, stamp? other = some later → later ≤ stamp) ∧
    (page.next ≠ 0 → page.next = stamp + 1)

/-- An order of use stands for a line of keys, given all touches so far. -/
structure Tells (recency : Recency) (line touched : List String) : Prop where
  /-- The two maps are inverse to each other, and all stamps are below the next one. -/
  coherent : recency.Coherent
  /-- The keys in order are the line. -/
  keys : recency.keys = line
  /-- The next stamp is the number of touches. -/
  next : recency.next = touched.length
  /-- The stamp of a key is the number of touches before its last one. -/
  dated : ∀ entry ∈ recency.order,
    touched[entry.1]? = some entry.2 ∧ entry.2 ∉ touched.drop (entry.1 + 1)

/-- What a call answers over a line of keys. -/
def Call.Answers : (call : Call) → Recency → List String → call.Reply → Prop
  | touch _, _, _, _ | remove _, _, _, _ => True
  | takeOldest, _, line, oldest => oldest = line.head?
  | page cursor count, recency, line, outcome =>
    (count ≤ mostKeys → ∃ shown, outcome = .returned shown ∧
      ShowsPage line recency.stamps.find? cursor count shown ∧ shown.next ≤ recency.next) ∧
    (mostKeys < count → outcome = .panicked)

variable {recency : Recency} {line touched : List String}

namespace Coherent

/-- There are as many stamps as keys. -/
theorem size_eq_length (coherent : recency.Coherent) : recency.size = recency.keys.length := by
  have same : recency.stamps.names.Perm recency.keys := by
    refine (List.perm_ext_iff_of_nodup recency.stamps.distinct coherent.nodup_keys).2 fun key => ?_
    rw [show key ∈ recency.stamps.entries.map Prod.fst ↔ _ from Table.mem_names_iff,
      Option.isSome_iff_exists, keys, List.mem_map]
    constructor
    · rintro ⟨stamp, found⟩
      exact ⟨(stamp, key), (coherent.inverse key stamp).1 found, rfl⟩
    · rintro ⟨entry, held, rfl⟩
      exact ⟨entry.1, (coherent.inverse entry.2 entry.1).2 held⟩
  rw [← same.length_eq, size, Table.size, Table.names, List.length_map]

/-- The keys ahead of a cursor are those whose stamps are not behind it. -/
theorem keys_ahead (coherent : recency.Coherent) (cursor : Nat) :
    (recency.ahead cursor).map Prod.snd =
      recency.keys.filter fun key => (recency.stamps.find? key).any (cursor ≤ ·) := by
  rw [keys, List.filter_map, ahead]
  refine congrArg (List.map Prod.snd) (List.filter_congr fun entry held => ?_)
  have found := (coherent.inverse entry.2 entry.1).2 held
  rw [Function.comp_apply, found, Option.any_some]

/-- No entry is left behind a page exactly when no stamp is greater than that of its last entry. -/
theorem drop_eq_nil_iff (coherent : recency.Coherent) {cursor count : Nat} {last : Nat × String}
    (ends : ((recency.ahead cursor).take count).getLast? = some last) :
    (recency.ahead cursor).drop count = [] ↔
      ∀ other later, recency.stamps.find? other = some later → later ≤ last.1 := by
  have sorted : (recency.ahead cursor).Pairwise fun first later => first.1 < later.1 :=
    coherent.ascending.filter _
  have shown := List.mem_of_getLast? ends
  have reached : cursor ≤ last.1 :=
    of_decide_eq_true (List.mem_filter.1 (List.mem_of_mem_take shown)).2
  rw [← List.take_append_drop count (recency.ahead cursor), List.pairwise_append] at sorted
  obtain ⟨within, -, across⟩ := sorted
  constructor
  · intro none other later found
    by_cases passed : later < cursor
    · omega
    have inside : (later, other) ∈ (recency.ahead cursor).take count := by
      have held := (coherent.inverse other later).1 found
      have whole := List.take_append_drop count (recency.ahead cursor)
      rw [none, List.append_nil] at whole
      rw [whole]
      exact List.mem_filter.2 ⟨held, decide_eq_true (Nat.not_lt.1 passed)⟩
    obtain ⟨init, shape⟩ := List.getLast?_eq_some_iff.1 ends
    rw [shape] at inside within
    rcases List.mem_append.1 inside with before | same
    · exact Nat.le_of_lt
        ((List.pairwise_append.1 within).2.2 _ before last (List.mem_singleton_self _))
    · exact Nat.le_of_eq (congrArg Prod.fst (List.mem_singleton.1 same))
  · intro greatest
    refine List.eq_nil_iff_forall_not_mem.2 fun entry left => ?_
    have greater := across last shown entry left
    have held : entry ∈ recency.order := (List.mem_filter.1 (List.mem_of_mem_drop left)).1
    have bound := greatest entry.2 entry.1 ((coherent.inverse entry.2 entry.1).2 held)
    omega

/-- A page shows the first keys in order whose stamps are not behind the cursor. -/
theorem showsPage (coherent : recency.Coherent) (cursor count : Nat) :
    ShowsPage recency.keys recency.stamps.find? cursor count (recency.pageOf cursor count) where
  keys := by
    rw [← coherent.keys_ahead, ← List.map_take]
    rfl
  nothing empty := by
    have shown : (recency.ahead cursor).take count = [] := List.map_eq_nil_iff.1 empty
    rw [pageOf, ← ahead, shown]
    rfl
  last key ends := by
    have shown : (((recency.ahead cursor).take count).map Prod.snd).getLast? = some key := ends
    rw [List.getLast?_map, Option.map_eq_some_iff] at shown
    obtain ⟨last, found, rfl⟩ := shown
    have held : last ∈ recency.order :=
      (List.mem_filter.1 (List.mem_of_mem_take (List.mem_of_getLast? found))).1
    refine ⟨last.1, (coherent.inverse last.2 last.1).2 held, ?_⟩
    rw [pageOf_next recency found, ← coherent.drop_eq_nil_iff found]
    constructor
    · simp
    · intro further
      exact if_neg fun none => further (if_pos none)

/-- A page goes on with no stamp that has not been given. -/
theorem pageOf_next_le (coherent : recency.Coherent) (cursor count : Nat) :
    (recency.pageOf cursor count).next ≤ recency.next := by
  have shows := coherent.showsPage cursor count
  cases ends : (recency.pageOf cursor count).keys.getLast? with
  | none =>
    rw [shows.nothing (List.getLast?_eq_none_iff.1 ends)]
    exact Nat.zero_le _
  | some key =>
    obtain ⟨stamp, found, -, further⟩ := shows.last key ends
    have less : stamp < recency.next :=
      coherent.fresh (stamp, key) ((coherent.inverse key stamp).1 found)
    by_cases none : (recency.pageOf cursor count).next = 0
    · omega
    · have behind := further none
      omega

/-- Leaving a key out of the order takes it out of the line. -/
theorem filter_keys (coherent : recency.Coherent) (key : String) :
    recency.keys.filter (· ≠ key) = recency.keys.erase key := by
  rw [coherent.nodup_keys.erase_eq_filter]
  exact List.filter_congr fun other _ => Bool.eq_iff_iff.2 (by simp)

end Coherent

namespace Tells

/-- At the beginning there is no key, and nothing has been touched. -/
theorem empty : Recency.empty.Tells [] [] where
  coherent := .empty
  keys := rfl
  next := rfl
  dated _ held := absurd held List.not_mem_nil

/-- A touch moves a key to the end of the line and gives it the next stamp. -/
theorem touch (tells : recency.Tells line touched) (key : String) :
    (recency.touch key).Tells (line.erase key ++ [key]) (touched ++ [key]) where
  coherent := tells.coherent.touch key
  keys := by rw [tells.coherent.keys_touch, tells.coherent.filter_keys, tells.keys]
  next := by rw [List.length_append, ← tells.next]; rfl
  dated entry held := by
    rw [Recency.touch, tells.coherent.orderWithout_eq] at held
    rcases List.mem_append.1 held with old | new
    · obtain ⟨before, differs⟩ := List.mem_filter.1 old
      obtain ⟨stands, last⟩ := tells.dated entry before
      have inside : entry.1 < touched.length := tells.next ▸ tells.coherent.fresh entry before
      rw [List.getElem?_append_left inside, List.drop_append_of_le_length inside]
      refine ⟨stands, fun later => ?_⟩
      rcases List.mem_append.1 later with earlier | same
      · exact last earlier
      · exact of_decide_eq_true differs (List.mem_singleton.1 same)
    · rw [List.mem_singleton.1 new, tells.next]
      simp

/-- A removal takes a key out of the line. -/
theorem remove (tells : recency.Tells line touched) (key : String) :
    (recency.remove key).Tells (line.erase key) touched where
  coherent := tells.coherent.remove key
  keys := by rw [tells.coherent.keys_remove, tells.coherent.filter_keys, tells.keys]
  next := tells.next
  dated entry held := by
    rw [Recency.remove, tells.coherent.orderWithout_eq] at held
    exact tells.dated entry (List.mem_filter.1 held).1

/-- The head of the line gives way, and nothing does when there is none. -/
theorem takeOldest (tells : recency.Tells line touched) :
    (Call.takeOldest.run recency).1 = line.head? ∧
      (Call.takeOldest.run recency).2.Tells line.tail touched := by
  obtain ⟨order, stamps, next⟩ := recency
  obtain rfl := tells.keys
  cases order with
  | nil => exact ⟨rfl, tells⟩
  | cons oldest rest =>
    refine ⟨rfl, ?_, rfl, tells.next, fun entry held => ?_⟩
    · obtain ⟨left, taken, -, coherent⟩ := tells.coherent.takeOldest?_of_keys rfl
      obtain rfl : _ = left := congrArg Prod.snd (Option.some.inj taken)
      exact coherent
    · exact tells.dated entry (List.mem_cons_of_mem _ held)

/-- A call does to an order of use what it does to the line. -/
theorem run (tells : recency.Tells line touched) (call : Call) :
    call.Answers recency line (call.run recency).1 ∧
      (call.run recency).2.Tells (call.move line) (touched ++ call.touched?.toList) := by
  cases call with
  | touch key => exact ⟨trivial, tells.touch key⟩
  | remove key => exact ⟨trivial, (List.append_nil touched).symm ▸ tells.remove key⟩
  | takeOldest => exact ⟨tells.takeOldest.1, (List.append_nil touched).symm ▸ tells.takeOldest.2⟩
  | page cursor count =>
    refine ⟨⟨fun few => ?_, recency.page_eq_panicked cursor⟩,
      (List.append_nil touched).symm ▸ tells⟩
    refine ⟨_, recency.page_eq_returned cursor few, ?_, tells.coherent.pageOf_next_le cursor count⟩
    rw [← tells.keys]
    exact tells.coherent.showsPage cursor count

/-- Whatever has been asked, an order of use stands for the line of keys. -/
theorem after (calls : List Call) : (after calls).Tells (lineAfter calls) (touches calls) := by
  induction calls using List.reverseRecOn with
  | nil => exact .empty
  | append_singleton earlier call ih =>
    rw [after_append_singleton, lineAfter_append_singleton, touches_append_singleton]
    exact (ih.run call).2

end Tells

/-- Whatever is asked of an order of use, one call after the other and with fewer touches than a
word can count, its two maps stay inverse to each other with all stamps below the next one, which is
the number of touches and fits in a word. They stand for the line of keys that the calls tell: no
key stands twice in it, it is as long as the order of use, and every further call is answered from
it, but for a call that asks for a page of more keys than there can be room for, which panics. -/
theorem after_tellsLine (calls : List Call) (few : (touches calls).length < 2 ^ 64) :
    (after calls).Tells (lineAfter calls) (touches calls) ∧ (after calls).next ≤ lastWord ∧
      (lineAfter calls).Nodup ∧ (after calls).size = (lineAfter calls).length ∧
      ∀ call : Call, call.Answers (after calls) (lineAfter calls) (call.run (after calls)).1 := by
  have tells := Tells.after calls
  refine ⟨tells, ?_, ?_, ?_, fun call => (tells.run call).1⟩
  · rw [tells.next]
    exact Nat.le_sub_one_of_lt few
  · rw [← tells.keys]
    exact tells.coherent.nodup_keys
  · rw [← tells.keys]
    exact tells.coherent.size_eq_length

/-- A key that is touched again, one that is not there, and one that gives way. -/
def retouched : List Call :=
  [.touch "a", .touch "b", .touch "c", .touch "a", .remove "d", .takeOldest]

/-- The key touched again has moved behind the others, and the oldest one of these has given way. A
page of one key shows the head, and the next one goes on behind its stamp. -/
theorem after_tellsLine_retouched :
    (touches retouched).length < 2 ^ 64 ∧ (after retouched).keys = ["c", "a"] ∧
      (after retouched).size = 2 ∧ (after retouched).next = 4 ∧
      (Call.takeOldest.run (after retouched)).1 = some "c" ∧
      ShowsPage ["c", "a"] (after retouched).stamps.find? 0 1 ⟨["c"], 3⟩ := by
  have few : (touches retouched).length < 2 ^ 64 := by decide
  have line : lineAfter retouched = ["c", "a"] := by decide
  have first : (after retouched).page 0 1 = .returned ⟨["c"], 3⟩ := by decide
  obtain ⟨tells, -, -, size, answers⟩ := after_tellsLine retouched few
  have oldest : (Call.takeOldest.run (after retouched)).1 = (lineAfter retouched).head? :=
    answers .takeOldest
  obtain ⟨shown, returned, shows, -⟩ := (answers (.page 0 1)).1 (by decide)
  obtain rfl : ⟨["c"], 3⟩ = shown := Ending.returned.inj (first.symm.trans returned)
  rw [line] at oldest size shows
  exact ⟨few, tells.keys.trans line, size, tells.next, oldest, shows⟩

end FailOpenCache.Recency
