import FailOpenCache.Proofs.Store.Upkeep

/-!
# Pages of the order of use

A page of a walk shows the first keys that lie ahead of its cursor in the order of their last use.
The next cursor is such that what lies ahead of it is what the page did not show, unless nothing is
left: then the page is the last one. Of the keys of a page the store answers those that are live and
match the pattern. A page of more keys than there can be room for is none: asking for it panics.
-/

namespace FailOpenCache

namespace Recency

/-- The part of the order from a stamp on. -/
def ahead (recency : Recency) (cursor : Nat) : List (Nat × String) :=
  recency.order.filter fun entry => cursor ≤ entry.1

/-- From the beginning the whole order lies ahead. -/
theorem ahead_zero (recency : Recency) : recency.ahead 0 = recency.order :=
  List.filter_eq_self.2 fun _ _ => decide_eq_true (Nat.zero_le _)

/-- What lies ahead of an entry on the way, when the entries before it are passed, are those behind
it. -/
theorem ahead_behind {recency : Recency}
    (ascending : recency.order.Pairwise fun first later => first.1 < later.1) {cursor : Nat}
    {passed behind : List (Nat × String)} {last : Nat × String}
    (shape : recency.ahead cursor = passed ++ last :: behind) :
    recency.ahead (last.1 + 1) = behind := by
  have sorted : (recency.ahead cursor).Pairwise fun first later => first.1 < later.1 :=
    ascending.filter _
  have held : last ∈ recency.ahead cursor := by
    rw [shape]
    exact List.mem_append_right _ List.mem_cons_self
  have reached : cursor ≤ last.1 := of_decide_eq_true (List.mem_filter.1 held).2
  have further : recency.ahead (last.1 + 1) =
      (recency.ahead cursor).filter fun entry => decide (last.1 + 1 ≤ entry.1) := by
    rw [ahead, ahead, List.filter_filter]
    refine List.filter_congr fun entry _ => ?_
    rw [← Bool.decide_and, decide_eq_decide]
    omega
  rw [shape] at sorted
  obtain ⟨-, later, before⟩ := List.pairwise_append.1 sorted
  have none : passed.filter (fun entry => decide (last.1 + 1 ≤ entry.1)) = [] := by
    refine List.filter_eq_nil_iff.2 fun entry inside => ?_
    have less := before entry inside last List.mem_cons_self
    rw [decide_eq_true_eq]
    omega
  have all : behind.filter (fun entry => decide (last.1 + 1 ≤ entry.1)) = behind := by
    refine List.filter_eq_self.2 fun entry inside => ?_
    exact decide_eq_true ((List.pairwise_cons.1 later).1 entry inside)
  rw [further, shape, List.filter_append, none, List.filter_cons_of_neg (by simp), all,
    List.nil_append]

/-- The next cursor of a page that ends with an entry: zero if no entry is left, and otherwise the
stamp behind it. -/
theorem pageOf_next (recency : Recency) {cursor count : Nat} {last : Nat × String}
    (ends : ((recency.ahead cursor).take count).getLast? = some last) :
    (recency.pageOf cursor count).next =
      if (recency.ahead cursor).drop count = [] then 0 else last.1 + 1 := by
  rw [pageOf, ← ahead, ends]
  cases (recency.ahead cursor).drop count with
  | nil => rfl
  | cons first behind => simp

/-- A page shows the first entries that lie ahead. It is the last one if it shows all of them, and
otherwise the others are those that lie ahead of the next cursor. -/
theorem pageOf_spec {recency : Recency}
    (ascending : recency.order.Pairwise fun first later => first.1 < later.1) (cursor : Nat)
    {count : Nat} (positive : 0 < count) :
    (recency.pageOf cursor count).keys = ((recency.ahead cursor).take count).map Prod.snd ∧
      ((recency.pageOf cursor count).next = 0 ∧ (recency.ahead cursor).drop count = [] ∨
        (recency.pageOf cursor count).next ≠ 0 ∧ (recency.ahead cursor).drop count ≠ [] ∧
          recency.ahead (recency.pageOf cursor count).next =
            (recency.ahead cursor).drop count) := by
  refine ⟨rfl, ?_⟩
  cases rest : (recency.ahead cursor).drop count with
  | nil =>
    refine .inl ⟨?_, rfl⟩
    rw [pageOf, ← ahead, rest]
    dsimp only
    split
    · contradiction
    · rfl
  | cons first behind =>
    have whole := List.take_append_drop count (recency.ahead cursor)
    rw [rest] at whole
    have shown : (recency.ahead cursor).take count ≠ [] := by
      intro empty
      rcases List.take_eq_nil_iff.1 empty with zero | nothing
      · exact absurd zero (Nat.ne_of_gt positive)
      · rw [nothing, List.drop_nil] at rest
        exact absurd rest (by simp)
    obtain ⟨passed, last, split⟩ :
        ∃ passed last, (recency.ahead cursor).take count = passed ++ [last] :=
      ⟨_, _, (List.dropLast_concat_getLast shown).symm⟩
    have ends : ((recency.ahead cursor).take count).getLast? = some last := by
      rw [split, List.getLast?_concat]
    have stamp : (recency.pageOf cursor count).next = last.1 + 1 := by
      rw [pageOf_next recency ends, rest, if_neg (List.cons_ne_nil _ _)]
    rw [split] at whole
    have shape : recency.ahead cursor = passed ++ last :: (first :: behind) := by
      rw [← whole, List.append_assoc]
      rfl
    rw [stamp]
    exact .inr ⟨Nat.succ_ne_zero _, List.cons_ne_nil _ _, ahead_behind ascending shape⟩

/-- A page for which room can be made is shown. -/
theorem page_eq_returned (recency : Recency) (cursor : Nat) {count : Nat}
    (few : count ≤ mostKeys) :
    recency.page cursor count = .returned (recency.pageOf cursor count) :=
  if_neg (Nat.not_lt.2 few)

/-- Asking for a page for which no room can be made panics. -/
theorem page_eq_panicked (recency : Recency) (cursor : Nat) {count : Nat}
    (many : mostKeys < count) : recency.page cursor count = .panicked :=
  if_pos many

/-- There is room for one key. -/
theorem max_one_le_mostKeys {count : Nat} : max count 1 ≤ mostKeys ↔ count ≤ mostKeys := by
  have one : 1 ≤ mostKeys := by decide
  omega

end Recency

namespace MemoryStore

/-- The keys of entries of the order that are live and match. -/
def matching (store : MemoryStore) (now : Millis) (compiled : Pattern)
    (entries : List (Nat × String)) : List String :=
  (entries.map Prod.snd).filter fun key =>
    (store.find? key now).isSome && compiled.matchesKey key

/-- Keys match in each of two parts. -/
theorem matching_append (store : MemoryStore) (now : Millis) (compiled : Pattern)
    (first later : List (Nat × String)) :
    store.matching now compiled (first ++ later) =
      store.matching now compiled first ++ store.matching now compiled later := by
  simp only [matching, List.map_append, List.filter_append]

/-- A key that matches is that of an entry, and is live. -/
theorem mem_matching {store : MemoryStore} {now : Millis} {compiled : Pattern}
    {entries : List (Nat × String)} {key : String} :
    key ∈ store.matching now compiled entries ↔
      key ∈ entries.map Prod.snd ∧ (store.find? key now).isSome ∧
        compiled.matchesKey key = true := by
  rw [matching, List.mem_filter, Bool.and_eq_true]

section

variable [Libraries] {pattern : String} {compiled : Pattern} {count : Nat}

/-- A page of a walk with a pattern that can be compiled, and of keys for which room can be made. -/
theorem scan_eq (compiles : Pattern.compile? pattern = some compiled)
    (few : count ≤ Recency.mostKeys) (store : MemoryStore) (cursor : Nat) (now : Millis) :
    store.scan cursor pattern count now = .ok (.returned
      ⟨store.matching now compiled ((store.recency.ahead cursor).take (max count 1)),
        (store.recency.pageOf cursor (max count 1)).next⟩) := by
  rw [scan, compiles]
  dsimp only
  rw [store.recency.page_eq_returned cursor (Recency.max_one_le_mostKeys.2 few)]
  rfl

/-- A walk with a pattern that can be compiled panics if there is no room for its pages. -/
theorem scan_eq_panicked (compiles : Pattern.compile? pattern = some compiled)
    (many : Recency.mostKeys < count) (store : MemoryStore) (cursor : Nat) (now : Millis) :
    store.scan cursor pattern count now = .ok .panicked := by
  have large : Recency.mostKeys < max count 1 := Nat.lt_of_lt_of_le many (Nat.le_max_left _ _)
  rw [scan, compiles]
  dsimp only
  rw [store.recency.page_eq_panicked cursor large]
  rfl

end

end MemoryStore

end FailOpenCache
