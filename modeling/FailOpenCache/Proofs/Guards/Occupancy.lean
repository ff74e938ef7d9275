import FailOpenCache.Proofs.Guards.Service
import Mathlib.Data.Finset.Card
import Mathlib.Order.Bounds.Defs

/-!
# The size of the table

The table of locks grows by new keys only, and a new key that finds it full first drops the locks of
all keys that are not in use. So the table is never larger than its bound or than the greatest
number of keys that were in use at once: when it grows beyond its bound, every one of its keys is in
use. Pruning leaves exactly the keys in use and counts the others.
-/

namespace FailOpenCache

/-- A table grows by one name at most when a value is put into it. -/
theorem Table.size_put_le {α : Type} (table : Table α) (name : String) (value : α) :
    (table.put name value).size ≤ table.size + 1 := by
  suffices general : ∀ entries : List (String × α),
      (putEntry name value entries).length ≤ entries.length + 1 from general table.entries
  intro entries
  induction entries with
  | nil => exact Nat.le_refl _
  | cons entry rest ih =>
    rw [putEntry]
    split
    · exact Nat.le_succ _
    · exact Nat.succ_le_succ ih

namespace Guards

variable {guards : Guards}

/-- The table has as many names as locks. -/
theorem length_names (guards : Guards) : guards.locks.names.length = guards.size :=
  List.length_map _

/-- The keys in use: those that somebody has a ticket for. -/
def keysInUse (guards : Guards) : Finset String := (guards.tickets.map Ticket.key).toFinset

/-- A key is in use when there is a ticket for it. -/
theorem mem_keysInUse {key : String} :
    key ∈ guards.keysInUse ↔ ∃ ticket ∈ guards.tickets, ticket.key = key := by
  rw [keysInUse, List.mem_toFinset, List.mem_map]

namespace Coherent

/-- The lock of a key is in use when the key is. -/
theorem inUse_iff (coherent : guards.Coherent) {key : String} {lock : Nat}
    (found : guards.locks.find? key = some lock) :
    guards.inUse lock = true ↔ key ∈ guards.keysInUse := by
  rw [inUse, List.any_eq_true, mem_keysInUse]
  refine exists_congr fun ticket => and_congr_right fun held => ?_
  have led := coherent.led ticket held
  rw [beq_iff_eq]
  constructor
  · intro same
    rw [same] at led
    exact coherent.apart _ _ _ led found
  · intro same
    rw [same, found] at led
    exact (Option.some.inj led).symm

/-- A key in use has a lock in the table. -/
theorem mem_names (coherent : guards.Coherent) {key : String} (used : key ∈ guards.keysInUse) :
    key ∈ guards.locks.names := by
  obtain ⟨ticket, held, rfl⟩ := mem_keysInUse.1 used
  rw [Table.mem_names_iff, coherent.led ticket held]
  rfl

/-- Without the idle locks the table has those of the keys in use. -/
theorem names_dropIdle (coherent : guards.Coherent) :
    guards.dropIdle.locks.names =
      guards.locks.names.filter fun key => decide (key ∈ guards.keysInUse) := by
  rw [Guards.dropIdle, Table.filter, Table.names, Table.names, List.filter_map]
  refine congrArg (List.map Prod.fst) (List.filter_congr fun entry held => ?_)
  have found : guards.locks.find? entry.1 = some entry.2 := Table.find?_of_mem held
  rw [Bool.eq_iff_iff, coherent.inUse_iff found, Function.comp_apply, decide_eq_true_iff]

/-- Without the idle locks the keys of the table are the keys in use. -/
theorem mem_names_dropIdle (coherent : guards.Coherent) (key : String) :
    key ∈ guards.dropIdle.locks.names ↔ key ∈ guards.keysInUse := by
  rw [coherent.names_dropIdle, List.mem_filter, decide_eq_true_iff]
  exact ⟨And.right, fun used => ⟨coherent.mem_names used, used⟩⟩

/-- Without the idle locks there are as many locks as keys in use. -/
theorem size_dropIdle (coherent : guards.Coherent) :
    guards.dropIdle.size = guards.keysInUse.card := by
  have same : guards.dropIdle.locks.names.toFinset = guards.keysInUse := by
    ext key
    rw [List.mem_toFinset, coherent.mem_names_dropIdle]
  have distinct : guards.dropIdle.locks.names.Nodup := guards.dropIdle.locks.distinct
  rw [← same, List.toFinset_card_of_nodup distinct, length_names]

/-- Pruning counts the keys of the table that are not in use. -/
theorem prune_fst (coherent : guards.Coherent) :
    guards.prune.1 =
      (guards.locks.names.filter fun key => decide (key ∉ guards.keysInUse)).length := by
  have all := List.length_eq_length_filter_add (l := guards.locks.names)
    fun key => decide (key ∈ guards.keysInUse)
  have kept := guards.dropIdle.length_names
  rw [coherent.names_dropIdle] at kept
  rw [guards.length_names, kept] at all
  rw [prune, all, Nat.add_sub_cancel_left]
  simp only [decide_not]

end Coherent

/-- Looking for the lock of a key leaves the table within its bound or with the keys in use and this
key alone, if it makes the table larger. -/
theorem Coherent.size_lockOf_le (coherent : guards.Coherent) (key : String) :
    (guards.lockOf key).2.size ≤
      max (max guards.size guards.bound) (insert key guards.keysInUse).card := by
  rw [lockOf]
  cases found : guards.locks.find? key with
  | some lock => exact le_max_of_le_left (le_max_left _ _)
  | none =>
    dsimp only
    split
    · -- The key has no lock, so it is not in use.
      have idle : key ∉ guards.keysInUse := by
        intro used
        have held := coherent.mem_names used
        rw [Table.mem_names_iff, found] at held
        exact absurd held Bool.false_ne_true
      refine le_max_of_le_right ?_
      rw [Finset.card_insert_of_notMem idle, ← coherent.size_dropIdle]
      exact Table.size_put_le ..
    · rename_i room
      refine le_max_of_le_left (le_max_of_le_right ?_)
      exact Nat.le_trans (Table.size_put_le ..) (Nat.lt_of_not_le room)

/-- A key is in use from when a ticket is taken for it. -/
theorem Coherent.keysInUse_take (coherent : guards.Coherent) (key : String) :
    (guards.take key).2.keysInUse = insert key guards.keysInUse := by
  obtain ⟨-, own, -, tickets⟩ := take_spec coherent key
  ext other
  rw [keysInUse, tickets, List.map_append, List.map_singleton, own, List.mem_toFinset,
    List.mem_append, List.mem_singleton, Finset.mem_insert, or_comm, keysInUse, List.mem_toFinset]

end Guards

namespace GuardScene

variable {scene : GuardScene}

/-- No move changes the bound of the table. -/
theorem bound_step (scene : GuardScene) (move : GuardMove) :
    (scene.step move).guards.bound = scene.guards.bound := by
  cases move with
  | acquire key =>
    show (scene.guards.lockOf key).2.bound = _
    rw [Guards.lockOf]
    split
    · rfl
    · dsimp only
      split <;> rfl
  | poll ticket => rfl
  | drop ticket => rfl
  | prune => rfl

/-- A move that makes the table larger leaves it within its bound, or with keys in use alone. -/
theorem Sound.size_step_le (sound : scene.Sound) (move : GuardMove) :
    (scene.step move).guards.size ≤
      max (max scene.guards.size scene.guards.bound) (scene.step move).guards.keysInUse.card := by
  have before : scene.guards.size ≤ max (max scene.guards.size scene.guards.bound)
      (scene.step move).guards.keysInUse.card := le_max_of_le_left (le_max_left _ _)
  cases move with
  | acquire key =>
    have used : (scene.step (.acquire key)).guards.keysInUse = _ :=
      sound.coherent.keysInUse_take key
    rw [used]
    exact sound.coherent.size_lockOf_le key
  | poll ticket => exact before
  | drop ticket => exact before
  | prune =>
    have fewer : scene.guards.dropIdle.size ≤ scene.guards.size := List.length_filter_le _ _
    exact Nat.le_trans fewer before

/-- The greatest number of keys that are in use at once while moves are made. -/
def peak (scene : GuardScene) : List GuardMove → Nat
  | [] => scene.guards.keysInUse.card
  | move :: rest => max scene.guards.keysInUse.card ((scene.step move).peak rest)

/-- The peak is reached after some of the moves, and never passed. -/
theorem isGreatest_peak (scene : GuardScene) (moves : List GuardMove) :
    IsGreatest {count | ∃ earlier, earlier <+: moves ∧
      (scene.run earlier).guards.keysInUse.card = count} (scene.peak moves) := by
  induction moves generalizing scene with
  | nil =>
    refine ⟨⟨[], List.prefix_rfl, rfl⟩, ?_⟩
    rintro count ⟨earlier, front, rfl⟩
    rw [List.prefix_nil.1 front]
    exact Nat.le_refl _
  | cons move rest ih =>
    obtain ⟨⟨earlier, front, reached⟩, above⟩ := ih (scene.step move)
    constructor
    · rcases le_total scene.guards.keysInUse.card ((scene.step move).peak rest) with less | more
      · exact ⟨move :: earlier, List.cons_prefix_cons.2 ⟨rfl, front⟩,
          reached.trans (max_eq_right less).symm⟩
      · exact ⟨[], List.nil_prefix, (max_eq_left more).symm⟩
    · rintro count ⟨earlier', front', rfl⟩
      rcases List.prefix_cons_iff.1 front' with rfl | ⟨later, rfl, inner⟩
      · exact le_max_left _ _
      · exact le_max_of_le_right (above ⟨later, inner, rfl⟩)

/-- While moves are made the table stays within its bound and the peak, if it is within them at
first. -/
theorem Sound.size_run_le (sound : scene.Sound) (moves : List GuardMove) :
    (scene.run moves).guards.size ≤
      max (max scene.guards.size scene.guards.bound) (scene.peak moves) := by
  induction moves generalizing scene with
  | nil => exact le_max_of_le_left (le_max_left _ _)
  | cons move rest ih =>
    have first := sound.size_step_le move
    have later := ih (sound.step move)
    have counted : (scene.step move).guards.keysInUse.card ≤ (scene.step move).peak rest :=
      ((scene.step move).isGreatest_peak rest).2 ⟨[], List.nil_prefix, rfl⟩
    rw [bound_step] at later
    show ((scene.step move).run rest).guards.size ≤ max (max scene.guards.size scene.guards.bound)
      (max scene.guards.keysInUse.card ((scene.step move).peak rest))
    omega

/-- A key is in use when somebody owns its lock or waits for it. -/
theorem Sound.mem_keysInUse_iff (sound : scene.Sound) (key : String) :
    key ∈ scene.guards.keysInUse ↔
      ∃ ticket, ticket.key = key ∧ (scene.Owns ticket ∨ scene.Awaits ticket) := by
  rw [Guards.mem_keysInUse]
  constructor
  · rintro ⟨ticket, held, rfl⟩
    exact ⟨ticket, rfl, sound.mem_line_iff.1 (Guards.mem_line.2 ⟨held, rfl⟩)⟩
  · rintro ⟨ticket, rfl, present⟩
    exact ⟨ticket, (Guards.mem_line.1 (sound.mem_line_iff.2 present)).1, rfl⟩

/-- The table of locks stays bounded. After any moves on any keys it has no more locks than its
bound, which is one at least, or than the greatest number of keys that were in use at once, owned or
awaited, at some moment so far. Pruning then counts the keys of the table that are not in use, and
leaves those that are. -/
theorem run_bounded (bound : Nat) (moves : List GuardMove) :
    let scene := run moves (start bound)
    scene.guards.size ≤ max (max bound 1) ((start bound).peak moves) ∧
      IsGreatest {count | ∃ earlier, earlier <+: moves ∧
        (run earlier (start bound)).guards.keysInUse.card = count} ((start bound).peak moves) ∧
      (∀ earlier key, key ∈ (run earlier (start bound)).guards.keysInUse ↔
        ∃ ticket, ticket.key = key ∧ ((run earlier (start bound)).Owns ticket ∨
          (run earlier (start bound)).Awaits ticket)) ∧
      scene.guards.prune.1 =
        (scene.guards.locks.names.filter fun key => decide (key ∉ scene.guards.keysInUse)).length ∧
      ∀ key, key ∈ scene.guards.prune.2.locks.names ↔ key ∈ scene.guards.keysInUse := by
  intro scene
  have sound : scene.Sound := (sound_start bound).run moves
  have size := (sound_start bound).size_run_le moves
  have empty : max (start bound).guards.size (start bound).guards.bound = max bound 1 :=
    Nat.max_eq_right (Nat.zero_le _)
  rw [empty] at size
  exact ⟨size, (start bound).isGreatest_peak moves,
    fun earlier key => ((sound_start bound).run earlier).mem_keysInUse_iff key,
    sound.coherent.prune_fst, sound.coherent.mem_names_dropIdle⟩

end GuardScene

end FailOpenCache
