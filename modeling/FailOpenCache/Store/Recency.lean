import FailOpenCache.Store.Request
import FailOpenCache.Table

/-!
# Recency of use

Every use of a key gives it a fresh stamp, greater than all before. Two maps are kept in step: the
keys in the order of their stamps, and the stamp of each key. The first key in order is the one
whose last use is the oldest. A cursor of a walk is a stamp, and since stamps only grow, a key
that a walk has not reached yet is never behind its cursor.
-/

namespace FailOpenCache

/-- Keys in the order of their last use. -/
structure Recency where
  /-- The stamps in use, in increasing order, each with its key. -/
  order : List (Nat × String)
  /-- The stamp of each key. -/
  stamps : Table Nat
  /-- The next stamp. -/
  next : Nat
deriving DecidableEq

namespace Recency

/-- No key has been used. -/
def empty : Recency := ⟨[], .empty, 0⟩

/-- How many keys there are. -/
def size (recency : Recency) : Nat := recency.stamps.size

/-- There is no key. -/
def isEmpty (recency : Recency) : Bool := recency.stamps.isEmpty

/-- The order without the stamp that a key has, if it has one. -/
def orderWithout (recency : Recency) (key : String) : List (Nat × String) :=
  match recency.stamps.find? key with
  | some stamp => recency.order.filter fun entry => entry.1 ≠ stamp
  | none => recency.order

/-- Make a key the one used last. -/
def touch (recency : Recency) (key : String) : Recency :=
  { order := recency.orderWithout key ++ [(recency.next, key)]
    stamps := recency.stamps.put key recency.next
    next := recency.next + 1 }

/-- Forget a key. -/
def remove (recency : Recency) (key : String) : Recency :=
  { recency with order := recency.orderWithout key, stamps := recency.stamps.erase key }

/-- Take out the key whose last use is the oldest. -/
def takeOldest? (recency : Recency) : Option (String × Recency) :=
  match recency.order with
  | [] => none
  | (_, key) :: rest =>
    some (key, { recency with order := rest, stamps := recency.stamps.erase key })

/-- Up to so many keys, in the order of their last use, from a stamp on. The next cursor is the
stamp behind the last one of the page, or zero when no key is left. -/
def pageOf (recency : Recency) (cursor count : Nat) : Page :=
  let found := recency.order.filter fun entry => cursor ≤ entry.1
  let shown := found.take count
  let next := match shown.getLast?, found.drop count with
    | some (stamp, _), _ :: _ => stamp + 1
    | _, _ => 0
  ⟨shown.map Prod.snd, next⟩

/-- The most keys for which room can be made at once: a list takes up less than half of what a word
can count, and each key takes up three words of it. -/
def mostKeys : Nat := (2 ^ 63 - 1) / 24

/-- Make room for so many keys, and show a page of them. Making room for too many panics, however
few there are to show. -/
def page (recency : Recency) (cursor count : Nat) : Ending Page :=
  if mostKeys < count then .panicked else .returned (recency.pageOf cursor count)

end Recency

end FailOpenCache
