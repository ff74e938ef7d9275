import FailOpenCache.Number.Binary64
import FailOpenCache.Sorted

/-!
# Documents

A document is a value of the interchange format in which cached values are stored: null, a
boolean, a number, a string, an array or an object. Integers of one signed or unsigned word are
kept apart from other numbers, so one and one point zero are different documents. An object is
kept as its members in the order of their names, each name once.
-/

namespace FailOpenCache

/-- A value of the interchange format. -/
inductive Document where
  /-- The absent value. -/
  | null
  /-- A truth value. -/
  | bool (value : Bool)
  /-- An integer of one signed or unsigned word. -/
  | integer (value : Int)
  /-- Any other number. -/
  | real (value : Binary64)
  /-- A text. -/
  | string (value : String)
  /-- A sequence of documents. -/
  | array (items : List Document)
  /-- Documents under names, in the order of the names. -/
  | object (members : List (String × Document))

namespace Document

instance : Inhabited Document := ⟨null⟩

/-- The least integer that is kept as such. -/
def leastInteger : Int := -2 ^ 63

/-- The greatest integer that is kept as such. -/
def greatestInteger : Int := 2 ^ 64 - 1

/-- How many containers may stand inside each other. -/
def depthLimit : Nat := 127

mutual

/-- Two documents are the same, part by part. -/
def same : Document → Document → Bool
  | null, null => true
  | bool left, bool right => left == right
  | integer left, integer right => decide (left = right)
  | real left, real right => decide (left = right)
  | string left, string right => left == right
  | array left, array right => sameItems left right
  | object left, object right => sameMembers left right
  | _, _ => false

/-- Two sequences are the same, item by item. -/
def sameItems : List Document → List Document → Bool
  | [], [] => true
  | left :: lefts, right :: rights => same left right && sameItems lefts rights
  | _, _ => false

/-- Two lists of members are the same, member by member. -/
def sameMembers : List (String × Document) → List (String × Document) → Bool
  | [], [] => true
  | left :: lefts, right :: rights =>
    left.1 == right.1 && same left.2 right.2 && sameMembers lefts rights
  | _, _ => false

end

mutual

/-- The comparison decides equality. -/
theorem same_iff : ∀ left right : Document, same left right = true ↔ left = right
  | null, right => by cases right <;> simp [same]
  | bool _, right => by cases right <;> simp [same]
  | integer _, right => by cases right <;> simp [same]
  | real _, right => by cases right <;> simp [same]
  | string _, right => by cases right <;> simp [same]
  | array items, right => by
    cases right with
    | array others => simp [same, sameItems_iff items others]
    | _ => simp [same]
  | object members, right => by
    cases right with
    | object others => simp [same, sameMembers_iff members others]
    | _ => simp [same]

/-- The comparison of sequences decides equality. -/
theorem sameItems_iff : ∀ left right : List Document, sameItems left right = true ↔ left = right
  | [], right => by cases right <;> simp [sameItems]
  | item :: items, right => by
    cases right with
    | nil => simp [sameItems]
    | cons other others => simp [sameItems, same_iff item other, sameItems_iff items others]

/-- The comparison of members decides equality. -/
theorem sameMembers_iff : ∀ left right : List (String × Document),
    sameMembers left right = true ↔ left = right
  | [], right => by cases right <;> simp [sameMembers]
  | (name, value) :: members, right => by
    cases right with
    | nil => simp [sameMembers]
    | cons other others =>
      obtain ⟨otherName, otherValue⟩ := other
      simp [sameMembers, same_iff value otherValue, sameMembers_iff members others]

end

instance : DecidableEq Document := fun left right =>
  if equal : same left right then .isTrue ((same_iff left right).1 equal)
  else .isFalse fun isEqual => equal ((same_iff left right).2 isEqual)

/-- The object of members in any order; of several under one name the last one counts. -/
def ofMembers (members : List (String × Document)) : Document :=
  object (sortByName members)

/-- The member of an object under a name. -/
def member? : Document → String → Option Document
  | object members, name => members.lookup name
  | _, _ => none

mutual

/-- How many containers stand inside each other. -/
def depth : Document → Nat
  | array items => itemsDepth items + 1
  | object members => membersDepth members + 1
  | _ => 0

/-- The greatest depth of a sequence. -/
def itemsDepth : List Document → Nat
  | [] => 0
  | item :: rest => max (depth item) (itemsDepth rest)

/-- The greatest depth of a list of members. -/
def membersDepth : List (String × Document) → Nat
  | [] => 0
  | member :: rest => max (depth member.2) (membersDepth rest)

end

mutual

/-- The one form of a document: integers in range, and names in order, each once. -/
def WellFormed : Document → Prop
  | integer value => leastInteger ≤ value ∧ value ≤ greatestInteger
  | array items => ItemsWellFormed items
  | object members => (members.map Prod.fst).Pairwise (· < ·) ∧ MembersWellFormed members
  | _ => True

/-- Every item has the one form. -/
def ItemsWellFormed : List Document → Prop
  | [] => True
  | item :: rest => WellFormed item ∧ ItemsWellFormed rest

/-- Every member's value has the one form. -/
def MembersWellFormed : List (String × Document) → Prop
  | [] => True
  | member :: rest => WellFormed member.2 ∧ MembersWellFormed rest

end

end Document

end FailOpenCache
